import FortAgent.Uart.Bridge
import FortAgent.Coap.MidRouting
import FortAgent.Serial.TransmitQueue

/-!
# The way back

UDP clients and the JAUS side share the tracker.  A request of the JAUS side has a
port from a range of its own, and when a response comes back with such a port, it is
taken for one of the JAUS side.  `receives_iff_proper` says when that is right, given
that the port comes back; and `routes_back` when the port does come back, after any
run of the bridge.
-/

namespace FortAgent.Uart

open Coap Serial Jaus

/-! ## Requests -/

/-- Where a datagram comes from: a port of the remote host, or the JAUS side, on behalf
of one of its ports. -/
inductive Origin
  | udp (port : UInt16)
  | src (jausPort : JausPort)
deriving DecidableEq, Repr

namespace Origin

/-- The port that the tracker is given. -/
def port : Origin → UInt16
  | .udp port => port
  | .src jausPort => jausPort.value

/-- What the bridge gets of a datagram. -/
def received : Origin → List UInt8 → List UInt8
  | .udp _, datagram => datagram.take fortAgentBufferUnitSz
  | .src _, coapMsg => coapMsg

/-- The call for a datagram. -/
def send (crc8 : List UInt8 → UInt8) (origin : Origin) (now : SteadyTime) (datagram : List UInt8)
    (bridge : UartCoapBridge) : Outcome (UartCoapBridge × Forwarded) :=
  match origin with
  | .udp port => bridge.receiveFromRemote crc8 now true port datagram
  | .src jausPort => bridge.sendSRCRequest crc8 now datagram jausPort.value

/-- A UDP client keeps out of the range of the JAUS side, which in turn uses the ports
between the two ends of the range. -/
def Proper : Origin → Prop
  | .udp port => isJausPort port = false
  | .src jausPort => jausPort.IsRequested

instance (origin : Origin) : Decidable origin.Proper :=
  match origin with
  | .udp port => inferInstanceAs (Decidable (isJausPort port = false))
  | .src jausPort => inferInstanceAs (Decidable jausPort.IsRequested)

/-- A message from the serial port goes back: to the JAUS bridge exactly if it is the
origin, and then with the port of the request, and to a port of the remote host exactly
if that is the origin. -/
def Receives (origin : Origin) (outcome : Outcome Delivery) : Prop :=
  ∃ delivery, outcome = .returned delivery ∧
    (∀ port, (∃ payload, delivery = .jaus port payload) ↔
      ∃ jausPort, origin = .src jausPort ∧ port = jausPort.value) ∧
    ∀ port, (∃ data, delivery = .remote port data) ↔ origin = .udp port

end Origin

/-! ## Runs -/

/-- What happens to a bridge. -/
inductive UartEvent
  | datagram (origin : Origin) (now : SteadyTime) (bytes : List UInt8)
  /-- A datagram from another host. -/
  | foreign (now : SteadyTime) (port : UInt16) (bytes : List UInt8)
  | serialDataReceived (message : List UInt8)
  | removeOldMids (now : SteadyTime)
  /-- The serial port reports on a write. -/
  | written (bytesTransferred : Nat)
  | failed
deriving DecidableEq, Repr

section Runs

variable (crc8 : List UInt8 → UInt8)

/-- The bridge after an event.  What the JAUS bridge does with a message does not
matter here. -/
def UartCoapBridge.step (bridge : UartCoapBridge) : UartEvent → Outcome UartCoapBridge
  | .datagram origin now bytes => (origin.send crc8 now bytes bridge).map Prod.fst
  | .foreign now port bytes =>
    (bridge.receiveFromRemote crc8 now false port bytes).map Prod.fst
  | .serialDataReceived message => (bridge.route crc8 message).map fun _ ↦ bridge
  | .removeOldMids now =>
    .returned { bridge with coapPorts := bridge.coapPorts.removeOldMids now }
  | .written bytesTransferred =>
    .returned { bridge with
      serialHandler := (bridge.serialHandler.portStep (.written bytesTransferred)).1 }
  | .failed =>
    .returned { bridge with serialHandler := (bridge.serialHandler.portStep .failed).1 }

/-- A run leads from a bridge to another. -/
inductive Reaches : UartCoapBridge → List UartEvent → UartCoapBridge → Prop
  | nil (bridge : UartCoapBridge) : Reaches bridge [] bridge
  | cons {bridge next last : UartCoapBridge} {event : UartEvent} {events : List UartEvent}
      (hstep : bridge.step crc8 event = .returned next) (h : Reaches next events last) :
      Reaches bridge (event :: events) last

/-- The event leaves an entry for `mid` alone that was made at the time `created`: it is
no message with this id that is tracked, and no sweep after the timeout. -/
def UartEvent.Spares (mid : UInt16) (created : SteadyTime) : UartEvent → Prop
  | .datagram origin _ bytes =>
    ∀ m : Message, origin.received bytes = m.bytes → m.TracksMid 3 → m.mid ≠ mid
  | .removeOldMids now => now < created + midTimeoutTime
  | .foreign .. | .serialDataReceived _ | .written _ | .failed => True

/-! ## One event -/

theorem tracksMid_of_room (m : Message) {room : Nat} (h : 3 ≤ room) :
    m.TracksMid room ↔ m.TracksMid 3 := by
  simp only [Message.TracksMid, Message.TokensFit, h, Nat.le_refl]

/-- What becomes of a message. -/
theorem send_message {origin : Origin} {bytes : List UInt8} {m : Message}
    (hm : origin.received bytes = m.bytes) (now : SteadyTime) (bridge : UartCoapBridge) :
    origin.send crc8 now bytes bridge =
      let message := (m.forwarded crc8 origin.port).bytes
      match bridge.serialHandler.asyncSendMessageToSerialPort message message.length with
      | some (serialHandler, taken) =>
        .returned (⟨if m.TracksMid 3 then bridge.coapPorts.trackMid now origin.port m.mid
            else bridge.coapPorts, serialHandler⟩, .sent message taken)
      | none => .undefined := by
  cases origin with
  | udp port =>
      have hunit : m.bytes.length ≤ fortAgentBufferUnitSz := by
        rw [← hm]
        exact List.length_take_le ..
      have hroom : 3 ≤ fortAgentBufferUnitSz + 3 - m.bytes.length := by omega
      have hmax : fortAgentBufferUnitSz + 3 ≤
          (m.bytes ++ List.replicate (fortAgentBufferUnitSz + 3 - m.bytes.length) 0).length :=
        le_length_append_replicate 0 (Nat.le_add_right_of_le hunit)
      rw [Origin.send, bridge.receiveFromRemote_message crc8 now port hm,
        bridge.forward_message crc8 now port (Nat.add_le_add_right hunit 3) hmax]
      simp only [tracksMid_of_room m hroom]
      rfl
  | src jausPort =>
      obtain rfl : bytes = m.bytes := hm
      rw [Origin.send, UartCoapBridge.sendSRCRequest,
        bridge.forward_message crc8 now jausPort.value (Nat.le_refl _) (by simp)]
      simp only [tracksMid_of_room m (Nat.le_of_eq (Nat.add_sub_cancel_left _ 3).symm)]
      rfl

/-- A message whose frame fits is sent. -/
theorem send_of_fits (origin : Origin) {bytes : List UInt8} {m : Message}
    (hm : origin.received bytes = m.bytes) (now : SteadyTime) (bridge : UartCoapBridge)
    (hstate : bridge.serialHandler.state = .operational)
    (hfits : (slip.frame (m.forwarded crc8 origin.port).bytes).length ≤
      bridge.serialHandler.writeBuffer.reserve) :
    ∃ next, origin.send crc8 now bytes bridge =
        .returned (next, .sent (m.forwarded crc8 origin.port).bytes true) ∧
      next.serialHandler.state = .operational ∧
      next.serialHandler.writeBuffer.reserve = bridge.serialHandler.writeBuffer.reserve -
        (slip.frame (m.forwarded crc8 origin.port).bytes).length := by
  have hcapacity : bridge.serialHandler.writeBuffer.reserve ≤ fortAgentBufferUnitSz :=
    Nat.sub_le ..
  have hlength : (m.forwarded crc8 origin.port).bytes.length ≤
      bridge.serialHandler.writeBuffer.reserve := by
    rw [slip.length_frame, slip.length_escape] at hfits
    omega
  have hcheck : ¬(bridge.serialHandler.state ≠ .operational ∨
      bridge.serialHandler.writeBuffer.reserve < (m.forwarded crc8 origin.port).bytes.length) :=
    not_or.mpr ⟨not_not.mpr hstate, Nat.not_lt.mpr hlength⟩
  rw [send_message crc8 hm]
  dsimp only
  rw [SerialHandler.asyncSendMessageToSerialPort_eq, if_neg hcheck,
    if_neg (UartCoapBridge.bytes_ne_nil _), if_pos (Nat.le_trans hfits hcapacity)]
  refine ⟨_, rfl, ?_, ?_⟩
  · exact (SerialHandler.state_asyncSendData ..).trans hstate
  · exact SerialHandler.reserve_asyncSendData _ hstate hfits

/-- What the tracker has after a message. -/
theorem coapPorts_send_message {origin : Origin} {bytes : List UInt8} {m : Message}
    (hm : origin.received bytes = m.bytes) {now : SteadyTime} {bridge bridge' : UartCoapBridge}
    {forwarded : Forwarded}
    (hsend : origin.send crc8 now bytes bridge = .returned (bridge', forwarded)) :
    bridge'.coapPorts = (if m.TracksMid 3 then bridge.coapPorts.trackMid now origin.port m.mid
        else bridge.coapPorts) ∧
      ∃ taken, forwarded = .sent (m.forwarded crc8 origin.port).bytes taken := by
  rw [send_message crc8 hm] at hsend
  dsimp only at hsend
  split at hsend
  · next serialHandler taken _ =>
      cases hsend
      exact ⟨rfl, taken, rfl⟩
  · cases hsend

/-- Other bytes leave the tracker as it is. -/
theorem coapPorts_send_rejected {origin : Origin} {bytes : List UInt8}
    (h : ∀ m : Message, origin.received bytes ≠ m.bytes) {now : SteadyTime}
    {bridge bridge' : UartCoapBridge} {forwarded : Forwarded}
    (hsend : origin.send crc8 now bytes bridge = .returned (bridge', forwarded)) :
    bridge'.coapPorts = bridge.coapPorts := by
  have hlooks (slack : List UInt8) :
      looksLikeCoap (origin.received bytes ++ slack) (origin.received bytes).length ≠
        some true := by
    intro htrue
    have hle : (origin.received bytes).length ≤ (origin.received bytes ++ slack).length := by
      simp
    obtain ⟨m, slack', hbuffer, hlen⟩ := (looksLikeCoap_iff hle).mp htrue
    exact h m (List.append_inj hbuffer hlen).1
  cases origin with
  | udp port =>
      rw [Origin.send, UartCoapBridge.receiveFromRemote] at hsend
      simp only [Bool.not_true, Bool.false_eq_true, if_false] at hsend
      split at hsend
      · cases hsend
        rfl
      · exact UartCoapBridge.coapPorts_forward_rejected crc8 (hlooks _) hsend
  | src jausPort => exact UartCoapBridge.coapPorts_forward_rejected crc8 (hlooks _) hsend

/-- A datagram from another host changes nothing. -/
theorem receiveFromRemote_foreign (bridge : UartCoapBridge) (now : SteadyTime) (port : UInt16)
    (bytes : List UInt8) :
    bridge.receiveFromRemote crc8 now false port bytes = .returned (bridge, .ignored) := by
  rw [UartCoapBridge.receiveFromRemote]
  split
  · rfl
  · rfl

/-- **One event** keeps the entries that it spares. -/
theorem step_spares {bridge next : UartCoapBridge} {event : UartEvent}
    (hstep : bridge.step crc8 event = .returned next) {mid : UInt16} {mapped : MappedMid}
    (hmapped : bridge.coapPorts.mids[mid]? = some mapped)
    (hspares : event.Spares mid mapped.timeCreated) :
    next.coapPorts.mids[mid]? = some mapped := by
  cases event with
  | datagram origin now bytes =>
      obtain ⟨⟨bridge', forwarded⟩, hsend, rfl⟩ := Outcome.eq_returned_of_map hstep
      by_cases hmessage : ∃ m : Message, origin.received bytes = m.bytes
      · obtain ⟨m, hm⟩ := hmessage
        rw [(coapPorts_send_message crc8 hm hsend).1]
        split
        · next htracks =>
            rwa [CoapPortTracker.getElem?_trackMid, if_neg (hspares m hm htracks)]
        · exact hmapped
      · rwa [coapPorts_send_rejected crc8 (fun m hm ↦ hmessage ⟨m, hm⟩) hsend]
  | foreign now port bytes =>
      obtain ⟨⟨bridge', forwarded⟩, hreceive, rfl⟩ := Outcome.eq_returned_of_map hstep
      rw [receiveFromRemote_foreign] at hreceive
      cases hreceive
      exact hmapped
  | serialDataReceived message =>
      obtain ⟨delivery, -, rfl⟩ := Outcome.eq_returned_of_map hstep
      exact hmapped
  | removeOldMids now =>
      cases hstep
      have hyoung : now < mapped.timeCreated + midTimeoutTime := hspares
      rw [CoapPortTracker.getElem?_removeOldMids, hmapped, Option.filter_some,
        if_pos (decide_eq_true hyoung)]
  | written bytesTransferred =>
      cases hstep
      exact hmapped
  | failed =>
      cases hstep
      exact hmapped

/-- Spared entries stay. -/
theorem reaches_spares {bridge last : UartCoapBridge} {events : List UartEvent}
    (h : Reaches crc8 bridge events last) {mid : UInt16} {mapped : MappedMid}
    (hmapped : bridge.coapPorts.mids[mid]? = some mapped)
    (hspares : ∀ event ∈ events, event.Spares mid mapped.timeCreated) :
    last.coapPorts.mids[mid]? = some mapped := by
  induction h with
  | nil bridge => exact hmapped
  | cons hstep _ ih =>
      obtain ⟨hevent, hevents⟩ := List.forall_mem_cons.mp hspares
      exact ih (step_spares crc8 hstep hmapped hevent) hevents

/-! ## The way back -/

/-- Who receives a message that goes to the JAUS bridge is the JAUS side. -/
theorem Origin.Receives.eq_src {origin : Origin} {port : UInt16} {payload : List UInt8}
    (h : origin.Receives (.returned (.jaus port payload))) :
    ∃ jausPort, origin = .src jausPort := by
  obtain ⟨delivery, hdelivery, hjaus, -⟩ := h
  obtain rfl := Outcome.returned.inj hdelivery
  obtain ⟨jausPort, horigin, -⟩ := (hjaus port).mp ⟨payload, rfl⟩
  exact ⟨jausPort, horigin⟩

/-- A message that goes to the JAUS bridge is received by the JAUS side only. -/
theorem receives_jaus_iff {origin : Origin} {payload : List UInt8} :
    origin.Receives (.returned (.jaus origin.port payload)) ↔
      ∃ jausPort, origin = .src jausPort := by
  constructor
  · exact Origin.Receives.eq_src
  · rintro ⟨jausPort, rfl⟩
    refine ⟨_, rfl, fun port ↦ ?_, fun port ↦ ?_⟩
    · constructor
      · rintro ⟨payload', hdelivery⟩
        exact ⟨jausPort, rfl, (Delivery.jaus.inj hdelivery).1.symm⟩
      · rintro ⟨jausPort', horigin, rfl⟩
        rw [Origin.src.inj horigin]
        exact ⟨payload, rfl⟩
    · refine iff_of_false ?_ Origin.noConfusion
      rintro ⟨data, hdelivery⟩
      cases hdelivery

/-- A message that goes to the remote host is received by a UDP client only. -/
theorem receives_remote_iff {origin : Origin} {data : List UInt8} :
    origin.Receives (.returned (.remote origin.port data)) ↔ ∃ port, origin = .udp port := by
  constructor
  · rintro ⟨delivery, hdelivery, -, hremote⟩
    obtain rfl := Outcome.returned.inj hdelivery
    exact ⟨origin.port, (hremote origin.port).mp ⟨data, rfl⟩⟩
  · rintro ⟨port, rfl⟩
    refine ⟨_, rfl, fun port' ↦ ?_, fun port' ↦ ?_⟩
    · refine iff_of_false ?_ ?_
      · rintro ⟨payload, hdelivery⟩
        cases hdelivery
      · rintro ⟨jausPort, horigin, -⟩
        cases horigin
    · constructor
      · rintro ⟨data', hdelivery⟩
        exact congrArg Origin.udp (Delivery.remote.inj hdelivery).1
      · intro horigin
        rw [Origin.udp.inj horigin]
        exact ⟨data, rfl⟩

/-- **Two kinds of ports.**  When the port of a request comes back, the message goes
back to the origin exactly if that is proper. -/
theorem receives_iff_proper {origin : Origin} {bridge : UartCoapBridge} {m : Message}
    (hport : bridge.coapPorts.destination crc8 m = some origin.port) :
    origin.Receives (bridge.route crc8 m.bytes) ↔ origin.Proper := by
  rw [bridge.route_message crc8 m]
  cases hjaus : isJausPort origin.port with
  | true =>
      rw [deliveryOf_of_jaus crc8 hport hjaus, receives_jaus_iff]
      cases origin with
      | udp port =>
          refine iff_of_false ?_ fun hproper ↦ Bool.false_ne_true (hproper.symm.trans hjaus)
          rintro ⟨jausPort, horigin⟩
          cases horigin
      | src jausPort => exact iff_of_true ⟨jausPort, rfl⟩ ((isJausPort_value_iff jausPort).mp hjaus)
  | false =>
      rw [deliveryOf_of_remote crc8 hport hjaus, receives_remote_iff]
      cases origin with
      | udp port => exact iff_of_true ⟨port, rfl⟩ hjaus
      | src jausPort =>
          refine iff_of_false ?_ fun hproper ↦
            Bool.false_ne_true (hjaus.symm.trans (isJausPort_value hproper))
          rintro ⟨port, horigin⟩
          cases horigin

/-- The port of a response with tracking bytes. -/
theorem destination_of_trackedPort (tracker : CoapPortTracker) {response : Message}
    {port : UInt16} (hresponse : response.isResponse = true)
    (hport : trackedPort crc8 response.token = some port) :
    tracker.destination crc8 response = some port := by
  rw [CoapPortTracker.destination, Message.isRequest_of_isResponse hresponse, hresponse, hport]
  rfl

/-- The port of a response without them whose message id is in the table. -/
theorem destination_of_mapped {tracker : CoapPortTracker} {response : Message}
    {mapped : MappedMid} (hresponse : response.isResponse = true)
    (hport : trackedPort crc8 response.token = none)
    (hmapped : tracker.mids[response.mid]? = some mapped) :
    tracker.destination crc8 response = some mapped.port := by
  rw [CoapPortTracker.destination, Message.isRequest_of_isResponse hresponse, hresponse, hport,
    CoapPortTracker.mappedPort, hmapped]
  rfl

/-- **The way back.**  From any state of the bridge, let a request of a proper origin be
handed to the serial handler as the message `sent`.  After any run, a response that
echoes the token of `sent` goes back to the origin, if the token of the request had at
most 4 bytes; and if it was longer and does not begin with tracking bytes, a response
that echoes the message id too, as long as its entry is spared. -/
theorem routes_back {origin : Origin} (hproper : origin.Proper) {now : SteadyTime}
    {bytes : List UInt8} {request : Message} (hbytes : origin.received bytes = request.bytes)
    (hrequest : request.isRequest = true) {bridge next last : UartCoapBridge} {sent : Message}
    {taken : Bool}
    (hsend : origin.send crc8 now bytes bridge = .returned (next, .sent sent.bytes taken))
    {events : List UartEvent} (hrun : Reaches crc8 next events last) {response : Message}
    (hresponse : response.isResponse = true) (htoken : response.token = sent.token) :
    (request.token.length ≤ 4 → origin.Receives (last.route crc8 response.bytes)) ∧
      (5 ≤ request.token.length → trackedPort crc8 request.token = none →
        response.mid = request.mid → (∀ event ∈ events, event.Spares request.mid now) →
        origin.Receives (last.route crc8 response.bytes)) := by
  obtain ⟨hports, _, hforwarded⟩ := coapPorts_send_message crc8 hbytes hsend
  obtain rfl : sent = request.forwarded crc8 origin.port :=
    Message.bytes_injective (Forwarded.sent.inj hforwarded).1
  constructor
  · intro hshort
    rw [request.forwarded_of_short crc8 origin.port hrequest hshort] at htoken
    refine (receives_iff_proper crc8 ?_).mpr hproper
    exact destination_of_trackedPort crc8 _ hresponse
      ((trackedPort_eq_some_iff crc8).mpr ⟨request.token, htoken⟩)
  · intro hlong hmarker hmid hspares
    have hnot : ¬(request.isRequest = true ∧ request.token.length ≤ 4) := fun h ↦
      Nat.not_lt.mpr h.2 hlong
    rw [request.forwarded_of_not crc8 origin.port hnot] at htoken
    have htracks : request.TracksMid 3 :=
      .inl ⟨hrequest, .inl fun hfit ↦ Nat.not_le.mpr hfit.1 hlong⟩
    have hentry : next.coapPorts.mids[request.mid]? = some ⟨origin.port, now⟩ := by
      rw [hports, if_pos htracks, CoapPortTracker.getElem?_trackMid, if_pos rfl]
    have hmapped := reaches_spares crc8 hrun hentry hspares
    refine (receives_iff_proper crc8 ?_).mpr hproper
    exact destination_of_mapped crc8 hresponse (by rw [htoken, hmarker]) (by rw [hmid, hmapped])

end Runs

/-! ## Concrete requests -/

/-- Two messages whose frames fit one after the other. -/
theorem send_send_of_fits (crc8 : List UInt8 → UInt8) {first second : Origin}
    {bytes bytes' : List UInt8} {m m' : Message} (hm : first.received bytes = m.bytes)
    (hm' : second.received bytes' = m'.bytes) (now : SteadyTime) (bridge : UartCoapBridge)
    (hstate : bridge.serialHandler.state = .operational)
    (hfits : (slip.frame (m.forwarded crc8 first.port).bytes).length +
      (slip.frame (m'.forwarded crc8 second.port).bytes).length ≤
        bridge.serialHandler.writeBuffer.reserve) :
    ∃ next last, first.send crc8 now bytes bridge =
        .returned (next, .sent (m.forwarded crc8 first.port).bytes true) ∧
      second.send crc8 (now + 1) bytes' next =
        .returned (last, .sent (m'.forwarded crc8 second.port).bytes true) ∧
      Reaches crc8 next [.datagram second (now + 1) bytes'] last := by
  obtain ⟨next, hsend, hstate', hreserve⟩ := send_of_fits crc8 first hm now bridge hstate
    (by omega)
  obtain ⟨last, hsend', -⟩ := send_of_fits crc8 second hm' (now + 1) next hstate'
    (by rw [hreserve]; omega)
  have hstep : next.step crc8 (.datagram second (now + 1) bytes') = .returned last := by
    rw [UartCoapBridge.step, hsend']
    rfl
  exact ⟨next, last, hsend, hsend', .cons hstep (.nil last)⟩

/-- A message for the JAUS bridge is not received by a UDP client. -/
theorem not_receives_jaus (client port : UInt16) (payload : List UInt8) :
    ¬(Origin.udp client).Receives (.returned (.jaus port payload)) := by
  intro h
  obtain ⟨jausPort, horigin⟩ := h.eq_src
  cases horigin

/-- A request of the JAUS side, and then one of a UDP client with a token of 6 bytes and
another message id; and the same two the other way round. -/
theorem routes_back_serialNumber :
    let client : Message :=
      { getRequest with mid := 0x1235, token := [1, 0, 0, 0, 0, 0], token_length := by decide }
    let tracked := contentResponse.withToken (trackingToken crc8Poly07 917) (by decide)
    let echo : Message :=
      { contentResponse with mid := 0x1235, token := client.token, token_length := by decide }
    (∃ next last,
      (Origin.src .serialNumber).send crc8Poly07 0 getRequest.bytes idleBridge =
          .returned (next, .sent (getRequest.forwarded crc8Poly07 917).bytes true) ∧
        Reaches crc8Poly07 next [.datagram (.udp 4321) 1 client.bytes] last ∧
        (Origin.src .serialNumber).Receives (last.route crc8Poly07 tracked.bytes)) ∧
    ∃ next last,
      (Origin.udp 4321).send crc8Poly07 0 client.bytes idleBridge =
          .returned (next, .sent client.bytes true) ∧
        Reaches crc8Poly07 next [.datagram (.src .serialNumber) 1 getRequest.bytes] last ∧
        (Origin.udp 4321).Receives (last.route crc8Poly07 echo.bytes) := by
  intro client tracked echo
  have hclient : (Origin.udp 4321).received client.bytes = client.bytes := by decide
  have hget : (Origin.src .serialNumber).received getRequest.bytes = getRequest.bytes := rfl
  have hforwarded : client.forwarded crc8Poly07 (Origin.udp 4321).port = client :=
    client.forwarded_of_not crc8Poly07 4321 (by decide)
  constructor
  · obtain ⟨next, last, hsend, -, hrun⟩ := send_send_of_fits crc8Poly07 hget hclient 0 idleBridge
      rfl (by decide +kernel)
    exact ⟨next, last, hsend, hrun, (routes_back crc8Poly07 (by decide) hget (by decide) hsend hrun
      (show tracked.isResponse = true by decide) (by decide +kernel)).1 (by decide)⟩
  · obtain ⟨next, last, hsend, -, hrun⟩ := send_send_of_fits crc8Poly07 hclient hget 0 idleBridge
      rfl (by decide +kernel)
    rw [hforwarded] at hsend
    refine ⟨next, last, hsend, hrun, (routes_back crc8Poly07 (by decide) hclient (by decide) hsend
      hrun (show echo.isResponse = true by decide) rfl).2 (by decide) (by decide +kernel) rfl
      fun event hevent ↦ ?_⟩
    obtain rfl := List.mem_singleton.mp hevent
    intro m hm _
    obtain rfl : getRequest = m := Message.bytes_injective hm
    decide

/-- A UDP client sends a request with a token of 6 bytes, and then the JAUS side one with
the same message id: the response to the client goes to the JAUS side.  And so does the
response to a client on a port of the JAUS side. -/
theorem clients_taken_for_jaus :
    let request := getRequest.withToken [1, 0, 0, 0, 0, 0] (by decide)
    let response := contentResponse.withToken [1, 0, 0, 0, 0, 0] (by decide)
    let tracked := contentResponse.withToken (trackingToken crc8Poly07 917) (by decide)
    (∃ next last,
      (Origin.udp 4321).send crc8Poly07 0 request.bytes idleBridge =
          .returned (next, .sent request.bytes true) ∧
        Reaches crc8Poly07 next [.datagram (.src .serialNumber) 1 getRequest.bytes] last ∧
        last.route crc8Poly07 response.bytes =
          .returned (.jaus JausPort.serialNumber.value [0x31]) ∧
        ¬(Origin.udp 4321).Receives (last.route crc8Poly07 response.bytes)) ∧
    ∃ next,
      (Origin.udp 917).send crc8Poly07 0 getRequest.bytes idleBridge =
          .returned (next, .sent (getRequest.forwarded crc8Poly07 917).bytes true) ∧
        next.route crc8Poly07 tracked.bytes =
          .returned (.jaus JausPort.serialNumber.value [0x31]) ∧
        ¬(Origin.udp 917).Receives (next.route crc8Poly07 tracked.bytes) := by
  intro request response tracked
  have hrequest : (Origin.udp 4321).received request.bytes = request.bytes := by decide
  have hget : (Origin.src .serialNumber).received getRequest.bytes = getRequest.bytes := rfl
  have hforwarded : request.forwarded crc8Poly07 (Origin.udp 4321).port = request :=
    request.forwarded_of_not crc8Poly07 4321 (by decide)
  constructor
  · obtain ⟨next, last, hsend, hsend', hrun⟩ := send_send_of_fits crc8Poly07 hrequest hget 0
      idleBridge rfl (by decide +kernel)
    rw [hforwarded] at hsend
    have hmapped : last.coapPorts.mids[response.mid]? =
        some ⟨JausPort.serialNumber.value, 1⟩ := by
      rw [(coapPorts_send_message crc8Poly07 hget hsend').1, if_pos (by decide),
        CoapPortTracker.getElem?_trackMid, if_pos (show getRequest.mid = response.mid from rfl)]
      rfl
    have hport := destination_of_mapped crc8Poly07 (show response.isResponse = true by decide)
      (by decide +kernel) hmapped
    have hroute : last.route crc8Poly07 response.bytes =
        .returned (.jaus JausPort.serialNumber.value [0x31]) := by
      rw [last.route_message, deliveryOf_of_jaus crc8Poly07 hport (by decide)]
      decide +kernel
    exact ⟨next, last, hsend, hrun, hroute, hroute ▸ not_receives_jaus _ _ _⟩
  · obtain ⟨next, hsend, -⟩ := send_of_fits crc8Poly07 (.udp 917)
      (show (Origin.udp 917).received getRequest.bytes = getRequest.bytes by decide) 0 idleBridge
      rfl (by decide +kernel)
    have hport := destination_of_trackedPort crc8Poly07 next.coapPorts
      (show tracked.isResponse = true by decide)
      ((trackedPort_eq_some_iff crc8Poly07).mpr ⟨[], (List.append_nil _).symm⟩)
    have hroute : next.route crc8Poly07 tracked.bytes =
        .returned (.jaus JausPort.serialNumber.value [0x31]) := by
      rw [next.route_message, deliveryOf_of_jaus crc8Poly07 hport (by decide)]
      decide +kernel
    exact ⟨next, hsend, hroute, hroute ▸ not_receives_jaus _ _ _⟩

end FortAgent.Uart
