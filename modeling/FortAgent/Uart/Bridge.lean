import FortAgent.Coap.Destination
import FortAgent.Coap.Reply
import FortAgent.Jaus.Evaluate
import FortAgent.Serial.Handler

/-!
# The UART bridge

`UartCoapBridge` ties the parts together.  A datagram that comes from a UDP client,
or a request of the JAUS side, goes through the tracker and then to the serial
handler.  A message from the serial port goes through the tracker the other way, and
then to the JAUS bridge or to a UDP client, by the number of its port.

What is sent by UDP is the result `Delivery.remote`; whether the socket is open is
left out, and so are the lines for the log.
-/

namespace FortAgent.Uart

open Coap Serial Jaus Joystick

/-- The tracker and the serial handler of a bridge. -/
structure UartCoapBridge where
  coapPorts : CoapPortTracker
  serialHandler : SerialHandler

/-- What has become of a datagram on its way to the serial port. -/
inductive Forwarded
  | ignored
  /-- A `CoapException` was caught. -/
  | failed (what : String)
  /-- The message was handed to the serial handler, which has returned `taken`. -/
  | sent (message : List UInt8) (taken : Bool)
deriving DecidableEq, Repr

/-- Where a message from the serial port has gone. -/
inductive Delivery
  | ignored
  /-- A `CoapException` was caught. -/
  | dropped (what : String)
  | jaus (port : UInt16) (payload : List UInt8)
  | remote (port : UInt16) (data : List UInt8)
deriving DecidableEq, Repr

/-! ## The functions -/

section Code

variable (crc8 : List UInt8 → UInt8)

namespace UartCoapBridge

/-- What `receiveFromRemote` and `sendSRCRequest` have in common.  Nobody looks at
what the serial handler returns. -/
def forward (now : SteadyTime) (port : UInt16) (data : List UInt8) (len maxLen : Nat)
    (bridge : UartCoapBridge) : Outcome (UartCoapBridge × Forwarded) :=
  match (udpToSerial crc8 now port maxLen).run ⟨data, len, bridge.coapPorts⟩ with
  | .ok () frame =>
    let message := frame.buffer.take frame.len
    match bridge.serialHandler.asyncSendMessageToSerialPort message frame.len with
    | some (serialHandler, taken) => .returned (⟨frame.tracker, serialHandler⟩, .sent message taken)
    | none => .undefined
  | .error (.coapException what) frame =>
    .returned ({ bridge with coapPorts := frame.tracker }, .failed what)
  | .error .undefined _ => .undefined

/-- The handler of `receiveFromRemote`, for a datagram from this port of the remote
host, or of another.  What is too long is cut.  The rest of the buffer is not
initialised; it is zeros here, and none of them is read. -/
def receiveFromRemote (now : SteadyTime) (fromRemoteHost : Bool) (port : UInt16)
    (datagram : List UInt8) (bridge : UartCoapBridge) : Outcome (UartCoapBridge × Forwarded) :=
  let data := datagram.take fortAgentBufferUnitSz
  let maxLen := fortAgentBufferUnitSz + 3
  if data = [] then .returned (bridge, .ignored)
  else if !fromRemoteHost then .returned (bridge, .ignored)
  else
    bridge.forward crc8 now port (data ++ List.replicate (maxLen - data.length) 0) data.length
      maxLen

def sendSRCRequest (now : SteadyTime) (coapMsg : List UInt8) (port : UInt16)
    (bridge : UartCoapBridge) : Outcome (UartCoapBridge × Forwarded) :=
  bridge.forward crc8 now port (coapMsg ++ List.replicate 3 0) coapMsg.length (coapMsg.length + 3)

/-- The part of `serialDataReceived` that finds out where a message goes. -/
def route (message : List UInt8) (bridge : UartCoapBridge) : Outcome Delivery :=
  if message = [] then .returned .ignored
  else
    match (serialToUdp crc8).run
        ⟨message ++ List.replicate 3 0, message.length, bridge.coapPorts⟩ with
    | .ok port frame =>
      if isJausPort port then
        match parseObserveReply frame.buffer frame.len with
        | some reply => .returned (.jaus port reply.payload)
        | none => .undefined
      else .returned (.remote port (frame.buffer.take frame.len))
    | .error (.coapException what) _ => .returned (.dropped what)
    | .error .undefined _ => .undefined

/-- The tracker is only read; the JAUS bridge and what it knows may change. -/
def serialDataReceived {Double : Type} [Zero Double] (cbor : Tinycbor Double) (turns : ℕ)
    (key : ℕ → List UInt8) (message : List UInt8) (bridge : UartCoapBridge)
    (jausBridge : JausBridge) (telemetry : JausTelemetry Double) :
    Outcome (Delivery × JausBridge × JausTelemetry Double) :=
  match bridge.route crc8 message with
  | .returned (.jaus port payload) =>
    (evaluateCoapJausMessage cbor turns key port payload jausBridge telemetry).map fun evaluation ↦
      (.jaus port payload, evaluation.bridge, evaluation.telemetry)
  | .returned delivery => .returned (delivery, jausBridge, telemetry)
  | .threw what => .threw what
  | .undefined => .undefined
  | .running => .running

end UartCoapBridge

end Code

/-! ## On messages -/

section Specification

variable (crc8 : List UInt8 → UInt8)

namespace UartCoapBridge

theorem bytes_ne_nil (m : Message) : m.bytes ≠ [] := by
  rw [← List.length_pos_iff, m.length_bytes, minLen]
  omega

/-- What the tracker makes of a message is what the serial handler is asked to send. -/
theorem forward_message (bridge : UartCoapBridge) (now : SteadyTime) (port : UInt16) {m : Message}
    {slack : List UInt8} {maxLen : Nat} (hroom : m.bytes.length + 3 ≤ maxLen)
    (hmax : maxLen ≤ (m.bytes ++ slack).length) :
    bridge.forward crc8 now port (m.bytes ++ slack) m.bytes.length maxLen =
      let message := (m.forwarded crc8 port).bytes
      match bridge.serialHandler.asyncSendMessageToSerialPort message message.length with
      | some (serialHandler, taken) =>
        .returned (⟨if m.TracksMid (maxLen - m.bytes.length) then
            bridge.coapPorts.trackMid now port m.mid else bridge.coapPorts, serialHandler⟩,
          .sent message taken)
      | none => .undefined := by
  obtain ⟨slack', hrun⟩ := run_udpToSerial_message crc8 now port bridge.coapPorts hroom hmax
  rw [forward, hrun]
  simp only [List.take_left]

/-- A datagram of the remote host that is a message, as far as it is received. -/
theorem receiveFromRemote_message (bridge : UartCoapBridge) (now : SteadyTime) (port : UInt16)
    {datagram : List UInt8} {m : Message}
    (hm : datagram.take fortAgentBufferUnitSz = m.bytes) :
    bridge.receiveFromRemote crc8 now true port datagram =
      bridge.forward crc8 now port
        (m.bytes ++ List.replicate (fortAgentBufferUnitSz + 3 - m.bytes.length) 0)
        m.bytes.length (fortAgentBufferUnitSz + 3) := by
  rw [receiveFromRemote, hm]
  simp only [if_neg (bytes_ne_nil m), Bool.not_true, Bool.false_eq_true, if_false]

/-- Without a message nothing is sent, and the tracker stays as it is. -/
theorem coapPorts_forward_rejected {bridge bridge' : UartCoapBridge} {now : SteadyTime}
    {port : UInt16} {data : List UInt8} {len maxLen : Nat} {forwarded : Forwarded}
    (hlooks : looksLikeCoap data len ≠ some true)
    (h : bridge.forward crc8 now port data len maxLen = .returned (bridge', forwarded)) :
    bridge'.coapPorts = bridge.coapPorts := by
  obtain ⟨stop, hrun⟩ := run_udpToSerial_rejected crc8 ⟨data, len, bridge.coapPorts⟩ maxLen now
    port fun _ ↦ hlooks
  rw [forward, hrun] at h
  cases stop with
  | coapException what =>
      cases h
      rfl
  | undefined => cases h

end UartCoapBridge

/-- Where a message from the serial port goes. -/
def deliveryOf (tracker : CoapPortTracker) (m : Message) : Delivery :=
  match tracker.destination crc8 m with
  | some port =>
    if isJausPort port then .jaus port (walk m.rest).tail
    else .remote port (m.untracked crc8).bytes
  | none => .dropped "Packet from serial is not valid CoAP"

section Delivery

variable {tracker : CoapPortTracker} {m : Message} {port : UInt16}

theorem deliveryOf_of_jaus (hport : tracker.destination crc8 m = some port)
    (hjaus : isJausPort port = true) :
    deliveryOf crc8 tracker m = .jaus port (walk m.rest).tail := by
  simp only [deliveryOf, hport, hjaus, if_true]

theorem deliveryOf_of_remote (hport : tracker.destination crc8 m = some port)
    (hjaus : isJausPort port = false) :
    deliveryOf crc8 tracker m = .remote port (m.untracked crc8).bytes := by
  simp only [deliveryOf, hport, hjaus, Bool.false_eq_true, if_false]

theorem deliveryOf_of_no_destination (hport : tracker.destination crc8 m = none) :
    deliveryOf crc8 tracker m = .dropped "Packet from serial is not valid CoAP" := by
  simp only [deliveryOf, hport]

end Delivery

namespace UartCoapBridge

theorem route_message (bridge : UartCoapBridge) (m : Message) :
    bridge.route crc8 m.bytes = .returned (deliveryOf crc8 bridge.coapPorts m) := by
  rw [route, if_neg (bytes_ne_nil m)]
  cases hport : bridge.coapPorts.destination crc8 m with
  | none =>
      rw [run_serialToUdp_of_no_destination crc8 _ hport, deliveryOf_of_no_destination crc8 hport]
  | some port =>
      obtain ⟨slack, hrun⟩ := run_serialToUdp_of_destination crc8 (List.replicate 3 0) hport
      rw [hrun]
      cases hjaus : isJausPort port with
      | true =>
          rw [deliveryOf_of_jaus crc8 hport hjaus]
          simp only [parseObserveReply_eq, Message.rest_untracked, hjaus, if_true]
      | false =>
          rw [deliveryOf_of_remote crc8 hport hjaus]
          simp only [List.take_left, hjaus, Bool.false_eq_true, if_false]

theorem route_of_not_message (bridge : UartCoapBridge) {message : List UInt8}
    (hne : message ≠ []) (h : ∀ m : Message, message ≠ m.bytes) :
    bridge.route crc8 message =
      .returned (.dropped "Packet from serial port is not valid CoAP") := by
  have hlooks := looksLikeCoap_of_not_message hne h (List.replicate 3 0)
  rw [route, if_neg hne, run_serialToUdp_of_not_coap crc8 hlooks]

end UartCoapBridge

end Specification

/-- A new bridge on a serial port that is idle. -/
def idleBridge : UartCoapBridge where
  coapPorts := .new 5683
  serialHandler :=
    { state := .operational
      writeBuffer :=
        { slots := Vector.replicate txBufferSize 0
          first := 0
          size := 0
          first_lt := Nat.zero_lt_succ _
          size_le := Nat.zero_le _ }
      writeInProgress := false
      writes := [] }

end FortAgent.Uart
