import FortAgent.Coap.PortTracker
import FortAgent.Lib.LastWriter

/-!
# Routing by message id

What the table of message ids contains after any sequence of operations: the
port of an id is that of the operation that tracked it last, as long as nothing
has happened since that removes the entry.  `determined` describes one operation
in these terms, and the rest follows for whole runs (`Lib.LastWriter`).  The
clock need not be monotone for any of this.

Two laws are drawn from it.  `mid_routing` says where a message without tracking
bytes is sent, from the history of the tracker.  `mid_fallback` follows a single
request whose token is too long for tracking bytes, from any state of the
tracker; there the token itself must not begin with tracking bytes, because a
response is searched for them first.
-/

namespace FortAgent.Coap

/-! ## Operations -/

/-- The arguments of a call of `udpToSerial`, in a buffer that can be read and
has room for `maxLen` bytes. -/
structure UdpDatagram where
  buffer : List UInt8
  len : Nat
  maxLen : Nat
  nonempty : buffer ≠ []
  maxLen_le : maxLen ≤ buffer.length

/-- The arguments of a call of `serialToUdp`, in a buffer that contains the whole
datagram. -/
structure SerialDatagram where
  buffer : List UInt8
  len : Nat
  nonempty : buffer ≠ []
  len_le : len ≤ buffer.length

/-- An operation of the tracker, with the reading of the clock where it takes one. -/
inductive TrackerOp
  | udpToSerial (now : SteadyTime) (port : UInt16) (datagram : UdpDatagram)
  | serialToUdp (datagram : SerialDatagram)
  | removeOldMids (now : SteadyTime)
  | clear

/-- The frame a call of `udpToSerial` starts from. -/
def UdpDatagram.frame (datagram : UdpDatagram) (tracker : CoapPortTracker) : Frame :=
  ⟨datagram.buffer, datagram.len, tracker⟩

/-- The frame a call of `serialToUdp` starts from. -/
def SerialDatagram.frame (datagram : SerialDatagram) (tracker : CoapPortTracker) : Frame :=
  ⟨datagram.buffer, datagram.len, tracker⟩

/-- The tracker after an operation, whether or not it throws. -/
def CoapPortTracker.step (crc8 : List UInt8 → UInt8) (tracker : CoapPortTracker) :
    TrackerOp → CoapPortTracker
  | .udpToSerial now port datagram =>
    (finalFrame ((Coap.udpToSerial crc8 now port datagram.maxLen).run
      (datagram.frame tracker))).tracker
  | .serialToUdp datagram =>
    (finalFrame ((Coap.serialToUdp crc8).run (datagram.frame tracker))).tracker
  | .removeOldMids now => tracker.removeOldMids now
  | .clear => tracker.clear

namespace TrackerOp

/-- The operation tracks `mid` for `port` at the time `now`: it is a call of
`udpToSerial` with a message that is tracked. -/
def Tracks (op : TrackerOp) (mid port : UInt16) (now : SteadyTime) : Prop :=
  ∃ datagram m, op = .udpToSerial now port datagram ∧ datagram.len ≤ datagram.maxLen ∧
    Holds datagram.buffer datagram.len m ∧ m.TracksMid (datagram.maxLen - datagram.len) ∧
    m.mid = mid

/-- The operation leaves an entry for `mid` alone that was made at the time
`created`: it does not track `mid`, it is no sweep once the entry has reached the
timeout, and it does not clear the table. -/
def Spares (op : TrackerOp) (mid : UInt16) (created : SteadyTime) : Prop :=
  (∀ port now, ¬op.Tracks mid port now) ∧
    (∀ now, op = .removeOldMids now → now < created + midTimeoutTime) ∧ op ≠ .clear

end TrackerOp

/-! ## One operation -/

variable (crc8 : List UInt8 → UInt8)

/-- An in-bounds call of `udpToSerial` either throws, on a datagram that is too
long or holds no message, or tracks the message id if `TracksMid` says so. -/
theorem tracker_udpToSerial (tracker : CoapPortTracker) (now : SteadyTime) (port : UInt16)
    (datagram : UdpDatagram) {m : Message} (hlen : datagram.len ≤ datagram.maxLen)
    (hm : Holds datagram.buffer datagram.len m) :
    tracker.step crc8 (.udpToSerial now port datagram) =
      if m.TracksMid (datagram.maxLen - datagram.len) then tracker.trackMid now port m.mid
      else tracker := by
  obtain ⟨buffer, len, maxLen, _, hmax⟩ := datagram
  obtain ⟨slack, rfl, rfl⟩ := hm
  by_cases hfit : m.isRequest = true ∧ m.TokensFit (maxLen - m.bytes.length)
  · have htoken : (trackingToken crc8 port ++ m.token).length ≤ tokenMaxLen := by
      have := hfit.2.1
      simp only [trackingToken, List.length_append, List.length_cons, List.length_nil,
        tokenMaxLen]
      omega
    simp only [CoapPortTracker.step, UdpDatagram.frame,
      run_udpToSerial_of_tokensFit crc8 now port tracker hfit.1 hfit.2 hmax htoken, finalFrame]
  · simp only [CoapPortTracker.step, UdpDatagram.frame,
      run_udpToSerial_of_not_tokensFit crc8 slack now port tracker hlen hfit, finalFrame]

/-- A call of `udpToSerial` that throws leaves the tracker alone. -/
theorem tracker_udpToSerial_rejected (tracker : CoapPortTracker) (now : SteadyTime)
    (port : UInt16) (datagram : UdpDatagram)
    (h : datagram.len ≤ datagram.maxLen → ¬∃ m, Holds datagram.buffer datagram.len m) :
    tracker.step crc8 (.udpToSerial now port datagram) = tracker := by
  obtain ⟨stop, hrun⟩ := run_udpToSerial_rejected crc8 (datagram.frame tracker)
    datagram.maxLen now port fun hlen hlooks ↦
      h hlen ((looksLikeCoap_iff (Nat.le_trans hlen datagram.maxLen_le)).mp hlooks)
  rw [CoapPortTracker.step, hrun]
  rfl

/-- What `Tracks` says of a call of `udpToSerial` with the message `m`. -/
theorem tracks_udpToSerial_iff {now now' : SteadyTime} {port port' mid : UInt16}
    {datagram : UdpDatagram} {m : Message} (hlen : datagram.len ≤ datagram.maxLen)
    (hm : Holds datagram.buffer datagram.len m) :
    (TrackerOp.udpToSerial now port datagram).Tracks mid port' now' ↔
      (port = port' ∧ now = now') ∧ m.TracksMid (datagram.maxLen - datagram.len) ∧
        m.mid = mid := by
  constructor
  · rintro ⟨datagram', m', hop, -, hm', htracks, rfl⟩
    obtain ⟨rfl, rfl, rfl⟩ := TrackerOp.udpToSerial.inj hop
    obtain rfl := hm.unique hm'
    exact ⟨⟨rfl, rfl⟩, htracks, rfl⟩
  · rintro ⟨⟨rfl, rfl⟩, htracks, rfl⟩
    exact ⟨datagram, m, rfl, hlen, hm, htracks, rfl⟩

/-- **One operation.**  What is in the table afterwards was tracked by the
operation, or was there before and has been spared. -/
theorem determined : LastWriter.Determined (CoapPortTracker.step crc8)
    (fun tracker mid ↦ tracker.mids[mid]?)
    (fun op mid mapped ↦ op.Tracks mid mapped.port mapped.timeCreated)
    (fun op mid mapped ↦ op.Spares mid mapped.timeCreated) := by
  intro tracker op mid mapped
  cases op with
  | udpToSerial now port datagram =>
      by_cases hm : datagram.len ≤ datagram.maxLen ∧ ∃ m, Holds datagram.buffer datagram.len m
      · obtain ⟨hlen, m, hm⟩ := hm
        rw [tracker_udpToSerial crc8 tracker now port datagram hlen hm]
        simp only [TrackerOp.Spares, tracks_udpToSerial_iff hlen hm]
        by_cases htracked : m.TracksMid (datagram.maxLen - datagram.len) ∧ m.mid = mid
        · obtain ⟨htracks, rfl⟩ := htracked
          obtain ⟨port', created⟩ := mapped
          simp [htracks]
        · have hsame : (if m.TracksMid (datagram.maxLen - datagram.len) then
              tracker.trackMid now port m.mid else tracker).mids[mid]? = tracker.mids[mid]? := by
            split
            · next htracks =>
                rw [CoapPortTracker.getElem?_trackMid, if_neg fun hmid ↦ htracked ⟨htracks, hmid⟩]
            · rfl
          simp [hsame, htracked]
      · have hnone (port' : UInt16) (now' : SteadyTime) :
            ¬(TrackerOp.udpToSerial now port datagram).Tracks mid port' now' := by
          rintro ⟨datagram', m, hop, hlen, hm', -⟩
          obtain ⟨rfl, rfl, rfl⟩ := TrackerOp.udpToSerial.inj hop
          exact hm ⟨hlen, m, hm'⟩
        rw [tracker_udpToSerial_rejected crc8 tracker now port datagram fun hlen hex ↦
          hm ⟨hlen, hex⟩]
        simp [hnone, TrackerOp.Spares]
  | serialToUdp datagram =>
      have hkeep : tracker.step crc8 (.serialToUdp datagram) = tracker :=
        KeepsTracker.serialToUdp crc8 (datagram.frame tracker)
      simp [hkeep, TrackerOp.Tracks, TrackerOp.Spares]
  | removeOldMids now =>
      simp [CoapPortTracker.step, TrackerOp.Tracks, TrackerOp.Spares, Option.filter_eq_some_iff]
  | clear => simp [CoapPortTracker.step, TrackerOp.Tracks, TrackerOp.Spares]

/-- No operation changes the default port. -/
theorem defaultPort_step (tracker : CoapPortTracker) (op : TrackerOp) :
    (tracker.step crc8 op).defaultPort = tracker.defaultPort := by
  cases op with
  | udpToSerial now port datagram =>
      by_cases hm : datagram.len ≤ datagram.maxLen ∧ ∃ m, Holds datagram.buffer datagram.len m
      · obtain ⟨hlen, m, hm⟩ := hm
        rw [tracker_udpToSerial crc8 tracker now port datagram hlen hm]
        split
        · exact CoapPortTracker.defaultPort_trackMid now port m.mid tracker
        · rfl
      · rw [tracker_udpToSerial_rejected crc8 tracker now port datagram fun hlen hex ↦
          hm ⟨hlen, hex⟩]
  | serialToUdp datagram =>
      exact congrArg CoapPortTracker.defaultPort
        (KeepsTracker.serialToUdp crc8 (datagram.frame tracker))
  | removeOldMids now => rfl
  | clear => rfl

/-! ## Runs -/

/-- The tracker after some operations. -/
def CoapPortTracker.after (tracker : CoapPortTracker) (ops : List TrackerOp) : CoapPortTracker :=
  ops.foldl (CoapPortTracker.step crc8) tracker

/-- Of the operations `ops`, the last one that tracked `mid` did so for `port`, and
the entry it made is still there: the table has not been cleared since, and not
been swept at a time at which the entry had reached the timeout. -/
def LastTracked (ops : List TrackerOp) (mid port : UInt16) : Prop :=
  ∃ before op after now, ops = before ++ op :: after ∧ op.Tracks mid port now ∧
    ∀ op' ∈ after, op'.Spares mid now

theorem defaultPort_after (tracker : CoapPortTracker) (ops : List TrackerOp) :
    (tracker.after crc8 ops).defaultPort = tracker.defaultPort := by
  induction ops generalizing tracker with
  | nil => rfl
  | cons op ops ih => exact (ih _).trans (defaultPort_step crc8 tracker op)

/-- The table of a new tracker after some operations. -/
theorem getElem?_after_eq_some_iff {defaultPort : UInt16} {ops : List TrackerOp} {mid : UInt16}
    {mapped : MappedMid} :
    ((CoapPortTracker.new defaultPort).after crc8 ops).mids[mid]? = some mapped ↔
      ∃ before op after, ops = before ++ op :: after ∧
        op.Tracks mid mapped.port mapped.timeCreated ∧
        ∀ op' ∈ after, op'.Spares mid mapped.timeCreated :=
  (determined crc8).foldl_eq_some_iff fun mid ↦ by simp [CoapPortTracker.new]

/-- **Routing by message id.**  In any run from a new tracker, a response without
tracking bytes, or an Empty, is sent to the port for which its message id was
tracked last, if it was and the entry is still there, and to the default port
otherwise.  Neither the message nor the table is changed. -/
theorem mid_routing (defaultPort : UInt16) (ops : List TrackerOp) {buffer : List UInt8}
    {len : Nat} {m : Message} (hm : Holds buffer len m)
    (hclass : m.isResponse = true ∧ trackedPort crc8 m.token = none ∨ m.isEmpty = true) :
    let frame : Frame := ⟨buffer, len, (CoapPortTracker.new defaultPort).after crc8 ops⟩
    (∀ port, LastTracked ops m.mid port → (serialToUdp crc8).run frame = .ok port frame) ∧
      ((∀ port, ¬LastTracked ops m.mid port) →
        (serialToUdp crc8).run frame = .ok defaultPort frame) := by
  intro frame
  have hrun : (serialToUdp crc8).run frame = .ok (frame.tracker.mappedPort m.mid) frame := by
    obtain ⟨slack, rfl, rfl⟩ := hm
    exact run_serialToUdp_of_mid crc8 slack _ hclass
  rw [hrun]
  constructor
  · rintro port ⟨before, op, after, now, hops, htracks, hspares⟩
    have hmapped : frame.tracker.mids[m.mid]? = some ⟨port, now⟩ :=
      (getElem?_after_eq_some_iff crc8).mpr ⟨before, op, after, hops, htracks, hspares⟩
    simp only [CoapPortTracker.mappedPort, hmapped]
  · intro hnever
    cases hmapped : frame.tracker.mids[m.mid]? with
    | none =>
        simp only [CoapPortTracker.mappedPort, hmapped]
        exact congrArg (EStateM.Result.ok · frame) (defaultPort_after crc8 _ ops)
    | some mapped =>
        obtain ⟨before, op, after, hops, htracks, hspares⟩ :=
          (getElem?_after_eq_some_iff crc8).mp hmapped
        exact absurd ⟨before, op, after, _, hops, htracks, hspares⟩ (hnever mapped.port)

theorem bytes_append_ne_nil (m : Message) (slack : List UInt8) : m.bytes ++ slack ≠ [] := by
  simp [Message.bytes, Message.header]

theorem le_length_append_replicate {α : Type} {xs : List α} {n : Nat} (x : α)
    (h : xs.length ≤ n) : n ≤ (xs ++ List.replicate (n - xs.length) x).length := by
  rw [List.length_append, List.length_replicate]
  omega

/-- A datagram in a buffer of 32 bytes. -/
def datagramOf (m : Message) (h : m.bytes.length ≤ 32) : UdpDatagram :=
  ⟨m.bytes ++ List.replicate (32 - m.bytes.length) 0, m.bytes.length, 32,
    bytes_append_ne_nil m _, le_length_append_replicate 0 h⟩

theorem datagramOf_holds (m : Message) (h : m.bytes.length ≤ 32) :
    Holds (datagramOf m h).buffer (datagramOf m h).len m := ⟨_, rfl, rfl⟩

/-- A response without token after Confirmable requests with its message id, from port 9000
and then from port 9001, and a sweep before the timeout. -/
theorem mid_routing_tracked :
    let ops := [.udpToSerial 0 9000 (datagramOf getRequest (by decide)),
      .udpToSerial 5 9001 (datagramOf getRequest (by decide)), .removeOldMids midTimeoutTime]
    let frame := frameOf contentResponse ((CoapPortTracker.new 5683).after crc8Poly07 ops)
    (serialToUdp crc8Poly07).run frame = .ok 9001 frame := by
  intro ops frame
  refine (mid_routing crc8Poly07 5683 ops (frameOf_holds contentResponse frame.tracker)
    (.inl ⟨by decide, by decide⟩)).1 9001 ?_
  refine ⟨[.udpToSerial 0 9000 (datagramOf getRequest (by decide))], _, _, 5, rfl,
    ⟨datagramOf getRequest (by decide), getRequest, rfl, by decide, datagramOf_holds _ _,
      by decide, rfl⟩, fun op hop ↦ ?_⟩
  obtain rfl := List.mem_singleton.mp hop
  refine ⟨by rintro _ _ ⟨_, _, ⟨⟩, -⟩, fun now hnow ↦ ?_, TrackerOp.noConfusion⟩
  obtain rfl := TrackerOp.removeOldMids.inj hnow
  exact Nat.lt_add_of_pos_left (by decide)

/-! ## The fallback -/

/-- After the request `request` was handed to `udpToSerial` at the time `now`, for
`port`, and as long as its entry is spared: every response that echoes token and
message id is sent to `port`, and left as it is. -/
def EchoesReturn (tracker : CoapPortTracker) (now : SteadyTime) (port : UInt16)
    (datagram : UdpDatagram) (request : Message) : Prop :=
  ∀ (ops : List TrackerOp) (buffer : List UInt8) (len : Nat) (response : Message),
    (∀ op ∈ ops, op.Spares request.mid now) → Holds buffer len response →
    response.isResponse = true → response.token = request.token → response.mid = request.mid →
    let later : Frame := ⟨buffer, len, (tracker.step crc8 (.udpToSerial now port datagram)).after
      crc8 ops⟩
    (serialToUdp crc8).run later = .ok port later

/-- **The fallback.**  From any state of the tracker, a request with a token of at
least 5 bytes is forwarded byte for byte; and if its token does not begin with
tracking bytes, responses that echo it return. -/
theorem mid_fallback (tracker : CoapPortTracker) (now : SteadyTime) (port : UInt16)
    {datagram : UdpDatagram} {request : Message} (hlen : datagram.len ≤ datagram.maxLen)
    (hm : Holds datagram.buffer datagram.len request) (hrequest : request.isRequest = true)
    (htoken : 5 ≤ request.token.length) (hmarker : trackedPort crc8 request.token = none) :
    (udpToSerial crc8 now port datagram.maxLen).run (datagram.frame tracker) =
        .ok () (datagram.frame (tracker.trackMid now port request.mid)) ∧
      EchoesReturn crc8 tracker now port datagram request := by
  have hfit : ¬(request.isRequest = true ∧
      request.TokensFit (datagram.maxLen - datagram.len)) := fun h ↦ by
    have := h.2.1
    omega
  have htracks : request.TracksMid (datagram.maxLen - datagram.len) :=
    .inl ⟨hrequest, .inl fun hfit' ↦ hfit ⟨hrequest, hfit'⟩⟩
  constructor
  · obtain ⟨buffer, len, maxLen, _, _⟩ := datagram
    obtain ⟨slack, rfl, rfl⟩ := hm
    have hrun := run_udpToSerial_of_not_tokensFit crc8 slack now port tracker hlen hfit
    rwa [if_pos htracks] at hrun
  · intro ops buffer len response hspares hresponse hclass htoken' hmid later
    have hentry : (tracker.step crc8 (.udpToSerial now port datagram)).mids[request.mid]? =
        some ⟨port, now⟩ := by
      rw [tracker_udpToSerial crc8 tracker now port datagram hlen hm, if_pos htracks,
        CoapPortTracker.getElem?_trackMid, if_pos rfl]
    have hmapped : later.tracker.mids[request.mid]? = some ⟨port, now⟩ :=
      (determined crc8).foldl_of_spares hentry hspares
    have hrun : (serialToUdp crc8).run later =
        .ok (later.tracker.mappedPort response.mid) later := by
      obtain ⟨slack, rfl, rfl⟩ := hresponse
      exact run_serialToUdp_of_mid crc8 slack _ (.inl ⟨hclass, by rw [htoken', hmarker]⟩)
    rw [hrun]
    simp only [CoapPortTracker.mappedPort, hmid, hmapped]

/-- A request with the token 01 00 00 00 00, and its response. -/
theorem mid_fallback_echo :
    let token : List UInt8 := [1, 0, 0, 0, 0]
    let request := getRequest.withToken token (by decide)
    let response := contentResponse.withToken token (by decide)
    let op := .udpToSerial 0 4321 (datagramOf request (by decide))
    let later := frameOf response ((CoapPortTracker.new 5683).step crc8Poly07 op)
    (serialToUdp crc8Poly07).run later = .ok 4321 later := by
  intro token request response op later
  exact (mid_fallback crc8Poly07 (.new 5683) 0 4321 (by decide) (datagramOf_holds request _)
    (by decide) (by decide) (by decide +kernel)).2 [] later.buffer later.len response (by simp)
    (frameOf_holds _ _) (by decide) rfl rfl

/-- The token 00 00 00 00 00 00 begins with the tracking bytes for port 0: its
response is sent there, and three of its bytes are taken out. -/
theorem zero_token_echo_lost :
    ¬∀ (tracker : CoapPortTracker) (now : SteadyTime) (port : UInt16) (datagram : UdpDatagram)
      (request : Message), datagram.len ≤ datagram.maxLen →
      Holds datagram.buffer datagram.len request → request.isRequest = true →
      5 ≤ request.token.length → EchoesReturn crc8Poly07 tracker now port datagram request := by
  intro h
  let request := getRequest.withToken [0, 0, 0, 0, 0, 0] (by decide)
  let response := contentResponse.withToken [0, 0, 0, 0, 0, 0] (by decide)
  let op := TrackerOp.udpToSerial 0 4321 (datagramOf request (by decide))
  let later := frameOf response ((CoapPortTracker.new 5683).step crc8Poly07 op)
  have hclaim : (serialToUdp crc8Poly07).run later = .ok 4321 later :=
    h (.new 5683) 0 4321 (datagramOf request (by decide)) request (by decide)
      (datagramOf_holds _ _) (by decide) (by decide) [] later.buffer later.len response (by simp)
      (frameOf_holds _ _) (by decide) rfl rfl
  have htoken : response.token = trackingToken crc8Poly07 0 ++ [0, 0, 0] := by decide +kernel
  obtain ⟨slack, hactual⟩ := run_serialToUdp_of_trackedPort crc8Poly07
    (List.replicate (32 - response.bytes.length) 0) later.tracker (by decide) htoken (by decide)
  have hports := hclaim.symm.trans hactual
  exact absurd (EStateM.Result.ok.inj hports).1 (by decide)

end FortAgent.Coap
