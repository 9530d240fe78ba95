import FortAgent.Coap.Header
import Mathlib.Data.List.Basic
import Std.Data.TreeMap

/-!
# The CoAP port tracker

`CoapPortTracker` sits between local UDP clients and the serial port and finds
out which client a response belongs to.  It has two ways: a request with a short
token gets three *tracking bytes* in front of it, a marker and the client's port,
which come back in the response; otherwise the tracker remembers the port under
the message id.

`udpToSerial` and `serialToUdp` rewrite a datagram in place.  They run in the
monad `Call`, whose state is the buffer, the length of the datagram in it, and
the tracker; a call can end by throwing, with the buffer as it then is, or by
leaving the buffer (`Stop.undefined`).  The CRC-8 that makes the marker comes
from a library outside the repository and is a parameter `crc8` throughout.

Each function has one specification, over the messages of `Coap.Header`; what is
proved of the tracker elsewhere uses these and never unfolds the code.
-/

namespace FortAgent.Coap

open Memory

/-! ## The table of message ids -/

/-- `Coap::midTimeoutTime`. -/
def midTimeoutTime : SteadyTime := seconds 250

/-- Where a message id was seen last. -/
structure MappedMid where
  port : UInt16
  timeCreated : SteadyTime
deriving DecidableEq, Repr

/-- The data of the tracker. -/
structure CoapPortTracker where
  defaultPort : UInt16
  mids : Std.TreeMap UInt16 MappedMid

namespace CoapPortTracker

/-- The constructor; the sweep it starts with finds nothing. -/
def new (defaultCoapPort : UInt16) : CoapPortTracker := ⟨defaultCoapPort, ∅⟩

/-- The body of the loop of `removeOldMids`. -/
def eraseIfOld (now : SteadyTime) (mids : Std.TreeMap UInt16 MappedMid)
    (entry : UInt16 × MappedMid) : Std.TreeMap UInt16 MappedMid :=
  if entry.2.timeCreated + midTimeoutTime ≤ now then mids.erase entry.1 else mids

/-- The loop runs over the entries in order; erasing one moves to the next. -/
def removeOldMids (now : SteadyTime) (tracker : CoapPortTracker) : CoapPortTracker :=
  { tracker with mids := tracker.mids.toList.foldl (eraseIfOld now) tracker.mids }

def trackMid (now : SteadyTime) (port mid : UInt16) (tracker : CoapPortTracker) :
    CoapPortTracker :=
  match tracker.mids[mid]? with
  | none => { tracker with mids := tracker.mids.insert mid ⟨port, now⟩ }
  | some mapped =>
    if mapped.port = port then
      { tracker with mids := tracker.mids.insert mid { mapped with timeCreated := now } }
    else { tracker with mids := tracker.mids.insert mid ⟨port, now⟩ }

def clear (tracker : CoapPortTracker) : CoapPortTracker := { tracker with mids := ∅ }

/-- The port a message id is mapped to, or the default. -/
def mappedPort (tracker : CoapPortTracker) (mid : UInt16) : UInt16 :=
  match tracker.mids[mid]? with
  | none => tracker.defaultPort
  | some mapped => mapped.port

end CoapPortTracker

/-! ## Calls -/

/-- What a call works on: the buffer, the length of the datagram, the tracker. -/
structure Frame where
  buffer : List UInt8
  len : Nat
  tracker : CoapPortTracker

/-- The datagram in the buffer is the message `m`. -/
def Frame.Holds (frame : Frame) (m : Message) : Prop := Coap.Holds frame.buffer frame.len m

/-- A call of the tracker. -/
abbrev Call := EStateM Stop Frame

/-- Read from the buffer. -/
def peek {α : Type} (f : List UInt8 → Option α) : Call α := do
  match f (← get).buffer with
  | some x => return x
  | none => throw .undefined

/-- Write to the buffer. -/
def poke (f : List UInt8 → Option (List UInt8)) : Call Unit := do
  match f (← get).buffer with
  | some buffer => modify fun frame ↦ { frame with buffer := buffer }
  | none => throw .undefined

/-- `setTokenLength` on the buffer. -/
def putTokenLength (tokenLen : UInt8) : Call Unit := do
  match setTokenLength (← get).buffer tokenLen with
  | .ok buffer => modify fun frame ↦ { frame with buffer := buffer }
  | .error stop => throw stop

/-- Write the length of the datagram. -/
def setLen (f : Nat → Nat) : Call Unit := modify fun frame ↦ { frame with len := f frame.len }

section Code

variable (crc8 : List UInt8 → UInt8)

/-- `markerByte`, of the two bytes at `portBytes`. -/
def markerByte (buffer : List UInt8) (portBytes : Nat) : Option UInt8 := do
  return crc8 [← buffer[portBytes]?, ← buffer[portBytes + 1]?]

/-- `trackMid`, for the message in the buffer. -/
def trackBufferMid (now : SteadyTime) (port : UInt16) : Call Unit := do
  let mid ← peek getMid
  modify fun frame ↦ { frame with tracker := frame.tracker.trackMid now port mid }

/-- The part of `udpToSerial` that inserts the tracking bytes. -/
def addTrackingTokens (port : UInt16) (tokenLength : Nat) : Call Unit := do
  let len := (← get).len
  -- shift the message up, starting at the token
  poke fun buffer ↦ do
    memmove buffer (tokenStartIndex + 3) tokenStartIndex (← sizeSub len tokenStartIndex)
  -- the port, little-endian, and then the marker made from its bytes
  poke fun buffer ↦ write buffer (tokenStartIndex + 1) (lowByte port)
  poke fun buffer ↦ write buffer (tokenStartIndex + 2) (highByte port)
  let marker ← peek fun buffer ↦ markerByte crc8 buffer (tokenStartIndex + 1)
  poke fun buffer ↦ write buffer tokenStartIndex marker
  putTokenLength (UInt8.ofNat (tokenLength + 3))
  setLen (· + 3)

/-- A message that is neither request, response nor Empty is let through. -/
def udpToSerial (now : SteadyTime) (port : UInt16) (maxLen : Nat) : Call Unit := do
  let len := (← get).len
  if maxLen < len then
    throw (.coapException s!"maxLen ({maxLen}) less than buffer length ({len})")
  else if !(← peek fun buffer ↦ looksLikeCoap buffer len) then
    throw (.coapException "Packet from UDP is not valid CoAP")
  else
    let tokenLength := (← peek getTokenLength).toNat
    if ← peek isRequest then
      if tokenLength < 5 && 3 ≤ maxLen - len then
        addTrackingTokens crc8 port tokenLength
        if (← peek getCoapType) == .con then
          trackBufferMid now port
      else
        trackBufferMid now port
    else if ← peek isResponse then
      if (← peek getCoapType) == .con then
        trackBufferMid now port
    else if ← peek isEmpty then
      trackBufferMid now port

/-- `*firstToken == markerByte(firstToken + 1)`. -/
def firstTokenIsMarker (buffer : List UInt8) : Option Bool := do
  return (← buffer[tokenStartIndex]?) == (← markerByte crc8 buffer (tokenStartIndex + 1))

/-- The port in the tracking bytes. -/
def tokenPort (buffer : List UInt8) : Option UInt16 := do
  let low ← buffer[tokenStartIndex + 1]?
  let high ← buffer[tokenStartIndex + 2]?
  return wordOf low high

/-- The test for a tracking token; the token bytes are only read if there are
three of them. -/
def hasTrackingToken (tokenLength : UInt8) : Call Bool := do
  if 3 ≤ tokenLength then peek (firstTokenIsMarker crc8) else return false

/-- The part of `serialToUdp` that takes the tracking bytes out again. -/
def extractPort (tokenLength : UInt8) : Call UInt16 := do
  let len := (← get).len
  let port ← peek tokenPort
  -- shift the rest of the message down
  poke fun buffer ↦ do
    memmove buffer tokenStartIndex (tokenStartIndex + 3) (← sizeSub len (tokenStartIndex + 3))
  putTokenLength (tokenLength - 3)
  setLen (· - 3)
  return port

/-- The port of the message id in the buffer. -/
def portOfBufferMid : Call UInt16 := do
  let mid ← peek getMid
  return (← get).tracker.mappedPort mid

def serialToUdp : Call UInt16 := do
  let len := (← get).len
  if !(← peek fun buffer ↦ looksLikeCoap buffer len) then
    throw (.coapException "Packet from serial port is not valid CoAP")
  else
    let tokenLength ← peek getTokenLength
    if ← peek isRequest then
      return (← get).tracker.defaultPort
    else if ← peek isResponse then
      if ← hasTrackingToken crc8 tokenLength then
        extractPort tokenLength
      else
        portOfBufferMid
    else if ← peek isEmpty then
      portOfBufferMid
    else
      throw (.coapException "Packet from serial is not valid CoAP")

end Code

/-- One turn of the CRC-8 with polynomial 0x07, most significant bit first. -/
def crc8Bit (crc : UInt8) : UInt8 :=
  if crc &&& 0x80 != 0 then (crc <<< 1) ^^^ 0x07 else crc <<< 1

/-- The function that `boost::crc_optimal<8, 0x07, 0x00, 0x00, false, false>` is
documented to compute, for runs on concrete bytes. -/
def crc8Poly07 (bytes : List UInt8) : UInt8 :=
  bytes.foldl (fun crc byte ↦ Nat.repeat crc8Bit 8 (crc ^^^ byte)) 0

/-! ## What the table does -/

namespace CoapPortTracker

@[simp] theorem getElem?_trackMid (now : SteadyTime) (port mid : UInt16)
    (tracker : CoapPortTracker) (x : UInt16) :
    (tracker.trackMid now port mid).mids[x]? =
      if mid = x then some ⟨port, now⟩ else tracker.mids[x]? := by
  unfold trackMid
  split
  · simp [Std.TreeMap.getElem?_insert]
  · split <;> simp_all [Std.TreeMap.getElem?_insert]

@[simp] theorem defaultPort_trackMid (now : SteadyTime) (port mid : UInt16)
    (tracker : CoapPortTracker) :
    (tracker.trackMid now port mid).defaultPort = tracker.defaultPort := by
  unfold trackMid
  split
  · rfl
  · split <;> rfl

/-- One turn of the loop. -/
theorem getElem?_eraseIfOld {now : SteadyTime} {mids : Std.TreeMap UInt16 MappedMid}
    {entry : UInt16 × MappedMid} {x : UInt16} {mapped : MappedMid} :
    (eraseIfOld now mids entry)[x]? = some mapped ↔
      mids[x]? = some mapped ∧
        (entry.1 = x → now < entry.2.timeCreated + midTimeoutTime) := by
  unfold eraseIfOld
  split
  · next hold =>
      rw [Std.TreeMap.getElem?_erase]
      by_cases hmid : entry.1 = x
      · simp [hmid, hold]
      · simp [hmid]
  · next hyoung =>
      simp only [iff_self_and]
      exact fun _ _ ↦ Nat.not_le.mp hyoung

/-- The loop erases a message id if it meets an entry for it that has reached the
timeout. -/
theorem getElem?_foldl_eraseIfOld {now : SteadyTime} {entries : List (UInt16 × MappedMid)}
    {mids : Std.TreeMap UInt16 MappedMid} {x : UInt16} {mapped : MappedMid} :
    (entries.foldl (eraseIfOld now) mids)[x]? = some mapped ↔
      mids[x]? = some mapped ∧
        ∀ entry ∈ entries, entry.1 = x → now < entry.2.timeCreated + midTimeoutTime := by
  induction entries generalizing mids with
  | nil => simp
  | cons entry entries ih =>
      rw [List.foldl_cons, ih, getElem?_eraseIfOld, List.forall_mem_cons, and_assoc]

/-- A sweep removes exactly the entries that have reached the timeout. -/
@[simp] theorem getElem?_removeOldMids (now : SteadyTime) (tracker : CoapPortTracker)
    (x : UInt16) :
    (tracker.removeOldMids now).mids[x]? =
      tracker.mids[x]?.filter fun mapped ↦ now < mapped.timeCreated + midTimeoutTime := by
  apply Option.ext
  intro mapped
  rw [removeOldMids, getElem?_foldl_eraseIfOld, Option.filter_eq_some_iff, decide_eq_true_eq]
  constructor
  · rintro ⟨h, hall⟩
    exact ⟨h, hall (x, mapped) (Std.TreeMap.mem_toList_iff_getElem?_eq_some.mpr h) rfl⟩
  · rintro ⟨h, hyoung⟩
    refine ⟨h, ?_⟩
    rintro ⟨mid, old⟩ hmem rfl
    have hold := Std.TreeMap.mem_toList_iff_getElem?_eq_some.mp hmem
    obtain rfl : mapped = old := Option.some.inj (h.symm.trans hold)
    exact hyoung

@[simp] theorem getElem?_clear (tracker : CoapPortTracker) (x : UInt16) :
    tracker.clear.mids[x]? = none := by
  simp [clear]

end CoapPortTracker

/-! ## Tracking on messages -/

section Specification

variable (crc8 : List UInt8 → UInt8)

/-- The tracking bytes for a port: the marker, then the port, little-endian. -/
def trackingToken (port : UInt16) : List UInt8 :=
  [crc8 [lowByte port, highByte port], lowByte port, highByte port]

/-- The port in the tracking bytes that a token begins with, if it does. -/
def trackedPort : List UInt8 → Option UInt16
  | marker :: low :: high :: _ => if marker = crc8 [low, high] then some (wordOf low high) else none
  | _ => none

/-- A token yields a port exactly if it begins with the tracking bytes for it. -/
theorem trackedPort_eq_some_iff {token : List UInt8} {port : UInt16} :
    trackedPort crc8 token = some port ↔ ∃ rest, token = trackingToken crc8 port ++ rest := by
  constructor
  · intro h
    match token with
    | marker :: low :: high :: rest =>
      obtain ⟨rfl, rfl⟩ : marker = crc8 [low, high] ∧ wordOf low high = port := by
        simpa [trackedPort] using h
      exact ⟨rest, by simp [trackingToken]⟩
    | [] | [_] | [_, _] => cases h
  · rintro ⟨rest, rfl⟩
    simp [trackedPort, trackingToken]

namespace Message

/-- The tracking bytes fit, in the token and in the room behind the datagram. -/
def TokensFit (m : Message) (room : Nat) : Prop := m.token.length < 5 ∧ 3 ≤ room

instance (m : Message) (room : Nat) : Decidable (m.TokensFit room) :=
  inferInstanceAs (Decidable (_ ∧ _))

/-- `udpToSerial` tracks the message id: of a request without tracking bytes, of
a Confirmable request with them, of a Confirmable response, of an Empty. -/
def TracksMid (m : Message) (room : Nat) : Prop :=
  m.isRequest = true ∧ (¬m.TokensFit room ∨ m.type = .con) ∨
    m.isResponse = true ∧ m.type = .con ∨ m.isEmpty = true

instance (m : Message) (room : Nat) : Decidable (m.TracksMid room) :=
  inferInstanceAs (Decidable (_ ∨ _))

/-- With tracking bytes only a Confirmable request is tracked. -/
theorem tracksMid_of_tokensFit (m : Message) {room : Nat} (hrequest : m.isRequest = true)
    (hfit : m.TokensFit room) : m.TracksMid room ↔ m.type = .con := by
  have hresponse := isResponse_of_isRequest hrequest
  have hempty := isEmpty_of_isRequest hrequest
  simp [TracksMid, hrequest, hresponse, hempty, hfit]

end Message

/-! ## The specifications -/

theorem run_peek {α : Type} (f : List UInt8 → Option α) (frame : Frame) :
    (peek f).run frame =
      match f frame.buffer with
      | some x => .ok x frame
      | none => .error .undefined frame := by
  cases h : f frame.buffer with
  | none =>
      simp only [peek, EStateM.run_bind, EStateM.run_get, h]
      rfl
  | some x => simp [peek, h]

theorem run_poke (f : List UInt8 → Option (List UInt8)) (frame : Frame) :
    (poke f).run frame =
      match f frame.buffer with
      | some buffer => .ok () { frame with buffer := buffer }
      | none => .error .undefined frame := by
  cases h : f frame.buffer with
  | none =>
      simp only [poke, EStateM.run_bind, EStateM.run_get, h]
      rfl
  | some buffer => simp [poke, h]

theorem run_putTokenLength (tokenLen : UInt8) (frame : Frame) :
    (putTokenLength tokenLen).run frame =
      match setTokenLength frame.buffer tokenLen with
      | .ok buffer => .ok () { frame with buffer := buffer }
      | .error stop => .error stop frame := by
  cases h : setTokenLength frame.buffer tokenLen with
  | error stop =>
      simp only [putTokenLength, EStateM.run_bind, EStateM.run_get, h]
      rfl
  | ok buffer => simp [putTokenLength, h]

@[simp] theorem run_setLen (f : Nat → Nat) (frame : Frame) :
    (setLen f).run frame = .ok () { frame with len := f frame.len } := rfl

theorem run_trackBufferMid (now : SteadyTime) (port : UInt16) (m : Message) (slack : List UInt8)
    (len : Nat) (tracker : CoapPortTracker) :
    (trackBufferMid now port).run ⟨m.bytes ++ slack, len, tracker⟩ =
      .ok () ⟨m.bytes ++ slack, len, tracker.trackMid now port m.mid⟩ := by
  simp [trackBufferMid, run_peek]

/-- Inserting the tracking bytes into a message. -/
theorem run_addTrackingTokens {m : Message} {slack : List UInt8} (port : UInt16)
    (tracker : CoapPortTracker) (htoken : m.token.length < 5) (hslack : 3 ≤ slack.length)
    (hfits : (trackingToken crc8 port ++ m.token).length ≤ tokenMaxLen) :
    (addTrackingTokens crc8 port m.token.length).run
        ⟨m.bytes ++ slack, m.bytes.length, tracker⟩ =
      .ok () ⟨(m.withToken (trackingToken crc8 port ++ m.token) hfits).bytes ++ slack.drop 3,
        m.bytes.length + 3, tracker⟩ := by
  have hopen := memmove_open m.header (m.token ++ m.rest) slack hslack
  have hgap : ((m.token ++ m.rest ++ slack).take 3).length = 3 := by
    rw [List.length_take, List.length_append]
    omega
  obtain ⟨g₀, g₁, g₂, hgap⟩ := List.length_eq_three.mp hgap
  have hmoved : (sizeSub m.bytes.length tokenStartIndex >>= fun size ↦
        memmove (m.bytes ++ slack) (tokenStartIndex + 3) tokenStartIndex size) =
      some (m.header ++ [g₀, g₁, g₂] ++ (m.token ++ m.rest) ++ slack.drop 3) := by
    have hsize : sizeSub m.bytes.length tokenStartIndex = some (m.token ++ m.rest).length := by
      rw [Message.length_bytes, sizeSub_of_le (by simp only [tokenStartIndex, minLen]; omega)]
      simp only [List.length_append, tokenStartIndex, minLen]
      congr 1
      omega
    simp only [hsize, ← hgap]
    exact hopen
  let forwarded := m.withToken (trackingToken crc8 port ++ m.token) hfits
  have hlength : UInt8.ofNat m.token.length + 3 = forwarded.tokenLen := by
    have htotal : forwarded.token.length = m.token.length + 3 := by
      simp [forwarded, Message.withToken, trackingToken]
    rw [Message.tokenLen, htotal, UInt8.ofNat_add]
    rfl
  have hset (rest : List UInt8) :
      setTokenLength (headerByte m.type m.tokenLen :: rest) (UInt8.ofNat m.token.length + 3) =
        .ok (headerByte m.type forwarded.tokenLen :: rest) := by
    rw [hlength]
    exact setTokenLength_headerByte m.type m.tokenLen_le forwarded.tokenLen_le rest
  rw [addTrackingTokens]
  simp only [EStateM.run_bind, EStateM.run_get, run_poke, hmoved]
  simp [run_peek, run_putTokenLength, Message.header, write, tokenStartIndex, markerByte, hset,
    forwarded, Message.bytes_append, Message.withToken, trackingToken]

/-- Taking the tracking bytes out of a message. -/
theorem run_extractPort {m : Message} {token : List UInt8} {port : UInt16} (slack : List UInt8)
    (tracker : CoapPortTracker) (htoken : m.token = trackingToken crc8 port ++ token)
    (hfits : token.length ≤ tokenMaxLen) :
    ∃ slack', (extractPort m.tokenLen).run ⟨m.bytes ++ slack, m.bytes.length, tracker⟩ =
      .ok port ⟨(m.withToken token hfits).bytes ++ slack', m.bytes.length - 3, tracker⟩ := by
  have hshape : m.bytes ++ slack =
      m.header ++ trackingToken crc8 port ++ (token ++ m.rest) ++ slack := by
    simp only [Message.bytes, htoken, List.append_assoc]
  have hlen : m.bytes.length = tokenStartIndex + 3 + (token ++ m.rest).length := by
    simp only [Message.bytes, htoken, List.length_append, Message.length_header]
    simp only [trackingToken, List.length_cons, List.length_nil]
    omega
  have hmoved : (sizeSub m.bytes.length (tokenStartIndex + 3) >>= fun size ↦
        memmove (m.bytes ++ slack) tokenStartIndex (tokenStartIndex + 3) size) =
      some (m.header ++ (token ++ m.rest) ++
        (trackingToken crc8 port ++ (token ++ m.rest)).drop (token ++ m.rest).length ++ slack) := by
    have hsize : sizeSub m.bytes.length (tokenStartIndex + 3) = some (token ++ m.rest).length := by
      rw [hlen, sizeSub_of_le (Nat.le_add_right ..), Nat.add_sub_cancel_left]
    simp only [hsize, hshape]
    exact memmove_close m.header (trackingToken crc8 port) (token ++ m.rest) slack
  have hport : tokenPort (m.bytes ++ slack) = some port := by
    simp [tokenPort, hshape, Message.header, trackingToken, tokenStartIndex]
  have hlength : m.tokenLen - 3 = (m.withToken token hfits).tokenLen := by
    have htotal : m.token.length = token.length + 3 := by simp [htoken, trackingToken]
    rw [Message.tokenLen, htotal, UInt8.ofNat_add]
    exact UInt8.add_sub_cancel ..
  have hset (rest : List UInt8) :
      setTokenLength (headerByte m.type m.tokenLen :: rest) (m.tokenLen - 3) =
        .ok (headerByte m.type (m.withToken token hfits).tokenLen :: rest) := by
    rw [hlength]
    exact setTokenLength_headerByte m.type m.tokenLen_le (Message.tokenLen_le _) rest
  refine ⟨(trackingToken crc8 port ++ (token ++ m.rest)).drop (token ++ m.rest).length ++ slack, ?_⟩
  rw [extractPort]
  simp only [EStateM.run_bind, EStateM.run_get, run_peek, hport, run_poke, hmoved]
  simp [run_putTokenLength, Message.header, hset, Message.bytes_append, Message.withToken]

/-- The specification of `udpToSerial` for a request that takes tracking bytes. -/
theorem run_udpToSerial_of_tokensFit {m : Message} {slack : List UInt8} {maxLen : Nat}
    (now : SteadyTime) (port : UInt16) (tracker : CoapPortTracker)
    (hrequest : m.isRequest = true) (hfit : m.TokensFit (maxLen - m.bytes.length))
    (hmax : maxLen ≤ (m.bytes ++ slack).length)
    (hfits : (trackingToken crc8 port ++ m.token).length ≤ tokenMaxLen) :
    (udpToSerial crc8 now port maxLen).run ⟨m.bytes ++ slack, m.bytes.length, tracker⟩ =
      .ok () ⟨(m.withToken (trackingToken crc8 port ++ m.token) hfits).bytes ++ slack.drop 3,
        m.bytes.length + 3,
        if m.TracksMid (maxLen - m.bytes.length) then tracker.trackMid now port m.mid
        else tracker⟩ := by
  obtain ⟨htoken, hroom⟩ := hfit
  have hle : ¬maxLen < m.bytes.length := by omega
  have hslack : 3 ≤ slack.length := by
    rw [List.length_append] at hmax
    omega
  rw [udpToSerial]
  simp only [EStateM.run_bind, EStateM.run_get, if_neg hle, run_peek, Message.looksLikeCoap_bytes,
    Bool.not_true, Bool.false_eq_true, if_false, Message.getTokenLength_bytes,
    Message.isRequest_bytes, hrequest, if_true, Message.tokenLen_toNat]
  rw [if_pos (by simp [htoken, hroom])]
  simp only [EStateM.run_bind, run_addTrackingTokens crc8 port tracker htoken hslack hfits,
    run_peek, Message.getCoapType_bytes, Message.type_withToken,
    m.tracksMid_of_tokensFit hrequest ⟨htoken, hroom⟩, beq_iff_eq]
  split
  · exact run_trackBufferMid now port (m.withToken _ hfits) (slack.drop 3) _ tracker
  · rfl

/-- The specification of `udpToSerial` for every other message. -/
theorem run_udpToSerial_of_not_tokensFit {m : Message} (slack : List UInt8) {maxLen : Nat}
    (now : SteadyTime) (port : UInt16) (tracker : CoapPortTracker)
    (hlen : m.bytes.length ≤ maxLen)
    (h : ¬(m.isRequest = true ∧ m.TokensFit (maxLen - m.bytes.length))) :
    (udpToSerial crc8 now port maxLen).run ⟨m.bytes ++ slack, m.bytes.length, tracker⟩ =
      .ok () ⟨m.bytes ++ slack, m.bytes.length,
        if m.TracksMid (maxLen - m.bytes.length) then tracker.trackMid now port m.mid
        else tracker⟩ := by
  have hle : ¬maxLen < m.bytes.length := Nat.not_lt.mpr hlen
  have htrack := run_trackBufferMid now port m slack m.bytes.length tracker
  rw [udpToSerial]
  simp only [EStateM.run_bind, EStateM.run_get, if_neg hle, run_peek, Message.looksLikeCoap_bytes,
    Bool.not_true, Bool.false_eq_true, if_false, Message.getTokenLength_bytes,
    Message.isRequest_bytes, Message.tokenLen_toNat]
  cases hrequest : m.isRequest with
  | true =>
      have hfit : ¬m.TokensFit (maxLen - m.bytes.length) := fun hfit ↦ h ⟨hrequest, hfit⟩
      have htracks : m.TracksMid (maxLen - m.bytes.length) := .inl ⟨hrequest, .inl hfit⟩
      rw [if_pos rfl, if_neg (by simpa [Message.TokensFit] using hfit), if_pos htracks, htrack]
  | false =>
      simp only [Bool.false_eq_true, if_false, EStateM.run_bind, run_peek,
        Message.isResponse_bytes]
      cases hresponse : m.isResponse with
      | true =>
          have hempty : m.isEmpty = false := Message.isEmpty_of_isResponse hresponse
          simp only [if_true, EStateM.run_bind, run_peek, Message.getCoapType_bytes, beq_iff_eq,
            Message.TracksMid, hrequest, hresponse, hempty, Bool.false_eq_true, false_and,
            true_and, false_or, or_false]
          split
          · exact htrack
          · rfl
      | false =>
          simp only [Bool.false_eq_true, if_false, EStateM.run_bind, run_peek,
            Message.isEmpty_bytes, Message.TracksMid, hrequest, hresponse, false_and, false_or]
          split
          · exact htrack
          · rfl

/-- `udpToSerial` throws on anything that does not look like CoAP, and on a
datagram longer than its buffer, before it changes anything. -/
theorem run_udpToSerial_rejected (frame : Frame) (maxLen : Nat) (now : SteadyTime)
    (port : UInt16)
    (h : frame.len ≤ maxLen → looksLikeCoap frame.buffer frame.len ≠ some true) :
    ∃ stop, (udpToSerial crc8 now port maxLen).run frame = .error stop frame := by
  rw [udpToSerial]
  simp only [EStateM.run_bind, EStateM.run_get]
  by_cases hlt : maxLen < frame.len
  · rw [if_pos hlt]
    exact ⟨_, rfl⟩
  · rw [if_neg hlt]
    simp only [EStateM.run_bind, run_peek]
    cases hlooks : looksLikeCoap frame.buffer frame.len with
    | none => exact ⟨_, rfl⟩
    | some looks =>
        cases looks with
        | false => exact ⟨_, rfl⟩
        | true => exact absurd hlooks (h (Nat.not_lt.mp hlt))

/-- The test for a tracking token agrees with `trackedPort`. -/
theorem run_hasTrackingToken (m : Message) (slack : List UInt8) (len : Nat)
    (tracker : CoapPortTracker) :
    (hasTrackingToken crc8 m.tokenLen).run ⟨m.bytes ++ slack, len, tracker⟩ =
      .ok (trackedPort crc8 m.token).isSome ⟨m.bytes ++ slack, len, tracker⟩ := by
  have hle : 3 ≤ m.tokenLen ↔ 3 ≤ m.token.length := by
    rw [UInt8.le_iff_toNat_le, Message.tokenLen_toNat]
    rfl
  rw [hasTrackingToken]
  simp only [hle]
  match htoken : m.token with
  | marker :: low :: high :: rest =>
    have hread : firstTokenIsMarker crc8 (m.bytes ++ slack) =
        some (marker == crc8 [low, high]) := by
      simp [firstTokenIsMarker, markerByte, Message.bytes_append, htoken, tokenStartIndex]
    rw [if_pos (by simp), run_peek, hread]
    by_cases hmarker : marker = crc8 [low, high] <;> simp [trackedPort, hmarker]
  | [] | [_] | [_, _] =>
    rw [if_neg (by simp)]
    rfl

theorem run_portOfBufferMid (m : Message) (slack : List UInt8) (len : Nat)
    (tracker : CoapPortTracker) :
    portOfBufferMid.run ⟨m.bytes ++ slack, len, tracker⟩ =
      .ok (tracker.mappedPort m.mid) ⟨m.bytes ++ slack, len, tracker⟩ := by
  simp only [portOfBufferMid, EStateM.run_bind, run_peek, Message.getMid_bytes, EStateM.run_get,
    EStateM.run_pure]

/-- The specification of `serialToUdp` for a response with tracking bytes. -/
theorem run_serialToUdp_of_trackedPort {m : Message} {token : List UInt8} {port : UInt16}
    (slack : List UInt8) (tracker : CoapPortTracker) (hresponse : m.isResponse = true)
    (htoken : m.token = trackingToken crc8 port ++ token) (hfits : token.length ≤ tokenMaxLen) :
    ∃ slack', (serialToUdp crc8).run ⟨m.bytes ++ slack, m.bytes.length, tracker⟩ =
      .ok port ⟨(m.withToken token hfits).bytes ++ slack', m.bytes.length - 3, tracker⟩ := by
  have hrequest : m.isRequest = false := Message.isRequest_of_isResponse hresponse
  have hport : trackedPort crc8 m.token = some port :=
    (trackedPort_eq_some_iff crc8).mpr ⟨token, htoken⟩
  obtain ⟨slack', hextract⟩ := run_extractPort crc8 slack tracker htoken hfits
  refine ⟨slack', ?_⟩
  rw [serialToUdp]
  simp only [EStateM.run_bind, EStateM.run_get, run_peek, Message.looksLikeCoap_bytes,
    Bool.not_true, Bool.false_eq_true, if_false, Message.getTokenLength_bytes,
    Message.isRequest_bytes, hrequest, Message.isResponse_bytes, hresponse, if_true,
    run_hasTrackingToken, hport, Option.isSome_some, hextract]

/-- The specification of `serialToUdp` for a response without tracking bytes and
for an Empty: the port comes from the table, and nothing is changed. -/
theorem run_serialToUdp_of_mid {m : Message} (slack : List UInt8) (tracker : CoapPortTracker)
    (h : m.isResponse = true ∧ trackedPort crc8 m.token = none ∨ m.isEmpty = true) :
    (serialToUdp crc8).run ⟨m.bytes ++ slack, m.bytes.length, tracker⟩ =
      .ok (tracker.mappedPort m.mid) ⟨m.bytes ++ slack, m.bytes.length, tracker⟩ := by
  rw [serialToUdp]
  simp only [EStateM.run_bind, EStateM.run_get, run_peek, Message.looksLikeCoap_bytes,
    Bool.not_true, Bool.false_eq_true, if_false, Message.getTokenLength_bytes,
    Message.isRequest_bytes]
  rcases h with ⟨hresponse, hport⟩ | hempty
  · have hrequest : m.isRequest = false := Message.isRequest_of_isResponse hresponse
    simp only [hrequest, Bool.false_eq_true, if_false, EStateM.run_bind, run_peek,
      Message.isResponse_bytes, hresponse, if_true, run_hasTrackingToken, hport,
      Option.isSome_none, run_portOfBufferMid]
  · have hrequest : m.isRequest = false := Message.isRequest_of_isEmpty hempty
    have hresponse : m.isResponse = false := Message.isResponse_of_isEmpty hempty
    simp only [hrequest, Bool.false_eq_true, if_false, EStateM.run_bind, run_peek,
      Message.isResponse_bytes, hresponse, Message.isEmpty_bytes, hempty, if_true,
      run_portOfBufferMid]

end Specification

/-! ## Calls that leave the table alone -/

/-- The frame a call leaves behind, whether it returns or not. -/
def finalFrame {α : Type} : EStateM.Result Stop Frame α → Frame
  | .ok _ frame => frame
  | .error _ frame => frame

/-- The call leaves the tracker alone, whether it returns or not. -/
def KeepsTracker {α : Type} (call : Call α) : Prop :=
  ∀ frame, (finalFrame (call.run frame)).tracker = frame.tracker

namespace KeepsTracker

variable {α β : Type}

theorem pure (x : α) : KeepsTracker (Pure.pure x : Call α) := fun _ ↦ rfl

theorem get : KeepsTracker (MonadState.get : Call Frame) := fun _ ↦ rfl

theorem throw (stop : Stop) : KeepsTracker (throwThe Stop stop : Call α) := fun _ ↦ rfl

theorem bind {x : Call α} {f : α → Call β} (hx : KeepsTracker x)
    (hf : ∀ a, KeepsTracker (f a)) : KeepsTracker (x >>= f) := by
  intro frame
  have hfirst := hx frame
  rw [EStateM.run_bind]
  cases h : x.run frame with
  | ok a frame' =>
      rw [h] at hfirst
      exact (hf a frame').trans hfirst
  | error stop frame' =>
      rw [h] at hfirst
      exact hfirst

theorem ite {c : Prop} [Decidable c] {x y : Call α} (hx : KeepsTracker x)
    (hy : KeepsTracker y) : KeepsTracker (if c then x else y) := by
  split
  · exact hx
  · exact hy

theorem peek (f : List UInt8 → Option α) : KeepsTracker (Coap.peek f) := by
  intro frame
  rw [run_peek]
  cases f frame.buffer <;> rfl

theorem poke (f : List UInt8 → Option (List UInt8)) : KeepsTracker (Coap.poke f) := by
  intro frame
  rw [run_poke]
  cases f frame.buffer <;> rfl

theorem putTokenLength (tokenLen : UInt8) : KeepsTracker (Coap.putTokenLength tokenLen) := by
  intro frame
  rw [run_putTokenLength]
  cases setTokenLength frame.buffer tokenLen <;> rfl

theorem setLen (f : Nat → Nat) : KeepsTracker (Coap.setLen f) := fun _ ↦ rfl

theorem extractPort (tokenLength : UInt8) : KeepsTracker (Coap.extractPort tokenLength) :=
  get.bind fun _ ↦ (peek _).bind fun port ↦ (poke _).bind fun _ ↦
    (putTokenLength _).bind fun _ ↦ (setLen _).bind fun _ ↦ pure port

theorem portOfBufferMid : KeepsTracker Coap.portOfBufferMid :=
  (peek _).bind fun _ ↦ get.bind fun _ ↦ pure _

/-- `serialToUdp` only reads the table. -/
theorem serialToUdp (crc8 : List UInt8 → UInt8) : KeepsTracker (Coap.serialToUdp crc8) := by
  refine get.bind fun frame ↦ (peek _).bind fun looks ↦ ite (throw _) ?_
  refine (peek _).bind fun tokenLength ↦ (peek _).bind fun request ↦ ?_
  refine ite (get.bind fun _ ↦ pure _) ((peek _).bind fun response ↦ ite ?_
    ((peek _).bind fun empty ↦ ite portOfBufferMid (throw _)))
  exact (ite (peek _) (pure _)).bind fun tracking ↦ ite (extractPort _) portOfBufferMid

end KeepsTracker

/-! ## Concrete frames -/

/-- A Confirmable GET of `st`, without token. -/
def getRequest : Message := ⟨.con, 0x01, 0x3333, [], [0xB2, 0x73, 0x74], by decide⟩

/-- Its response, 2.05 Content. -/
def contentResponse : Message := ⟨.ack, 0x45, 0x3333, [], [0xFF, 0x31], by decide⟩

/-- A buffer of 32 bytes with a message in it. -/
def frameOf (m : Message) (tracker : CoapPortTracker) : Frame :=
  ⟨m.bytes ++ List.replicate (32 - m.bytes.length) 0, m.bytes.length, tracker⟩

theorem frameOf_holds (m : Message) (tracker : CoapPortTracker) : (frameOf m tracker).Holds m :=
  ⟨_, rfl, rfl⟩

end FortAgent.Coap
