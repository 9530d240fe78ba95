import FortAgent.Coap.Destination

/-!
# Calls of the tracker are atomic

`udpToSerial` and `serialToUdp` edit a datagram in place and keep a table.  Either
they throw before they have changed anything, or they return and leave a datagram
behind that still looks like CoAP and still fits.

The memory of a call is its buffer and nothing else: in `udpToSerial` a buffer of
`maxLen` bytes, in `serialToUdp` one of `*len` bytes.  A byte beyond it, or a length
below zero, would end the call with `Stop.undefined`.
-/

namespace FortAgent.Coap

open Memory

/-- A call from the frame `before` has ended with this result: it has thrown, but
not the exception of `setTokenLength`, and has left everything as it was; or it has
left a datagram of CoAP that is not longer than `bound`. -/
def Atomic {α : Type} (before : Frame) (bound : Nat) : EStateM.Result Stop Frame α → Prop
  | .ok _ after => looksLikeCoap after.buffer after.len = some true ∧ after.len ≤ bound
  | .error stop after =>
    after = before ∧ (∃ what, stop = .coapException what) ∧
      ∀ coapBuffer tokenLen, setTokenLength coapBuffer tokenLen ≠ .error stop

/-- What `setTokenLength` throws begins with a capital A. -/
theorem setTokenLength_ne_error {what : String} (h : what.toList.head? ≠ some 'A')
    (coapBuffer : List UInt8) (tokenLen : UInt8) :
    setTokenLength coapBuffer tokenLen ≠ .error (.coapException what) := by
  unfold setTokenLength
  split
  · intro heq
    cases heq
    refine h ?_
    rw [String.toList_append, String.toList_append, List.append_assoc]
    rfl
  · split
    · intro heq
      cases heq
    · intro heq
      cases heq

/-- A message in a buffer that it fits. -/
theorem atomic_holds {α : Type} {before after : Frame} {bound : Nat} {x : α} {m : Message}
    (hholds : after.Holds m) (hle : after.len ≤ bound) : Atomic before bound (.ok x after) := by
  obtain ⟨slack, hbuffer, hlen⟩ := hholds
  refine ⟨?_, hle⟩
  rw [hbuffer, hlen, Message.looksLikeCoap_bytes]

/-- A call that throws something else than `setTokenLength` does, at its start. -/
theorem atomic_error {α : Type} {frame : Frame} {bound : Nat} {what : String}
    (h : what.toList.head? ≠ some 'A') :
    Atomic frame bound (.error (.coapException what) frame : EStateM.Result Stop Frame α) :=
  ⟨rfl, ⟨what, rfl⟩, setTokenLength_ne_error h⟩

variable (crc8 : List UInt8 → UInt8)

theorem atomic_udpToSerial (now : SteadyTime) (port : UInt16) {frame : Frame}
    (hpos : 1 ≤ frame.len) :
    Atomic frame frame.buffer.length
      ((udpToSerial crc8 now port frame.buffer.length).run frame) := by
  by_cases hlt : frame.buffer.length < frame.len
  · rw [run_udpToSerial_of_lt crc8 now port hlt]
    have hfirst (a b : Nat) :
        (s!"maxLen ({a}) less than buffer length ({b})").toList.head? = some 'm' := by
      simp only [String.toList_append, List.append_assoc]
      rfl
    refine atomic_error ?_
    rw [hfirst]
    decide
  have hle := Nat.not_lt.mp hlt
  rcases looksLikeCoap_false_or_holds hpos hle with hlooks | ⟨m, slack, hbuffer, hlen⟩
  · rw [run_udpToSerial_of_not_coap crc8 now port hle hlooks]
    exact atomic_error (by decide)
  obtain ⟨buffer, len, tracker⟩ := frame
  obtain rfl : buffer = m.bytes ++ slack := hbuffer
  obtain rfl : len = m.bytes.length := hlen
  by_cases hroom : m.bytes.length + 3 ≤ (m.bytes ++ slack).length
  · obtain ⟨slack', hrun⟩ := run_udpToSerial_message crc8 now port tracker hroom (Nat.le_refl _)
    rw [hrun]
    exact atomic_holds ⟨slack', rfl, rfl⟩
      (Nat.le_trans (m.length_forwarded_le crc8 port) hroom)
  · have hfit : ¬(m.isRequest = true ∧
        m.TokensFit ((m.bytes ++ slack).length - m.bytes.length)) := by
      rintro ⟨-, -, hthree⟩
      omega
    rw [run_udpToSerial_of_not_tokensFit crc8 slack now port tracker hle hfit]
    exact atomic_holds ⟨slack, rfl, rfl⟩ hle

theorem atomic_serialToUdp {frame : Frame} (hpos : 1 ≤ frame.len)
    (hmemory : frame.buffer.length = frame.len) :
    Atomic frame frame.len ((serialToUdp crc8).run frame) := by
  rcases looksLikeCoap_false_or_holds hpos (Nat.le_of_eq hmemory.symm) with
    hlooks | ⟨m, slack, hbuffer, hlen⟩
  · rw [run_serialToUdp_of_not_coap crc8 hlooks]
    exact atomic_error (by decide)
  obtain ⟨buffer, len, tracker⟩ := frame
  obtain rfl : buffer = m.bytes ++ slack := hbuffer
  obtain rfl : len = m.bytes.length := hlen
  cases hport : tracker.destination crc8 m with
  | none =>
      rw [run_serialToUdp_of_no_destination crc8 slack hport]
      exact atomic_error (by decide)
  | some port =>
      obtain ⟨slack', hrun⟩ := run_serialToUdp_of_destination crc8 slack hport
      rw [hrun]
      exact atomic_holds ⟨slack', rfl, rfl⟩ (m.length_untracked_le crc8)

/-- **Atomic and in bounds.**  Whatever is in the buffer and in the table: a call of
`udpToSerial` that may use the whole buffer, and a call of `serialToUdp` for a
datagram that fills it, either throw before they have changed anything, or leave a
datagram of CoAP that fits. -/
theorem tracker_calls_atomic (now : SteadyTime) (port : UInt16) {frame : Frame}
    (hpos : 1 ≤ frame.len) :
    Atomic frame frame.buffer.length
        ((udpToSerial crc8 now port frame.buffer.length).run frame) ∧
      (frame.buffer.length = frame.len →
        Atomic frame frame.len ((serialToUdp crc8).run frame)) :=
  ⟨atomic_udpToSerial crc8 now port hpos, atomic_serialToUdp crc8 hpos⟩

/-- A request in a buffer of 32 bytes. -/
theorem tracker_calls_atomic_get :
    let frame := frameOf getRequest (.new 5683)
    Atomic frame frame.buffer.length
      ((udpToSerial crc8Poly07 0 7777 frame.buffer.length).run frame) ∧
    Atomic ⟨getRequest.bytes, getRequest.bytes.length, .new 5683⟩ getRequest.bytes.length
      ((serialToUdp crc8Poly07).run ⟨getRequest.bytes, getRequest.bytes.length, .new 5683⟩) := by
  have hpos : 1 ≤ (frameOf getRequest (.new 5683)).len := by decide
  have hpos' : 1 ≤ (Frame.mk getRequest.bytes getRequest.bytes.length (.new 5683)).len := by decide
  exact ⟨(tracker_calls_atomic crc8Poly07 0 7777 hpos).1,
    (tracker_calls_atomic crc8Poly07 0 7777 hpos').2 rfl⟩

end FortAgent.Coap
