import FortAgent.Coap.TokenTracking

/-!
# What the tracker makes of a message

The specifications of `udpToSerial` and `serialToUdp` by cases, each put into one: the
message that a caller finds in its buffer after `udpToSerial`, if it has left room
for tracking bytes, and the port that `serialToUdp` returns with the message it
leaves.  What is not a message is refused by both.
-/

namespace FortAgent.Coap

/-! ## What is not a message -/

/-- A buffer with a byte in it can be asked whether it looks like CoAP. -/
theorem looksLikeCoap_isSome {buffer : List UInt8} (h : buffer ≠ []) (len : Nat) :
    (looksLikeCoap buffer len).isSome := by
  obtain ⟨header, rest, rfl⟩ := List.exists_cons_of_ne_nil h
  rfl

/-- What the buffer of a call can hold, once there is a byte in it: something that
does not look like CoAP, or a message. -/
theorem looksLikeCoap_false_or_holds {frame : Frame} (hpos : 1 ≤ frame.len)
    (hle : frame.len ≤ frame.buffer.length) :
    looksLikeCoap frame.buffer frame.len = some false ∨ ∃ m, frame.Holds m := by
  have hne : frame.buffer ≠ [] := List.length_pos_iff.mp (Nat.lt_of_lt_of_le hpos hle)
  obtain ⟨looks, hlooks⟩ := Option.isSome_iff_exists.mp (looksLikeCoap_isSome hne frame.len)
  cases looks with
  | false => exact .inl hlooks
  | true => exact .inr ((looksLikeCoap_iff hle).mp hlooks)

/-- Bytes that are not a message do not look like one, whatever is behind them. -/
theorem looksLikeCoap_of_not_message {bytes : List UInt8} (hne : bytes ≠ [])
    (h : ∀ m : Message, bytes ≠ m.bytes) (slack : List UInt8) :
    looksLikeCoap (bytes ++ slack) bytes.length = some false := by
  let frame : Frame := ⟨bytes ++ slack, bytes.length, .new 0⟩
  have hpos : 1 ≤ frame.len := List.length_pos_iff.mpr hne
  have hle : frame.len ≤ frame.buffer.length := by simp [frame]
  rcases looksLikeCoap_false_or_holds hpos hle with hlooks | ⟨m, slack', hbuffer, hlen⟩
  · exact hlooks
  · exact absurd (List.append_inj hbuffer hlen).1 (h m)

section Tracking

variable (crc8 : List UInt8 → UInt8)

theorem run_udpToSerial_of_lt (now : SteadyTime) (port : UInt16) {maxLen : Nat} {frame : Frame}
    (h : maxLen < frame.len) :
    (udpToSerial crc8 now port maxLen).run frame =
      .error (.coapException s!"maxLen ({maxLen}) less than buffer length ({frame.len})")
        frame := by
  rw [udpToSerial]
  simp only [EStateM.run_bind, EStateM.run_get, if_pos h]
  rfl

theorem run_udpToSerial_of_not_coap (now : SteadyTime) (port : UInt16) {maxLen : Nat}
    {frame : Frame} (hle : frame.len ≤ maxLen)
    (h : looksLikeCoap frame.buffer frame.len = some false) :
    (udpToSerial crc8 now port maxLen).run frame =
      .error (.coapException "Packet from UDP is not valid CoAP") frame := by
  rw [udpToSerial]
  simp only [EStateM.run_bind, EStateM.run_get, if_neg (Nat.not_lt.mpr hle), run_peek, h,
    Bool.not_false, if_true]
  rfl

theorem run_serialToUdp_of_not_coap {frame : Frame}
    (h : looksLikeCoap frame.buffer frame.len = some false) :
    (serialToUdp crc8).run frame =
      .error (.coapException "Packet from serial port is not valid CoAP") frame := by
  rw [serialToUdp]
  simp only [EStateM.run_bind, EStateM.run_get, run_peek, h, Bool.not_false, if_true]
  rfl

/-! ## Towards the serial port -/

namespace Message

/-- The message that is forwarded for a port: a request with a short token takes
tracking bytes. -/
def forwarded (m : Message) (port : UInt16) : Message :=
  if h : m.isRequest = true ∧ m.token.length ≤ 4 then m.withTracking crc8 port h.2 else m

theorem forwarded_of_short {m : Message} (port : UInt16) (hrequest : m.isRequest = true)
    (htoken : m.token.length ≤ 4) : m.forwarded crc8 port = m.withTracking crc8 port htoken := by
  rw [forwarded, dif_pos ⟨hrequest, htoken⟩]

theorem forwarded_of_not {m : Message} (port : UInt16)
    (h : ¬(m.isRequest = true ∧ m.token.length ≤ 4)) : m.forwarded crc8 port = m := by
  rw [forwarded, dif_neg h]

theorem length_withTracking (m : Message) (port : UInt16) (h : m.token.length ≤ 4) :
    (m.withTracking crc8 port h).bytes.length = m.bytes.length + 3 := by
  simp only [length_bytes, withTracking, withToken, trackingToken, List.length_append,
    List.length_cons, List.length_nil]
  omega

theorem length_forwarded_le (m : Message) (port : UInt16) :
    (m.forwarded crc8 port).bytes.length ≤ m.bytes.length + 3 := by
  by_cases hshort : m.isRequest = true ∧ m.token.length ≤ 4
  · rw [m.forwarded_of_short crc8 port hshort.1 hshort.2]
    exact Nat.le_of_eq (m.length_withTracking crc8 port hshort.2)
  · rw [m.forwarded_of_not crc8 port hshort]
    exact Nat.le_add_right ..

end Message

/-- The specification of `udpToSerial`, with room for tracking bytes. -/
theorem run_udpToSerial_message (now : SteadyTime) (port : UInt16) (tracker : CoapPortTracker)
    {m : Message} {slack : List UInt8} {maxLen : Nat} (hroom : m.bytes.length + 3 ≤ maxLen)
    (hmax : maxLen ≤ (m.bytes ++ slack).length) :
    ∃ slack', (udpToSerial crc8 now port maxLen).run ⟨m.bytes ++ slack, m.bytes.length, tracker⟩ =
      .ok () ⟨(m.forwarded crc8 port).bytes ++ slack', (m.forwarded crc8 port).bytes.length,
        if m.TracksMid (maxLen - m.bytes.length) then tracker.trackMid now port m.mid
        else tracker⟩ := by
  have hthree : 3 ≤ maxLen - m.bytes.length := by omega
  by_cases hshort : m.isRequest = true ∧ m.token.length ≤ 4
  · obtain ⟨hrequest, htoken⟩ := hshort
    rw [m.forwarded_of_short crc8 port hrequest htoken, m.length_withTracking crc8 port htoken]
    exact ⟨slack.drop 3, run_udpToSerial_of_tokensFit crc8 now port tracker hrequest
      ⟨Nat.lt_succ_of_le htoken, hthree⟩ hmax (m.withTracking crc8 port htoken).token_length⟩
  · have hfit : ¬(m.isRequest = true ∧ m.TokensFit (maxLen - m.bytes.length)) := fun h ↦
      hshort ⟨h.1, Nat.le_of_lt_succ h.2.1⟩
    rw [m.forwarded_of_not crc8 port hshort]
    exact ⟨slack, run_udpToSerial_of_not_tokensFit crc8 slack now port tracker
      (Nat.le_of_add_right_le hroom) hfit⟩

/-! ## From the serial port -/

/-- The port a message from the serial port is for. -/
def CoapPortTracker.destination (tracker : CoapPortTracker) (m : Message) : Option UInt16 :=
  if m.isRequest then some tracker.defaultPort
  else if m.isResponse then some ((trackedPort crc8 m.token).getD (tracker.mappedPort m.mid))
  else if m.isEmpty then some (tracker.mappedPort m.mid)
  else none

theorem Message.length_drop_token_le (m : Message) (n : Nat) :
    (m.token.drop n).length ≤ tokenMaxLen := by
  rw [List.length_drop]
  exact Nat.le_trans (Nat.sub_le ..) m.token_length

/-- The message without the tracking bytes of a response. -/
def Message.untracked (m : Message) : Message :=
  if m.isResponse = true ∧ (trackedPort crc8 m.token).isSome then
    m.withToken (m.token.drop 3) (m.length_drop_token_le 3)
  else m

/-- Options and payload stay. -/
@[simp] theorem Message.rest_untracked (m : Message) : (m.untracked crc8).rest = m.rest := by
  rw [untracked]
  split
  · rfl
  · rfl

theorem Message.length_untracked_le (m : Message) :
    (m.untracked crc8).bytes.length ≤ m.bytes.length := by
  rw [untracked]
  split
  · have hdrop : (m.token.drop 3).length ≤ m.token.length := List.length_drop ▸ Nat.sub_le ..
    simp only [length_bytes, withToken]
    omega
  · exact Nat.le_refl _

theorem Message.untracked_of_not_response {m : Message} (h : m.isResponse = false) :
    m.untracked crc8 = m := by
  rw [untracked, if_neg fun hresponse ↦ Bool.false_ne_true (h.symm.trans hresponse.1)]

/-- A request from the serial port is for the default port. -/
theorem run_serialToUdp_of_request {m : Message} (slack : List UInt8)
    (tracker : CoapPortTracker) (h : m.isRequest = true) :
    (serialToUdp crc8).run ⟨m.bytes ++ slack, m.bytes.length, tracker⟩ =
      .ok tracker.defaultPort ⟨m.bytes ++ slack, m.bytes.length, tracker⟩ := by
  rw [serialToUdp]
  simp only [EStateM.run_bind, EStateM.run_get, run_peek, Message.looksLikeCoap_bytes,
    Bool.not_true, Bool.false_eq_true, if_false, Message.getTokenLength_bytes,
    Message.isRequest_bytes, h, if_true]
  rfl

/-- A message from the serial port of a reserved class is refused. -/
theorem run_serialToUdp_of_reserved {m : Message} (slack : List UInt8)
    (tracker : CoapPortTracker) (hrequest : m.isRequest = false)
    (hresponse : m.isResponse = false) (hempty : m.isEmpty = false) :
    (serialToUdp crc8).run ⟨m.bytes ++ slack, m.bytes.length, tracker⟩ =
      .error (.coapException "Packet from serial is not valid CoAP")
        ⟨m.bytes ++ slack, m.bytes.length, tracker⟩ := by
  rw [serialToUdp]
  simp only [EStateM.run_bind, EStateM.run_get, run_peek, Message.looksLikeCoap_bytes,
    Bool.not_true, Bool.false_eq_true, if_false, Message.getTokenLength_bytes,
    Message.isRequest_bytes, hrequest, Message.isResponse_bytes, hresponse, Message.isEmpty_bytes,
    hempty]
  rfl

/-- The specification of `serialToUdp` for a message that has a port. -/
theorem run_serialToUdp_of_destination {tracker : CoapPortTracker} {m : Message} {port : UInt16}
    (slack : List UInt8) (h : tracker.destination crc8 m = some port) :
    ∃ slack', (serialToUdp crc8).run ⟨m.bytes ++ slack, m.bytes.length, tracker⟩ =
      .ok port ⟨(m.untracked crc8).bytes ++ slack', (m.untracked crc8).bytes.length, tracker⟩ := by
  rw [CoapPortTracker.destination] at h
  cases hrequest : m.isRequest with
  | true =>
      rw [hrequest, if_pos rfl, Option.some.injEq] at h
      rw [m.untracked_of_not_response crc8 (Message.isResponse_of_isRequest hrequest), ← h]
      exact ⟨slack, run_serialToUdp_of_request crc8 slack tracker hrequest⟩
  | false =>
      rw [hrequest, if_neg Bool.false_ne_true] at h
      cases hresponse : m.isResponse with
      | true =>
          rw [hresponse, if_pos rfl, Option.some.injEq] at h
          cases hport : trackedPort crc8 m.token with
          | none =>
              rw [hport, Option.getD_none] at h
              rw [Message.untracked, hport, if_neg fun hsome ↦ Bool.false_ne_true hsome.2, ← h]
              exact ⟨slack, run_serialToUdp_of_mid crc8 slack tracker (.inl ⟨hresponse, hport⟩)⟩
          | some tracked =>
              rw [hport, Option.getD_some] at h
              obtain ⟨token, htoken⟩ := (trackedPort_eq_some_iff crc8).mp hport
              obtain rfl : m.token.drop 3 = token := by rw [htoken]; rfl
              have hfits := m.length_drop_token_le 3
              have hlength : (m.withToken (m.token.drop 3) hfits).bytes.length =
                  m.bytes.length - 3 := by
                have htotal : m.token.length = 3 + (m.token.drop 3).length :=
                  (congrArg List.length htoken).trans List.length_append
                rw [Message.length_bytes, Message.length_bytes, htotal]
                simp only [Message.withToken]
                omega
              rw [Message.untracked, hport, if_pos ⟨hresponse, rfl⟩, hlength, ← h]
              exact run_serialToUdp_of_trackedPort crc8 slack tracker hresponse htoken hfits
      | false =>
          rw [hresponse, if_neg Bool.false_ne_true] at h
          obtain ⟨hempty, hport⟩ := Option.ite_none_right_eq_some.mp h
          rw [m.untracked_of_not_response crc8 hresponse, ← Option.some.inj hport]
          exact ⟨slack, run_serialToUdp_of_mid crc8 slack tracker (.inr hempty)⟩

/-- The specification of `serialToUdp` for a message that has none. -/
theorem run_serialToUdp_of_no_destination {tracker : CoapPortTracker} {m : Message}
    (slack : List UInt8) (h : tracker.destination crc8 m = none) :
    (serialToUdp crc8).run ⟨m.bytes ++ slack, m.bytes.length, tracker⟩ =
      .error (.coapException "Packet from serial is not valid CoAP")
        ⟨m.bytes ++ slack, m.bytes.length, tracker⟩ := by
  rw [CoapPortTracker.destination] at h
  cases hrequest : m.isRequest with
  | true =>
      rw [hrequest, if_pos rfl] at h
      cases h
  | false =>
      rw [hrequest, if_neg Bool.false_ne_true] at h
      cases hresponse : m.isResponse with
      | true =>
          rw [hresponse, if_pos rfl] at h
          cases h
      | false =>
          rw [hresponse, if_neg Bool.false_ne_true] at h
          cases hempty : m.isEmpty with
          | true =>
              rw [hempty, if_pos rfl] at h
              cases h
          | false => exact run_serialToUdp_of_reserved crc8 slack tracker hrequest hresponse hempty

end Tracking

end FortAgent.Coap
