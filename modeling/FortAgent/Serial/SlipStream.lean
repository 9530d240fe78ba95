import FortAgent.Serial.Slip
import Mathlib.Data.List.Basic

/-!
# The SLIP stream round trip

What the encoder sends, the decoder receives, from whatever state a noisy line
has left it in.  This is the law of streams of the byte stuffing
(`Stuffing.outputs_frames_of_any`), read through the encoder and the decoder.
-/

namespace FortAgent.Serial

open Transducer

/-- The bytes that `createSlipEncodedMessage` leaves in a buffer with room for
twice the message and two bytes more. -/
def slipEncoded (m : List UInt8) : List UInt8 :=
  match createSlipEncodedMessage (List.replicate (2 * m.length + 2) 0) m
      (UInt32.ofNat m.length) with
  | some (dataToBeSent, length) => dataToBeSent.take length.toNat
  | none => []

/-- Such a buffer always suffices. -/
theorem slipEncoded_eq_frame {m : List UInt8} (h : m.length ≤ fortAgentBufferUnitSz) :
    slipEncoded m = slip.frame m := by
  have hlength : (UInt32.ofNat m.length).toNat = m.length :=
    UInt32.toNat_ofNat_of_lt' (Nat.lt_of_le_of_lt h (by decide))
  have hframe : (slip.frame m).length ≤ 2 * m.length + 2 := by
    rw [Stuffing.length_frame]
    exact Nat.add_le_add_right (slip.length_escape_le m) 2
  have hframeLength : (UInt32.ofNat (slip.frame m).length).toNat = (slip.frame m).length := by
    refine UInt32.toNat_ofNat_of_lt' (Nat.lt_of_le_of_lt hframe ?_)
    simp only [fortAgentBufferUnitSz, UInt32.size] at h ⊢
    omega
  have hencoded := createSlipEncodedMessage_eq (List.replicate (2 * m.length + 2) 0) m
    (UInt32.ofNat m.length) (by rwa [hlength]) (Nat.le_of_eq hlength)
  simp only [hlength, List.take_length, List.length_replicate, if_pos hframe] at hencoded
  simp only [slipEncoded, hencoded, hframeLength, List.take_left]

/-- The bytes pending in a handler that is not in the middle of an escape, if they
make up a message. -/
def SlipHandler.leftover {bufSize : Nat} (handler : SlipHandler bufSize) : List (List UInt8) :=
  if handler.state = .normal ∧ 2 ≤ handler.size then [handler.message] else []

/-- A `stop` delivers what is left over, or nothing. -/
theorem SlipHandler.messages_flush {bufSize : Nat} (handler : SlipHandler bufSize) :
    Stuffing.messages [Stuffing.flush 2 handler.toReceiver] = handler.leftover := by
  have hlength : handler.toReceiver.pending.length = handler.size := handler.length_message
  cases hstate : handler.state with
  | normal =>
      have hescaped : handler.toReceiver.escaped = false := by simp [toReceiver, hstate]
      by_cases hsize : 2 ≤ handler.size
      · have hflush : Stuffing.flush 2 handler.toReceiver = .message handler.message := by
          simp only [Stuffing.flush, hescaped, Bool.false_eq_true, if_false, hlength, if_pos hsize]
          rfl
        rw [hflush, leftover, if_pos ⟨hstate, hsize⟩]
        rfl
      · simp [Stuffing.flush, hescaped, hlength, hsize, leftover, Stuffing.messages,
          Stuffing.Event.delivered]
  | escaped =>
      have hescaped : handler.toReceiver.escaped = true := by simp [toReceiver, hstate]
      simp [Stuffing.flush, hescaped, leftover, hstate, Stuffing.messages,
        Stuffing.Event.delivered]

/-- A handler that implements the initial receiver has been reset. -/
theorem SlipHandler.reset_of_toReceiver {bufSize : Nat} {handler : SlipHandler bufSize}
    (h : handler.toReceiver = .initial) : handler.state = .normal ∧ handler.size = 0 := by
  have hmessage : handler.message = [] := congrArg Stuffing.Receiver.pending h
  have hescaped : (handler.state == .escaped) = false := congrArg Stuffing.Receiver.escaped h
  constructor
  · cases hstate : handler.state with
    | normal => rfl
    | escaped => simp [hstate] at hescaped
  · rw [← handler.length_message, hmessage, List.length_nil]

/-- **SLIP stream round trip.**  Let a handler in any state read the encodings of
some messages of 2 to 512 bytes, one after the other.  It delivers what is left
over in it, and then exactly these messages; no byte after the first one returns an
error; and the handler is reset at the end. -/
theorem slip_stream_round_trip
    (recvMessage : Vector UInt8 fortAgentBufferUnitSz → Nat → Vector UInt8 fortAgentBufferUnitSz)
    (handler : SlipHandler fortAgentBufferUnitSz) (ms : List (List UInt8))
    (hms : ∀ m ∈ ms, 2 ≤ m.length ∧ m.length ≤ fortAgentBufferUnitSz) :
    let stream := ms.flatMap slipEncoded
    let results := outputs (SlipHandler.readByte recvMessage) handler stream
    let after := final (SlipHandler.readByte recvMessage) handler stream
    results.filterMap ReadResult.received = (if ms = [] then [] else handler.leftover) ++ ms ∧
      (∀ result ∈ results.tail, result.error = .noError) ∧
      (ms ≠ [] → after.state = .normal ∧ after.size = 0) := by
  intro stream results after
  have hstream : stream = ms.flatMap slip.frame :=
    List.flatMap_congr fun m hm ↦ slipEncoded_eq_frame (hms m hm).2
  have hsim := SlipHandler.receive_toReceiver recvMessage
  have hevents : outputs (slip.receive fortAgentBufferUnitSz 2) handler.toReceiver stream =
      results.map ReadResult.event := outputs_of_simulation hsim handler stream
  have hafter : final (slip.receive fortAgentBufferUnitSz 2) handler.toReceiver stream =
      after.toReceiver := final_of_simulation hsim handler stream
  by_cases hne : ms = []
  · subst hne
    exact ⟨rfl, fun result h ↦ absurd h List.not_mem_nil, fun h ↦ absurd rfl h⟩
  · obtain ⟨hfinal, es, hout, hmessages, hfaultless⟩ := slip.outputs_frames_of_any
      fortAgentBufferUnitSz 2 handler.toReceiver Nat.zero_lt_two hne hms
    rw [← hstream] at hfinal hout
    rw [hevents] at hout
    rw [hafter] at hfinal
    refine ⟨?_, ?_, fun _ ↦ SlipHandler.reset_of_toReceiver hfinal⟩
    · rw [← ReadResult.messages_event, hout, if_neg hne, ← List.singleton_append,
        Stuffing.messages_append, handler.messages_flush, hmessages]
    · intro result hresult
      have hmem : result.event ∈ es := by
        have htail : results.tail.map ReadResult.event = es := by
          rw [List.map_tail, hout, List.tail_cons]
        exact htail ▸ List.mem_map_of_mem hresult
      exact not_not.mp ((result.isFault_event).not.mp (hfaultless _ hmem))

/-- Two messages, the second made of special bytes, read by a fresh handler. -/
theorem slip_stream_round_trip_fresh :
    (outputs (SlipHandler.readByte fun buf _ ↦ buf)
        (SlipHandler.init (Vector.replicate fortAgentBufferUnitSz 0))
        ([[1, 2], [0xC0, 0xDB, 0xDC]].flatMap slipEncoded)).filterMap ReadResult.received =
      [[1, 2], [0xC0, 0xDB, 0xDC]] :=
  (slip_stream_round_trip (fun buf _ ↦ buf)
    (.init (Vector.replicate fortAgentBufferUnitSz 0)) [[1, 2], [0xC0, 0xDB, 0xDC]]
    (by decide)).1

end FortAgent.Serial
