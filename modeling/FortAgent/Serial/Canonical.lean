import FortAgent.Serial.Fragments
import FortAgent.Serial.SlipStream

/-!
# SLIP encoding is canonical

The decoder accepts nothing but what the encoder writes.  Bytes between two `END`s that
are read without an error are the escaped form of the message they deliver, so there is
one frame for each message and no other.
-/

namespace FortAgent.Serial

open Transducer

section Decoder

variable (recvMessage : Vector UInt8 fortAgentBufferUnitSz → Nat →
  Vector UInt8 fortAgentBufferUnitSz)

/-- From the reset state, this body of a frame and the `END` behind it are read without
an error, and the message is delivered. -/
structure AcceptsBody (handler : SlipHandler fortAgentBufferUnitSz) (body m : List UInt8) :
    Prop where
  body_noEnd : slipSpecialByteEnd ∉ body
  noError : ∀ result ∈ outputs (SlipHandler.readByte recvMessage) handler.resetRx
    (body ++ [slipSpecialByteEnd]), result.error = .noError
  delivers : m ∈ (outputs (SlipHandler.readByte recvMessage) handler.resetRx
    (body ++ [slipSpecialByteEnd])).filterMap ReadResult.received

variable {recvMessage}

/-- Nothing is delivered before the `END`. -/
theorem AcceptsBody.received {handler : SlipHandler fortAgentBufferUnitSz}
    {body m : List UInt8} (h : AcceptsBody recvMessage handler body m) :
    ((final (SlipHandler.readByte recvMessage) handler.resetRx body).readByte recvMessage
      slipSpecialByteEnd).2.received = some m := by
  obtain ⟨result, hmem, hreceived⟩ := List.mem_filterMap.mp h.delivers
  rw [outputs_append] at hmem
  rcases List.mem_append.mp hmem with hbody | hend
  · obtain ⟨q, hq, rfl⟩ := List.mem_map.mp hbody
    have hinput : q.input ∈ body := by
      have hmap := List.mem_map_of_mem (f := Step.input) hq
      rwa [history_inputs] at hmap
    obtain ⟨before, byte, rfl⟩ := exists_record_of_mem_history hq
    have hbyte : byte = slipSpecialByteEnd := eq_end_of_received recvMessage hreceived
    rw [record_input, hbyte] at hinput
    exact absurd hinput h.body_noEnd
  · rw [outputs_cons, outputs_nil, List.mem_singleton] at hend
    rw [← hend, hreceived]

/-- The body of an accepted frame is its message, escaped. -/
theorem AcceptsBody.eq_escape {handler : SlipHandler fortAgentBufferUnitSz}
    {body m : List UInt8} (h : AcceptsBody recvMessage handler body m) :
    m.length ≤ fortAgentBufferUnitSz ∧ body = slip.escape m := by
  have hsim := SlipHandler.receive_toReceiver recvMessage
  have hflush := (received_stop_iff recvMessage).mp h.received
  rw [← final_of_simulation hsim, SlipHandler.toReceiver_resetRx] at hflush
  refine slip.eq_escape_of_flush fortAgentBufferUnitSz h.body_noEnd hflush fun e he ↦ ?_
  have hevents := outputs_of_simulation hsim handler.resetRx body
  rw [SlipHandler.toReceiver_resetRx] at hevents
  rw [hevents] at he
  obtain ⟨result, hresult, rfl⟩ := List.mem_map.mp he
  have herror := h.noError result (by rw [outputs_append]; exact List.mem_append_left _ hresult)
  exact (result.isFault_event.not).mpr (not_not.mpr herror)

/-- **Canonical encoding.**  A frame that is accepted is what the encoder writes for its
message, and no other frame is accepted for the same message. -/
theorem slip_encoding_canonical {handler : SlipHandler fortAgentBufferUnitSz}
    {body m : List UInt8} (h : AcceptsBody recvMessage handler body m) :
    slipEncoded m = slipSpecialByteEnd :: body ++ [slipSpecialByteEnd] ∧
      ∀ recvMessage' handler' body', AcceptsBody recvMessage' handler' body' m → body' = body := by
  obtain ⟨hlength, hbody⟩ := h.eq_escape
  constructor
  · rw [slipEncoded_eq_frame hlength, hbody]
    rfl
  · intro recvMessage' handler' body' h'
    rw [h'.eq_escape.2, hbody]

end Decoder

/-- A body with both escapes. -/
theorem slip_encoding_canonical_escapes :
    slipEncoded [0xC0, 0x41, 0xDB] = [0xC0, 0xDB, 0xDC, 0x41, 0xDB, 0xDD, 0xC0] := by
  have haccepts : AcceptsBody (fun buf _ ↦ buf)
      (.init (Vector.replicate fortAgentBufferUnitSz 0)) [0xDB, 0xDC, 0x41, 0xDB, 0xDD]
      [0xC0, 0x41, 0xDB] := ⟨by decide, by decide +kernel, by decide +kernel⟩
  exact (slip_encoding_canonical haccepts).1

end FortAgent.Serial
