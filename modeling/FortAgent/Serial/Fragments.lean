import FortAgent.Lib.StuffingFaults
import FortAgent.Serial.Slip

/-!
# Fragments of frames

The bytes between two `END`s are a segment, and what the decoder delivers at the
second one is meant to be the content of the segment.  After an error the decoder
forgets what it has read of a segment and goes on with the rest, and delivers that
as if it were the whole.

`delivers_whole_segments_iff` says which streams this does not happen in.
-/

namespace FortAgent.Serial

open Transducer

/-- The steps of a decoder. -/
abbrev ReadStep := Step (SlipHandler fortAgentBufferUnitSz) UInt8 ReadResult

/-- A segment begins after these bytes: they are none, or the last one is `END`. -/
def SegmentStart (before : List UInt8) : Prop :=
  before = [] ∨ ∃ past, before = past ++ [slipSpecialByteEnd]

/-- Some bytes of the stream are a segment, ended by an `END`. -/
def IsSegment (stream segment : List UInt8) : Prop :=
  ∃ before after, stream = before ++ segment ++ slipSpecialByteEnd :: after ∧
    SegmentStart before ∧ slipSpecialByteEnd ∉ segment

/-- Every message is delivered at an `END`, is the unescaping of the segment that
ends there, and no error was reported in the segment. -/
def DeliversWholeSegments (h : List ReadStep) : Prop :=
  ∀ before segment r after, h = before ++ segment ++ r :: after →
    SegmentStart (before.map Step.input) → slipSpecialByteEnd ∉ segment.map Step.input →
    ∀ m, r.output.received = some m →
      r.input = slipSpecialByteEnd ∧ slip.unescape (segment.map Step.input) = some m ∧
        ∀ q ∈ segment, q.output.error = .noError

section Decoder

variable (recvMessage : Vector UInt8 fortAgentBufferUnitSz → Nat →
  Vector UInt8 fortAgentBufferUnitSz)

/-- At the start of a segment the decoder is in its initial state. -/
theorem toReceiver_of_segmentStart (buf : Vector UInt8 fortAgentBufferUnitSz)
    {before : List UInt8} (h : SegmentStart before) :
    (final (SlipHandler.readByte recvMessage) (.init buf) before).toReceiver = .initial := by
  have hsim := SlipHandler.receive_toReceiver recvMessage
  rw [← final_of_simulation hsim]
  rcases h with rfl | ⟨past, rfl⟩
  · rfl
  · rw [final_append]
    exact congrArg Prod.fst (slip.receive_stop _ _ _)

theorem event_eq_message_iff {result : ReadResult} {m : List UInt8} :
    result.event = .message m ↔ result.received = some m := by
  rw [← result.delivered_event]
  constructor
  · intro h
    rw [h]
    rfl
  · intro h
    cases hevent : result.event with
    | message m' =>
        rw [hevent] at h
        rw [Option.some.inj h]
    | silent | overflow | unknownEscape =>
        rw [hevent] at h
        cases h

/-- A message is delivered at an `END` exactly if the receiver that the decoder
implements delivers it. -/
theorem received_stop_iff {handler : SlipHandler fortAgentBufferUnitSz} {m : List UInt8} :
    (handler.readByte recvMessage slipSpecialByteEnd).2.received = some m ↔
      Stuffing.flush 2 handler.toReceiver = .message m := by
  have hstop : (handler.readByte recvMessage slipSpecialByteEnd).2.event =
      Stuffing.flush 2 handler.toReceiver :=
    (congrArg Prod.snd (handler.receive_toReceiver recvMessage slip.stop)).symm.trans
      (congrArg Prod.snd (slip.receive_stop _ _ _))
  rw [← hstop, event_eq_message_iff]

/-- A message is only delivered at an `END`. -/
theorem eq_end_of_received {handler : SlipHandler fortAgentBufferUnitSz} {byte : UInt8}
    {m : List UInt8} (h : (handler.readByte recvMessage byte).2.received = some m) :
    byte = slipSpecialByteEnd := by
  have hevent := congrArg Prod.snd (handler.receive_toReceiver recvMessage byte)
  exact slip.eq_stop_of_message _ _ (hevent.trans (event_eq_message_iff.mpr h))

/-- What a decoder in its initial state delivers at the end of a segment. -/
theorem received_segment_iff {handler : SlipHandler fortAgentBufferUnitSz}
    {segment m : List UInt8} (hinitial : handler.toReceiver = .initial)
    (hsegment : slipSpecialByteEnd ∉ segment) :
    ((final (SlipHandler.readByte recvMessage) handler segment).readByte recvMessage
        slipSpecialByteEnd).2.received = some m ↔
      2 ≤ m.length ∧ m.length ≤ fortAgentBufferUnitSz ∧
        ∃ errs : List (List UInt8), (∀ e ∈ errs, slip.ErrorWord fortAgentBufferUnitSz e) ∧
          segment = errs.flatten ++ slip.escape m := by
  rw [received_stop_iff, ← final_of_simulation (SlipHandler.receive_toReceiver recvMessage),
    hinitial, slip.flush_eq_message_iff fortAgentBufferUnitSz hsegment]

/-- Escaped content that fits is read without an error. -/
theorem error_of_escape {handler : SlipHandler fortAgentBufferUnitSz} {m : List UInt8}
    (hinitial : handler.toReceiver = .initial) (hm : m.length ≤ fortAgentBufferUnitSz) :
    ∀ q ∈ history (SlipHandler.readByte recvMessage) handler (slip.escape m),
      q.output.error = .noError := by
  intro q hq
  obtain ⟨-, hout⟩ := slip.final_escape fortAgentBufferUnitSz 2 (p := []) m (by simpa using hm)
  have hevents := outputs_of_simulation (SlipHandler.receive_toReceiver recvMessage) handler
    (slip.escape m)
  rw [hinitial, Stuffing.Receiver.initial, hout] at hevents
  have hmem : q.output.event ∈ (outputs (SlipHandler.readByte recvMessage) handler
      (slip.escape m)).map ReadResult.event :=
    List.mem_map_of_mem (List.mem_map_of_mem hq)
  rw [← hevents] at hmem
  refine not_not.mp (q.output.isFault_event.not.mp ?_)
  rw [List.eq_of_mem_replicate hmem]
  exact id

/-- **No fragment is delivered** from the state left by `slip_init` exactly if no
segment of the stream leaks. -/
theorem delivers_whole_segments_iff (buf : Vector UInt8 fortAgentBufferUnitSz)
    (stream : List UInt8) :
    DeliversWholeSegments (history (SlipHandler.readByte recvMessage) (.init buf) stream) ↔
      ∀ segment, IsSegment stream segment → ¬slip.Leaks fortAgentBufferUnitSz 2 segment := by
  constructor
  · rintro hwhole segment ⟨before, after, rfl, hstart, hsegment⟩
      ⟨errs, m, hne, herrors, hleast, hcap, hword⟩
    have hinitial := toReceiver_of_segmentStart recvMessage buf hstart
    have hreceived := (received_segment_iff recvMessage hinitial hsegment).mpr
      ⟨hleast, hcap, errs, herrors, hword⟩
    obtain ⟨-, hunescape, -⟩ := hwhole
      (history (SlipHandler.readByte recvMessage) (.init buf) before) _ _ _
      (by rw [history_append, history_append, history_cons])
      (by rwa [history_inputs]) (by rwa [history_inputs]) m
      (by rw [record_output, final_append]; exact hreceived)
    rw [history_inputs, hword] at hunescape
    exact slip.unescape_ne_of_errorWords fortAgentBufferUnitSz hne herrors hunescape
  · intro hsegments before segment r after hhistory hstart hsegment m hm
    -- the three parts of the history, as runs over the three parts of the stream
    obtain ⟨past, future, rfl, hpast, hfuture⟩ := history_eq_append hhistory
    obtain ⟨past, word, rfl, rfl, rfl⟩ := history_eq_append hpast.symm
    rw [history_inputs] at hstart hsegment
    cases future with
    | nil => cases hfuture
    | cons byte future =>
        obtain ⟨rfl, -⟩ := List.cons.inj hfuture
        obtain rfl : byte = slipSpecialByteEnd := eq_end_of_received recvMessage hm
        have hinitial := toReceiver_of_segmentStart recvMessage buf hstart
        rw [record_output, final_append] at hm
        obtain ⟨hleast, hcap, errs, herrors, hword⟩ :=
          (received_segment_iff recvMessage hinitial hsegment).mp hm
        have hnil : errs = [] := by
          by_contra hne
          exact hsegments word ⟨past, future, rfl, hstart, hsegment⟩
            ⟨errs, m, hne, herrors, hleast, hcap, hword⟩
        obtain rfl : word = slip.escape m := by rw [hword, hnil, List.flatten_nil, List.nil_append]
        refine ⟨rfl, ?_, error_of_escape recvMessage hinitial hcap⟩
        rw [history_inputs, slip.unescape_escape]

end Decoder

/-- A segment with an unknown escape near its start. -/
def brokenSegment : List UInt8 := [0x41, slipSpecialByteEsc, 0x42, 0x43, 0x44]

/-- The bytes `A ESC B C D END`: an error is reported at `B`, and then `C D` is
delivered. -/
theorem fragment_delivered :
    let run := history (SlipHandler.readByte fun buf _ ↦ buf)
      (.init (Vector.replicate fortAgentBufferUnitSz 0)) (brokenSegment ++ [slipSpecialByteEnd])
    run.map (fun r ↦ r.output.error) =
        [.noError, .noError, .unknownEscapedByte, .noError, .noError, .noError] ∧
      run.filterMap (fun r ↦ r.output.received) = [[0x43, 0x44]] ∧
      ¬DeliversWholeSegments run := by
  intro run
  refine ⟨by decide +kernel, by decide +kernel, fun hwhole ↦ ?_⟩
  obtain ⟨-, hunescape, -⟩ := hwhole [] (history _ _ brokenSegment) (record _ _ slipSpecialByteEnd)
    [] (by rw [List.nil_append]; exact history_append ..) (.inl rfl)
    (by rw [history_inputs]; decide) [0x43, 0x44] (by decide +kernel)
  rw [history_inputs] at hunescape
  exact absurd hunescape (by decide)

end FortAgent.Serial
