import FortAgent.Lib.StuffingCuts
import FortAgent.Serial.SlipStream
import FortAgent.Serial.TransmitQueue

/-!
# The serial link

From a message given to `asyncSendMessageToSerialPort` to the message that a SLIP
decoder at the other end of the line delivers: the message is framed, what fits of
the frame is buffered, the port writes the buffer out region by region, and the
decoder reads the bytes one by one.

Where every frame fits, the link is a queue (`link_delivers`): at any time the
decoder has delivered the first messages sent, and once the buffer is empty all of
them.  A message of a single byte is an exception, since the decoder delivers none.
Where one does not fit it is cut short, and what becomes of a cut frame is
`Stuffing.salvage`: of its message a prefix may come out, but no other message
suffers (`link_contains_damage`).  And as long as the port does not fail, something
is always under way until the buffer is empty (`link_drains`).
-/

namespace FortAgent.Serial

open Transducer

/-! ## The line -/

/-- What happens to a handler: a message is sent, or the port reports on a region. -/
inductive LinkEvent
  | sendMessage (message : List UInt8)
  | written (bytesTransferred : Nat)
  | failed
deriving DecidableEq, Repr

/-- What a call returns, if it is one, and the bytes that the port has written. -/
structure LinkTraffic where
  taken : Bool
  wired : List UInt8
deriving DecidableEq, Repr

/-- One recorded event of the line. -/
abbrev LinkStep := Step SerialHandler LinkEvent LinkTraffic

namespace SerialHandler

/-- An event.  A call that would write past its command counts as one that is
refused; `LinkAdmits` excludes it. -/
def linkStep (handler : SerialHandler) : LinkEvent → SerialHandler × LinkTraffic
  | .sendMessage message =>
    match handler.asyncSendMessageToSerialPort message message.length with
    | some (after, taken) => (after, ⟨taken, []⟩)
    | none => (handler, ⟨false, []⟩)
  | .written bytesTransferred =>
    let reported := handler.portStep (.written bytesTransferred)
    (reported.1, ⟨false, reported.2.wired⟩)
  | .failed => ((handler.portStep .failed).1, ⟨false, []⟩)

/-- What is kept to: a call stays inside its command, and the port reports on a region
it was given, from which it has written at least one byte. -/
def LinkAdmits (handler : SerialHandler) : LinkEvent → Prop
  | .sendMessage message => handler.asyncSendMessageToSerialPort message message.length ≠ none
  | .written bytesTransferred => handler.Admits (.written bytesTransferred)
  | .failed => handler.Admits .failed

instance (handler : SerialHandler) : (event : LinkEvent) → Decidable (handler.LinkAdmits event)
  | .sendMessage message => inferInstanceAs (Decidable (¬
      handler.asyncSendMessageToSerialPort message message.length = none))
  | .written bytesTransferred =>
    inferInstanceAs (Decidable (handler.Admits (.written bytesTransferred)))
  | .failed => inferInstanceAs (Decidable (handler.Admits .failed))

end SerialHandler

/-- The message that enters the queue at an event, and the number of bytes there is
room for. -/
def cut? (r : LinkStep) : Option (List UInt8 × Nat) :=
  match r.input with
  | .sendMessage message =>
    if r.output.taken ∧ message ≠ [] then some (message, r.before.writeBuffer.reserve) else none
  | _ => none

/-- The messages taken in a run, each with the room that was left for it. -/
def cuts (h : List LinkStep) : List (List UInt8 × Nat) := h.filterMap cut?

/-- All bytes that the port has written in a run. -/
def lineBytes (h : List LinkStep) : List UInt8 := h.flatMap fun r ↦ r.output.wired

/-- The messages that a fresh decoder delivers of some bytes. -/
def decoded (recvMessage : Vector UInt8 fortAgentBufferUnitSz → Nat →
      Vector UInt8 fortAgentBufferUnitSz)
    (buf : Vector UInt8 fortAgentBufferUnitSz) (bytes : List UInt8) : List (List UInt8) :=
  (outputs (SlipHandler.readByte recvMessage) (.init buf) bytes).filterMap ReadResult.received

section Decoding

variable (recvMessage : Vector UInt8 fortAgentBufferUnitSz → Nat →
  Vector UInt8 fortAgentBufferUnitSz) (buf : Vector UInt8 fortAgentBufferUnitSz)

theorem toReceiver_init :
    (SlipHandler.init buf).toReceiver = Stuffing.Receiver.initial := rfl

/-- The decoder is the receiver of the byte stuffing. -/
theorem decoded_eq (bytes : List UInt8) :
    decoded recvMessage buf bytes = Stuffing.messages
      (outputs (slip.receive fortAgentBufferUnitSz 2) .initial bytes) := by
  rw [decoded, ← ReadResult.messages_event, ← toReceiver_init buf,
    outputs_of_simulation (SlipHandler.receive_toReceiver recvMessage)]

/-- More bytes take back nothing. -/
theorem decoded_prefix (bytes more : List UInt8) :
    decoded recvMessage buf bytes <+: decoded recvMessage buf (bytes ++ more) := by
  rw [decoded, decoded, outputs_append, List.filterMap_append]
  exact List.prefix_append ..

end Decoding

/-! ## What an event does -/

namespace SerialHandler

variable {handler : SerialHandler}

/-- A call that stays inside its command changes nothing, or it buffers what fits of
the frame. -/
theorem linkStep_sendMessage {message : List UInt8}
    (h : handler.LinkAdmits (.sendMessage message)) :
    handler.linkStep (.sendMessage message) = (handler, ⟨false, []⟩) ∨
    message = [] ∧ handler.linkStep (.sendMessage message) = (handler, ⟨true, []⟩) ∨
    message ≠ [] ∧ message.length ≤ handler.writeBuffer.reserve ∧
      handler.linkStep (.sendMessage message) =
        ((handler.asyncSendDataToSerialPort (slip.frame message)).1, ⟨true, []⟩) := by
  simp only [LinkAdmits, linkStep, asyncSendMessageToSerialPort_eq] at h ⊢
  split_ifs at h ⊢ with hcheck hnil hframe
  · exact .inl rfl
  · exact .inr (.inl ⟨hnil, rfl⟩)
  · exact .inr (.inr ⟨hnil, Nat.not_lt.mp (not_or.mp hcheck).2, rfl⟩)
  · exact absurd rfl h

/-- **One event.**  The handler stays consistent, and what the port writes and what
is left in the queue is what was in the queue and what has entered it. -/
theorem Consistent.linkStep (h : handler.Consistent) {event : LinkEvent}
    (hadmits : handler.LinkAdmits event) :
    (handler.linkStep event).1.Consistent ∧
      (handler.linkStep event).2.wired ++ (handler.linkStep event).1.writeBuffer.contents =
        handler.writeBuffer.contents ++
          (cut? (record SerialHandler.linkStep handler event)).toList.flatMap fun cut ↦
            (slip.frame cut.1).take cut.2 := by
  cases event with
  | sendMessage message =>
      simp only [cut?, record_input, record_output, record_before]
      rcases linkStep_sendMessage hadmits with hstep | ⟨rfl, hstep⟩ | ⟨hne, hreserve, hstep⟩
      · simp [hstep, h]
      · simp [hstep, h]
      · have hsend := handler.contents_asyncSendData (slip.frame message) h.operational
        have hframe : slip.frame message ≠ [] := List.cons_ne_nil _ _
        simp [hstep, hne, hsend, h.send hframe]
  | written bytesTransferred =>
      have hport : handler.Admits (.written bytesTransferred) := hadmits
      obtain ⟨hnext, hqueue⟩ := h.portStep hport
      obtain ⟨region, hregion, -⟩ := hadmits
      obtain ⟨writes, hwrites⟩ := List.head?_eq_some_iff.mp hregion
      refine ⟨hnext, ?_⟩
      simpa [SerialHandler.linkStep, cut?, SerialHandler.portStep, hwrites] using hqueue
  | failed =>
      have hport : handler.Admits .failed := hadmits
      obtain ⟨hnext, hqueue⟩ := h.portStep hport
      obtain ⟨region, writes, hwrites⟩ := List.exists_cons_of_ne_nil hadmits
      refine ⟨hnext, ?_⟩
      simpa [SerialHandler.linkStep, cut?, SerialHandler.portStep, hwrites] using hqueue

/-- A message that is taken is no longer than the command. -/
theorem length_of_cut? {event : LinkEvent} (hadmits : handler.LinkAdmits event)
    {cut : List UInt8 × Nat}
    (hcut : cut? (record SerialHandler.linkStep handler event) = some cut) :
    cut.1.length ≤ fortAgentBufferUnitSz := by
  cases event with
  | sendMessage message =>
      have hcapacity : handler.writeBuffer.reserve ≤ fortAgentBufferUnitSz := Nat.sub_le _ _
      simp only [cut?, record_input, record_output, record_before] at hcut
      rcases linkStep_sendMessage hadmits with hstep | ⟨hnil, hstep⟩ | ⟨hne, hreserve, hstep⟩
      · simp [hstep] at hcut
      · simp [hnil] at hcut
      · simp only [hstep, hne, ne_eq, not_false_eq_true, and_self, if_true,
          Option.some.injEq] at hcut
        rw [← hcut]
        exact Nat.le_trans hreserve hcapacity
  | _ => cases hcut

end SerialHandler

/-! ## Runs -/

/-- The invariant of a run: the handler is consistent, the line and the queue hold what
has been taken, and nothing taken is longer than the command. -/
structure Carried (h : List LinkStep) (handler : SerialHandler) : Prop where
  consistent : handler.Consistent
  queue : lineBytes h ++ handler.writeBuffer.contents =
    (cuts h).flatMap fun cut ↦ (slip.frame cut.1).take cut.2
  length : ∀ cut ∈ cuts h, cut.1.length ≤ fortAgentBufferUnitSz

theorem carried_idle {handler : SerialHandler} (h : handler.Idle) : Carried [] handler where
  consistent := ⟨h.operational, .inl h.noWrite⟩
  queue := List.length_eq_zero_iff.mp (handler.writeBuffer.length_contents.trans h.empty)
  length := fun _ hcut ↦ absurd hcut List.not_mem_nil

theorem cuts_concat (h : List LinkStep) (r : LinkStep) :
    cuts (h ++ [r]) = cuts h ++ (cut? r).toList := by
  rw [cuts, List.filterMap_append, List.filterMap_cons]
  cases cut? r <;> rfl

theorem carried_step {h : List LinkStep} {handler : SerialHandler} {event : LinkEvent}
    (hcarried : Carried h handler) (hadmits : handler.LinkAdmits event) :
    Carried (h ++ [record SerialHandler.linkStep handler event]) (handler.linkStep event).1 := by
  obtain ⟨hnext, hqueue⟩ := hcarried.consistent.linkStep hadmits
  refine ⟨hnext, ?_, fun cut hcut ↦ ?_⟩
  · rw [cuts_concat, List.flatMap_append, ← hcarried.queue, List.append_assoc, ← hqueue]
    simp [lineBytes]
  · rw [cuts_concat] at hcut
    rcases List.mem_append.mp hcut with hcut | hcut
    · exact hcarried.length cut hcut
    · exact SerialHandler.length_of_cut? hadmits (Option.mem_toList.mp hcut)

theorem carried_run {handler : SerialHandler} (hidle : handler.Idle) (events : List LinkEvent)
    (hadmits : ∀ r ∈ history SerialHandler.linkStep handler events,
      r.before.LinkAdmits r.input) :
    Carried (history SerialHandler.linkStep handler events)
      (final SerialHandler.linkStep handler events) :=
  history_invariant SerialHandler.linkStep (C := fun _ r ↦ r.before.LinkAdmits r.input)
    (carried_idle hidle) (fun _ _ _ ↦ carried_step) events (along_of_forall hadmits)

/-! ## Cut frames -/

/-- What a fresh decoder delivers of cut frames and one more delimiter. -/
theorem decoded_stream
    (recvMessage : Vector UInt8 fortAgentBufferUnitSz → Nat → Vector UInt8 fortAgentBufferUnitSz)
    (buf : Vector UInt8 fortAgentBufferUnitSz) {cs : List (List UInt8 × Nat)}
    (hcs : ∀ cut ∈ cs, cut.1.length ≤ fortAgentBufferUnitSz) :
    decoded recvMessage buf
        ((cs.flatMap fun cut ↦ (slip.frame cut.1).take cut.2) ++ [slipSpecialByteEnd]) =
      cs.flatMap fun cut ↦ slip.salvage 2 cut.1 cut.2 := by
  have hstop := slip.receive_stop fortAgentBufferUnitSz 2
  have howed : Stuffing.owed 2 (Stuffing.Receiver.initial : Stuffing.Receiver UInt8) = [] := rfl
  rw [decoded_eq, outputs_append, Stuffing.messages_append, outputs_cons, outputs_nil,
    show slipSpecialByteEnd = slip.stop from rfl, hstop, ← Stuffing.owed,
    slip.owed_append_salvage fortAgentBufferUnitSz 2 Nat.zero_lt_two .initial hcs, howed,
    List.nil_append]

/-- **Damage is contained.**  In every run from an idle handler, what a fresh decoder has
delivered of the bytes on the line is what is salvaged of the messages taken, frame
by frame and in order, as far as it has come; and once the buffer is empty only the
last of it may be missing, which the next delimiter brings out.  Of a frame that had
room the message is salvaged, if it has at least two bytes, and of any other frame at most
one prefix of its message. -/
theorem link_contains_damage
    (recvMessage : Vector UInt8 fortAgentBufferUnitSz → Nat → Vector UInt8 fortAgentBufferUnitSz)
    (buf : Vector UInt8 fortAgentBufferUnitSz) {handler : SerialHandler} (hidle : handler.Idle)
    (events : List LinkEvent)
    (hadmits : ∀ r ∈ history SerialHandler.linkStep handler events,
      r.before.LinkAdmits r.input) :
    let h := history SerialHandler.linkStep handler events
    let after := final SerialHandler.linkStep handler events
    let salvaged := (cuts h).map fun cut ↦ slip.salvage 2 cut.1 cut.2
    decoded recvMessage buf (lineBytes h) <+: salvaged.flatten ∧
      (after.writeBuffer.size = 0 →
        decoded recvMessage buf (lineBytes h ++ [slipSpecialByteEnd]) = salvaged.flatten) ∧
      ∀ cut ∈ cuts h, (slip.salvage 2 cut.1 cut.2).length ≤ 1 ∧
        (∀ p ∈ slip.salvage 2 cut.1 cut.2, p <+: cut.1) ∧
        (2 ≤ cut.1.length → (slip.frame cut.1).length ≤ cut.2 →
          slip.salvage 2 cut.1 cut.2 = [cut.1]) := by
  intro h after salvaged
  obtain ⟨-, hqueue, hlength⟩ := carried_run hidle events hadmits
  have hstream := decoded_stream recvMessage buf hlength
  have hflatten : salvaged.flatten =
      (cuts h).flatMap fun cut ↦ slip.salvage 2 cut.1 cut.2 := (List.flatMap_def ..).symm
  rw [← hqueue] at hstream
  refine ⟨?_, fun hempty ↦ ?_, fun cut hcut ↦ ⟨slip.length_salvage_le 2 cut.1 cut.2,
    fun p hp ↦ slip.prefix_of_mem_salvage 2 hp, fun hleast hframe ↦ ?_⟩⟩
  · rw [hflatten, ← hstream, List.append_assoc]
    exact decoded_prefix ..
  · rw [hflatten, ← hstream, List.length_eq_zero_iff.mp
      (after.writeBuffer.length_contents.trans hempty), List.append_nil]
  · rw [slip.length_frame] at hframe
    exact slip.salvage_of_length_le 2 (by omega) hleast

/-- Two messages, one of one byte, with a write that fails in the middle of a frame. -/
theorem link_contains_damage_failed :
    let events : List LinkEvent :=
      [.sendMessage [slipSpecialByteEnd, 2], .written 2, .failed, .sendMessage [7]]
    let h := history SerialHandler.linkStep idleNearEnd events
    decoded (fun buf _ ↦ buf) (Vector.replicate fortAgentBufferUnitSz 0) (lineBytes h) <+:
      ((cuts h).map fun cut ↦ slip.salvage 2 cut.1 cut.2).flatten :=
  (link_contains_damage (fun buf _ ↦ buf) (Vector.replicate fortAgentBufferUnitSz 0)
    (show idleNearEnd.Idle from ⟨rfl, rfl, rfl, rfl⟩)
    [.sendMessage [slipSpecialByteEnd, 2], .written 2, .failed, .sendMessage [7]]
    (by decide +kernel)).1

/-! ## Whole frames -/

/-- The message given to a handler in an event. -/
def sentMessage? (r : LinkStep) : Option (List UInt8) :=
  match r.input with
  | .sendMessage message => some message
  | _ => none

/-- The messages given to a handler, oldest first. -/
def sentMessages (h : List LinkStep) : List (List UInt8) := h.filterMap sentMessage?

namespace SerialHandler

/-- What keeps a link whole: a message has two bytes, and its frame fits the buffer; and
the port reports on a region it was given. -/
def Accommodates (handler : SerialHandler) : LinkEvent → Prop
  | .sendMessage message =>
    2 ≤ message.length ∧ (slip.frame message).length ≤ handler.writeBuffer.reserve
  | .written bytesTransferred => handler.Admits (.written bytesTransferred)
  | .failed => handler.Admits .failed

instance (handler : SerialHandler) : (event : LinkEvent) → Decidable (handler.Accommodates event)
  | .sendMessage message => inferInstanceAs (Decidable (2 ≤ message.length ∧
      (slip.frame message).length ≤ handler.writeBuffer.reserve))
  | .written bytesTransferred =>
    inferInstanceAs (Decidable (handler.Admits (.written bytesTransferred)))
  | .failed => inferInstanceAs (Decidable (handler.Admits .failed))

variable {handler : SerialHandler}

/-- A message whose frame fits is taken. -/
theorem linkStep_of_fits (hstate : handler.state = .operational) {message : List UInt8}
    (hne : message ≠ [])
    (hfits : (slip.frame message).length ≤ handler.writeBuffer.reserve) :
    handler.linkStep (.sendMessage message) =
      ((handler.asyncSendDataToSerialPort (slip.frame message)).1, ⟨true, []⟩) := by
  have hcapacity : handler.writeBuffer.reserve ≤ fortAgentBufferUnitSz := Nat.sub_le _ _
  have hlength := slip.length_frame message
  have hescape := slip.length_escape message
  have hcheck : ¬(handler.state ≠ .operational ∨
      handler.writeBuffer.reserve < message.length) :=
    not_or.mpr ⟨not_not.mpr hstate, by omega⟩
  rw [linkStep, asyncSendMessageToSerialPort_eq, if_neg hcheck, if_neg hne,
    if_pos (Nat.le_trans hfits hcapacity)]

theorem linkAdmits_of_accommodates (hstate : handler.state = .operational) {event : LinkEvent}
    (h : handler.Accommodates event) : handler.LinkAdmits event := by
  cases event with
  | sendMessage message =>
      obtain ⟨hleast, hfits⟩ := h
      have hne : message ≠ [] := by
        rintro rfl
        exact absurd hleast (by decide)
      have hstep := linkStep_of_fits hstate hne hfits
      intro hnone
      rw [linkStep, hnone] at hstep
      exact Bool.noConfusion (congrArg (fun step ↦ step.2.taken) hstep)
  | written bytesTransferred => exact h
  | failed => exact h

end SerialHandler

/-- The invariant of a run in which every frame fits: the line and the queue hold the
frames of the messages sent. -/
structure CarriedWhole (h : List LinkStep) (handler : SerialHandler) : Prop where
  consistent : handler.Consistent
  queue : lineBytes h ++ handler.writeBuffer.contents = (sentMessages h).flatMap slip.frame
  length : ∀ m ∈ sentMessages h, 2 ≤ m.length ∧ m.length ≤ fortAgentBufferUnitSz

theorem carriedWhole_step {h : List LinkStep} {handler : SerialHandler} {event : LinkEvent}
    (hcarried : CarriedWhole h handler) (haccommodates : handler.Accommodates event) :
    CarriedWhole (h ++ [record SerialHandler.linkStep handler event])
      (handler.linkStep event).1 := by
  have hstate := hcarried.consistent.operational
  have hadmits := SerialHandler.linkAdmits_of_accommodates hstate haccommodates
  obtain ⟨hnext, hqueue⟩ := hcarried.consistent.linkStep hadmits
  have hline : lineBytes (h ++ [record SerialHandler.linkStep handler event]) ++
      (handler.linkStep event).1.writeBuffer.contents =
        (sentMessages h).flatMap slip.frame ++
          (cut? (record SerialHandler.linkStep handler event)).toList.flatMap fun cut ↦
            (slip.frame cut.1).take cut.2 := by
    rw [← hcarried.queue, List.append_assoc, ← hqueue]
    simp [lineBytes]
  cases event with
  | sendMessage message =>
      obtain ⟨hleast, hfits⟩ := haccommodates
      have hne : message ≠ [] := by
        rintro rfl
        exact absurd hleast (by decide)
      have hcapacity : handler.writeBuffer.reserve ≤ fortAgentBufferUnitSz := Nat.sub_le _ _
      have hstep := SerialHandler.linkStep_of_fits hstate hne hfits
      have hcut : cut? (record SerialHandler.linkStep handler (.sendMessage message)) =
          some (message, handler.writeBuffer.reserve) := by
        simp [cut?, hstep, hne]
      have hsent : sentMessages
          (h ++ [record SerialHandler.linkStep handler (.sendMessage message)]) =
            sentMessages h ++ [message] := List.filterMap_append
      refine ⟨hnext, ?_, ?_⟩
      · rw [hline, hcut, hsent, List.flatMap_append]
        simp [List.take_of_length_le hfits]
      · rw [hsent]
        refine List.forall_mem_append.mpr ⟨hcarried.length, fun m hm ↦ ?_⟩
        rw [List.mem_singleton.mp hm]
        have hlength := slip.length_frame message
        have hescape := slip.length_escape message
        omega
  | written bytesTransferred =>
      have hsent : sentMessages (h ++ [record SerialHandler.linkStep handler
          (.written bytesTransferred)]) = sentMessages h := by
        simp [sentMessages, sentMessage?]
      exact ⟨hnext, by rw [hline, hsent]; exact List.append_nil _, hsent ▸ hcarried.length⟩
  | failed =>
      have hsent : sentMessages (h ++ [record SerialHandler.linkStep handler .failed]) =
          sentMessages h := by
        simp [sentMessages, sentMessage?]
      exact ⟨hnext, by rw [hline, hsent]; exact List.append_nil _, hsent ▸ hcarried.length⟩

theorem carriedWhole_idle {handler : SerialHandler} (h : handler.Idle) :
    CarriedWhole [] handler where
  consistent := ⟨h.operational, .inl h.noWrite⟩
  queue := List.length_eq_zero_iff.mp (handler.writeBuffer.length_contents.trans h.empty)
  length := fun _ hm ↦ absurd hm List.not_mem_nil

/-- What the decoder has delivered is the first messages sent, and with an empty buffer
all of them. -/
theorem CarriedWhole.decoded
    (recvMessage : Vector UInt8 fortAgentBufferUnitSz → Nat → Vector UInt8 fortAgentBufferUnitSz)
    (buf : Vector UInt8 fortAgentBufferUnitSz) {h : List LinkStep} {handler : SerialHandler}
    (hcarried : CarriedWhole h handler) :
    decoded recvMessage buf (lineBytes h) <+: sentMessages h ∧
      (handler.writeBuffer.size = 0 →
        Serial.decoded recvMessage buf (lineBytes h) = sentMessages h) := by
  obtain ⟨-, hmessages, -⟩ :=
    slip.outputs_frames fortAgentBufferUnitSz 2 Nat.zero_lt_two hcarried.length
  have hall : Serial.decoded recvMessage buf (lineBytes h ++ handler.writeBuffer.contents) =
      sentMessages h := by
    rw [hcarried.queue, decoded_eq, hmessages]
  refine ⟨hall ▸ decoded_prefix .., fun hempty ↦ ?_⟩
  rw [← hall, List.length_eq_zero_iff.mp (handler.writeBuffer.length_contents.trans hempty),
    List.append_nil]

/-- **The link is a queue.**  In every run from an idle handler in which every message has
at least two bytes, and its frame has room when it is sent, the messages that a fresh
decoder has delivered of the bytes on the line are the first messages sent, in order, none
twice and none broken; and once the buffer is empty they are all of them. -/
theorem link_delivers
    (recvMessage : Vector UInt8 fortAgentBufferUnitSz → Nat → Vector UInt8 fortAgentBufferUnitSz)
    (buf : Vector UInt8 fortAgentBufferUnitSz) {handler : SerialHandler} (hidle : handler.Idle)
    (events : List LinkEvent)
    (hfits : ∀ r ∈ history SerialHandler.linkStep handler events,
      r.before.Accommodates r.input) :
    let h := history SerialHandler.linkStep handler events
    let after := final SerialHandler.linkStep handler events
    decoded recvMessage buf (lineBytes h) <+: sentMessages h ∧
      (after.writeBuffer.size = 0 →
        decoded recvMessage buf (lineBytes h) = sentMessages h) :=
  CarriedWhole.decoded recvMessage buf (history_invariant SerialHandler.linkStep
    (C := fun _ r ↦ r.before.Accommodates r.input) (carriedWhole_idle hidle)
    (fun _ _ _ ↦ carriedWhole_step) events (along_of_forall hfits))

/-- Three messages, across the end of the array and across a failed write. -/
theorem link_delivers_wrap :
    let events : List LinkEvent := [.sendMessage [1, slipSpecialByteEnd], .written 2,
      .sendMessage [3, 4], .failed, .sendMessage [5, 6], .written 5]
    let h := history SerialHandler.linkStep idleNearEnd events
    decoded (fun buf _ ↦ buf) (Vector.replicate fortAgentBufferUnitSz 0) (lineBytes h) <+:
      sentMessages h :=
  (link_delivers (fun buf _ ↦ buf) (Vector.replicate fortAgentBufferUnitSz 0)
    (show idleNearEnd.Idle from ⟨rfl, rfl, rfl, rfl⟩)
    [.sendMessage [1, slipSpecialByteEnd], .written 2, .sendMessage [3, 4], .failed,
      .sendMessage [5, 6], .written 5]
    (by decide +kernel)).1

/-! ## Progress -/

/-- The port has failed, and nothing has been put into the queue since. -/
def Stalled (h : List LinkStep) : Prop :=
  ∃ past r future, h = past ++ r :: future ∧ r.input = .failed ∧ ∀ q ∈ future, cut? q = none

namespace SerialHandler

/-- Unless the buffer is empty, the port has a region to write. -/
def Moving (handler : SerialHandler) : Prop := handler.writeBuffer.size ≠ 0 → handler.writes ≠ []

variable {handler : SerialHandler}

/-- Putting something into the queue gets it moving. -/
theorem moving_asyncSendData (h : handler.Consistent) (data : List UInt8) :
    (handler.asyncSendDataToSerialPort data).1.Moving := by
  intro _
  rw [asyncSendDataToSerialPort_eq h.operational]
  rcases h.writes with ⟨hprogress, -⟩ | ⟨hprogress, n, hwrites, -⟩
  · simp [hprogress, asyncWriteSome]
  · simp [hprogress, hwrites]

/-- A report takes at least one byte out of the queue, and keeps it moving. -/
theorem linkStep_written (h : handler.Consistent) {n : Nat}
    (hadmits : handler.LinkAdmits (.written n)) :
    (handler.linkStep (.written n)).1.Moving ∧
      (handler.linkStep (.written n)).1.writeBuffer.size + 1 ≤ handler.writeBuffer.size := by
  obtain ⟨region, hregion, hpos, hle⟩ := hadmits
  obtain ⟨writes, hwrites⟩ := List.head?_eq_some_iff.mp hregion
  have hmem : region ∈ handler.writes := by simp [hwrites]
  have hsize := (h.region_eq hmem).1
  have herase : (handler.writeBuffer.eraseBegin n).size = handler.writeBuffer.size - n := by
    have hcontents := handler.writeBuffer.contents_eraseBegin (Nat.le_trans hle hsize)
    have hlength := congrArg List.length hcontents
    rwa [List.length_drop, RingBuffer.length_contents, RingBuffer.length_contents] at hlength
  simp only [linkStep, portStep, hwrites, asyncWriteToSerialPortCb, Bool.false_eq_true, if_false]
  split_ifs with hempty
  · refine ⟨fun hne ↦ absurd hempty hne, ?_⟩
    change (handler.writeBuffer.eraseBegin n).size + 1 ≤ handler.writeBuffer.size
    omega
  · refine ⟨fun _ ↦ List.cons_ne_nil _ _, ?_⟩
    change (handler.writeBuffer.eraseBegin n).size + 1 ≤ handler.writeBuffer.size
    omega

/-- Reports alone: there are no more of them than there are bytes in the queue, and
after the last one nothing is with the port only if nothing is left. -/
theorem final_written (h : handler.Consistent) {ns : List Nat}
    (hadmits : ∀ r ∈ history linkStep handler (ns.map .written), r.before.LinkAdmits r.input) :
    ns.length + (final linkStep handler (ns.map .written)).writeBuffer.size ≤
        handler.writeBuffer.size ∧
      (ns ≠ [] → (final linkStep handler (ns.map .written)).Moving) := by
  induction ns generalizing handler with
  | nil => exact ⟨Nat.le_of_eq (Nat.zero_add _), fun hne ↦ absurd rfl hne⟩
  | cons n ns ih =>
      rw [List.map_cons, history_cons] at hadmits
      obtain ⟨hfirst, hrest⟩ := List.forall_mem_cons.mp hadmits
      obtain ⟨hmoving, hsize⟩ := linkStep_written h hfirst
      have hnext : (handler.linkStep (.written n)).1.Consistent := (h.linkStep hfirst).1
      obtain ⟨hcount, hlast⟩ := ih hnext hrest
      rw [List.map_cons, final_cons, List.length_cons]
      refine ⟨by omega, fun _ ↦ ?_⟩
      cases ns with
      | nil => exact hmoving
      | cons m ns => exact hlast (List.cons_ne_nil _ _)

end SerialHandler

theorem stalled_concat {h : List LinkStep} {r : LinkStep} (hstalled : Stalled h)
    (hcut : cut? r = none) : Stalled (h ++ [r]) := by
  obtain ⟨past, q, future, rfl, hfailed, hfuture⟩ := hstalled
  refine ⟨past, q, future ++ [r], by simp, hfailed, ?_⟩
  exact List.forall_mem_append.mpr ⟨hfuture, List.forall_mem_singleton.mpr hcut⟩

/-- The invariant of progress. -/
theorem moving_or_stalled_step {h : List LinkStep} {handler : SerialHandler} {event : LinkEvent}
    (hconsistent : handler.Consistent) (hmoving : handler.Moving ∨ Stalled h)
    (hadmits : handler.LinkAdmits event) :
    (handler.linkStep event).1.Moving ∨
      Stalled (h ++ [record SerialHandler.linkStep handler event]) := by
  cases event with
  | sendMessage message =>
      rcases SerialHandler.linkStep_sendMessage hadmits with
        hstep | ⟨rfl, hstep⟩ | ⟨hne, -, hstep⟩
      · rw [hstep]
        exact hmoving.imp_right fun hstalled ↦ stalled_concat hstalled (by simp [cut?, hstep])
      · rw [hstep]
        exact hmoving.imp_right fun hstalled ↦ stalled_concat hstalled (by simp [cut?])
      · rw [hstep]
        exact .inl (SerialHandler.moving_asyncSendData hconsistent _)
  | written n => exact .inl (SerialHandler.linkStep_written hconsistent hadmits).1
  | failed => exact .inr ⟨h, _, [], rfl, rfl, fun _ hq ↦ absurd hq List.not_mem_nil⟩

/-- **The link drains.**  In every run from an idle handler, while the buffer is not empty
the port has a region to write and can report on it, unless it has failed and nothing
has been taken since.  From there on each report takes a byte or more out of the
buffer, and when no region is left with the port the buffer is empty. -/
theorem link_drains {handler : SerialHandler} (hidle : handler.Idle) (events : List LinkEvent)
    (hadmits : ∀ r ∈ history SerialHandler.linkStep handler events,
      r.before.LinkAdmits r.input) :
    let h := history SerialHandler.linkStep handler events
    let after := final SerialHandler.linkStep handler events
    (after.writeBuffer.size ≠ 0 → after.LinkAdmits (.written 1) ∨ Stalled h) ∧
      ∀ ns, (∀ r ∈ history SerialHandler.linkStep after (ns.map .written),
          r.before.LinkAdmits r.input) →
        let drained := final SerialHandler.linkStep after (ns.map .written)
        ns.length + drained.writeBuffer.size ≤ after.writeBuffer.size ∧
          (ns ≠ [] → drained.writes = [] → drained.writeBuffer.size = 0) := by
  intro h after
  obtain ⟨hconsistent, hmoving⟩ := history_invariant SerialHandler.linkStep
    (C := fun _ r ↦ r.before.LinkAdmits r.input)
    (I := fun h t ↦ t.Consistent ∧ (t.Moving ∨ Stalled h))
    ⟨⟨hidle.operational, .inl hidle.noWrite⟩, .inl fun hne ↦ absurd hidle.empty hne⟩
    (fun h t event hI hadmits ↦
      ⟨(hI.1.linkStep hadmits).1, moving_or_stalled_step hI.1 hI.2 hadmits⟩)
    events (along_of_forall hadmits)
  refine ⟨fun hne ↦ hmoving.imp_left fun hmoving ↦ ?_, fun ns hns ↦ ?_⟩
  · rcases hconsistent.writes with ⟨-, hwrites⟩ | ⟨-, n, hwrites, hpos, -⟩
    · exact absurd hwrites (hmoving hne)
    · exact ⟨_, List.head?_eq_some_iff.mpr ⟨_, hwrites⟩, Nat.le_refl 1, hpos⟩
  · obtain ⟨hcount, hlast⟩ := SerialHandler.final_written hconsistent hns
    exact ⟨hcount, fun hne hwrites ↦ by_contra fun hsize ↦ hlast hne hsize hwrites⟩

/-- A frame of four bytes across the end of the array is gone after two reports. -/
theorem link_drains_wrap :
    let after := final SerialHandler.linkStep idleNearEnd [.sendMessage [1, 2]]
    let drained := final SerialHandler.linkStep after ([2, 2].map .written)
    [2, 2].length + drained.writeBuffer.size ≤ after.writeBuffer.size ∧
      ([2, 2] ≠ [] → drained.writes = [] → drained.writeBuffer.size = 0) :=
  (link_drains (show idleNearEnd.Idle from ⟨rfl, rfl, rfl, rfl⟩) [.sendMessage [1, 2]]
    (by decide +kernel)).2 [2, 2] (by decide +kernel)

end FortAgent.Serial
