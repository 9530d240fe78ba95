import FortAgent.Jaus.Pause

/-!
# The queue of the bridge

`postInput` drops a report that equals the one before, and the last report is recorded
also when it is a pause.  So what is queued are the changes: the reports that differ
from the one just before and are no pauses (`changes`).  The last report before the
first is a sentinel with all buttons down, Pause among them, and no report that would
be queued equals it.

The service loop hands the messages on in the order in which they were queued
(`QueueInvariant.calls`).
-/

namespace FortAgent.Jaus

open Joystick Transducer

/-! ## What is queued and handed on -/

/-- The messages that an event puts on the queue. -/
def pushed (r : BridgeStep) : List BridgeMessage :=
  r.after.inputQueue.drop r.before.inputQueue.length

/-- The messages put on the queue in a run, oldest first. -/
def queuedIn (h : List BridgeStep) : List BridgeMessage := h.flatMap pushed

/-- The joystick inputs among some messages. -/
def joystickInputs (messages : List BridgeMessage) : List FrcCombinedData :=
  messages.filterMap fun
    | .joystickInput input => some input
    | .jausResponse => none

/-- The calls that the machine has got in a run, oldest first. -/
def callsHanded (status : ClientStatus) (h : List BridgeStep) : List MachineCall :=
  (h.filterMap (JausBridge.machineStep status)).map fun r ↦ r.input.call

/-- The reports that differ from the one just before, which is `last` for the first if
there is one, and are no pauses. -/
def changesAfter : Option FrcCombinedData → List FrcCombinedData → List FrcCombinedData
  | _, [] => []
  | last, r :: rs =>
    (if some r ≠ last ∧ r.isPause = false then [r] else []) ++ changesAfter (some r) rs

/-- The reports that differ from the one just before and are no pauses; the first counts
as different. -/
def changes (rs : List FrcCombinedData) : List FrcCombinedData := changesAfter none rs

@[simp] theorem queuedIn_concat (h : List BridgeStep) (r : BridgeStep) :
    queuedIn (h ++ [r]) = queuedIn h ++ pushed r := by simp [queuedIn]

@[simp] theorem joystickInputs_append (messages messages' : List BridgeMessage) :
    joystickInputs (messages ++ messages') =
      joystickInputs messages ++ joystickInputs messages' := List.filterMap_append

@[simp] theorem callsHanded_concat (status : ClientStatus) (h : List BridgeStep)
    (r : BridgeStep) :
    callsHanded status (h ++ [r]) = callsHanded status h ++ callsHanded status [r] := by
  simp [callsHanded]

/-! ## Changes -/

theorem forwarded_eq_changesAfter (last : FrcCombinedData) (rs : List FrcCombinedData) :
    forwarded last rs = changesAfter (some last) rs := by
  induction rs generalizing last with
  | nil => rfl
  | cons r rs ih =>
      rw [forwarded, changesAfter, ih]
      simp only [ne_eq, Option.some.injEq]

/-- A report with the buttons of the sentinel is a pause. -/
theorem isPause_of_sentinel {report : FrcCombinedData}
    (h : report.keypadData.buttonStatus = 0xFFFF) : report.isPause = true := by
  rw [FrcCombinedData.isPause, h]
  have hdown : isButtonPressed 0xFFFF .pause = true := by decide
  rw [hdown, Bool.or_true]

/-- After a sentinel the first report counts as different. -/
theorem forwarded_of_sentinel {last : FrcCombinedData}
    (h : last.keypadData.buttonStatus = 0xFFFF) (rs : List FrcCombinedData) :
    forwarded last rs = changes rs := by
  cases rs with
  | nil => rfl
  | cons r rs =>
      have hdiffers : r.isPause = false → r ≠ last := by
        rintro hpause rfl
        exact absurd (isPause_of_sentinel h) (Bool.eq_false_iff.mp hpause)
      rw [forwarded, forwarded_eq_changesAfter, changes, changesAfter]
      congr 1
      refine if_congr ?_ rfl rfl
      simp only [ne_eq, reduceCtorEq, not_false_eq_true, true_and, and_iff_right_iff_imp]
      exact hdiffers

theorem changesAfter_concat (last : Option FrcCombinedData) (rs : List FrcCombinedData)
    (r : FrcCombinedData) :
    changesAfter last (rs ++ [r]) = changesAfter last rs ++
      if some r ≠ rs.getLast?.or last ∧ r.isPause = false then [r] else [] := by
  induction rs generalizing last with
  | nil =>
      simp only [List.nil_append, changesAfter, List.append_nil]
      rfl
  | cons q rs ih =>
      rw [List.cons_append, changesAfter, changesAfter, ih, List.append_assoc, List.getLast?_cons]
      cases rs.getLast? <;> rfl

/-- **Freshness**: the last report, unless it is a pause, is the last change. -/
theorem getLast?_changes {rs : List FrcCombinedData} {report : FrcCombinedData}
    (hlast : rs.getLast? = some report) (hpause : report.isPause = false) :
    (changes rs).getLast? = some report := by
  induction rs using List.reverseRecOn with
  | nil => cases hlast
  | append_singleton rs r ih =>
      obtain rfl : r = report := by
        rw [List.getLast?_concat] at hlast
        exact Option.some.inj hlast
      rw [changes, changesAfter_concat, Option.or_none]
      by_cases hsame : some r = rs.getLast?
      · -- a repeat; the report before it is the last change
        rw [if_neg fun h ↦ h.1 hsame, List.append_nil]
        exact ih hsame.symm
      · rw [if_pos ⟨hsame, hpause⟩, List.getLast?_concat]

/-! ## One event -/

section Event

variable (status : ClientStatus) (b : JausBridge)

theorem pushed_postInput (input : FrcCombinedData) :
    pushed (record (JausBridge.step status) b (.postInput input)) =
      if input ≠ b.lastJs ∧ input.isPause = false then [.joystickInput input] else [] := by
  rw [pushed, record_after, record_before, JausBridge.step, JausBridge.inputQueue_postInput,
    List.drop_left]

theorem pushed_postJAUSResponse :
    pushed (record (JausBridge.step status) b .postJAUSResponse) = [.jausResponse] :=
  List.drop_left

theorem pushed_stopServiceLoop :
    pushed (record (JausBridge.step status) b .stopServiceLoop) = [] := List.drop_length

/-- The service loop queues nothing. -/
theorem pushed_serve (now : SteadyTime) (client : ClientAnswers) :
    pushed (record (JausBridge.step status) b (.serve now client)) = [] := by
  refine List.drop_eq_nil_of_le ?_
  rw [record_after, record_before, JausBridge.step]
  rcases b.serviceLoop_cases status now client with
    ⟨-, -, hserve⟩ | ⟨msg, rest, -, hqueue, -, hserve⟩
  · have hqueue : (b.serviceLoop status now client).1.inputQueue = b.inputQueue := by rw [hserve]
    exact Nat.le_of_eq (congrArg List.length hqueue)
  · rw [hserve, hqueue]
    exact Nat.le_succ _

theorem callsHanded_record (e : BridgeEvent) :
    callsHanded status [record (JausBridge.step status) b e] =
      ((b.tick status e).map Tick.call).toList := by
  cases h : b.tick status e <;> simp [callsHanded, JausBridge.machineStep, h]

/-- In any event the call made, if one is made, and the queue afterwards are the queue
before and what has been put on it. -/
theorem calls_step (e : BridgeEvent) :
    callsHanded status [record (JausBridge.step status) b e] ++
        (b.step status e).1.inputQueue.map BridgeMessage.call =
      (b.inputQueue ++ pushed (record (JausBridge.step status) b e)).map BridgeMessage.call := by
  rw [callsHanded_record]
  cases e with
  | postInput input =>
      rw [pushed_postInput, ← JausBridge.inputQueue_postInput]
      rfl
  | postJAUSResponse =>
      rw [pushed_postJAUSResponse]
      rfl
  | stopServiceLoop =>
      rw [pushed_stopServiceLoop, List.append_nil]
      rfl
  | serve now client =>
      rw [pushed_serve, List.append_nil, JausBridge.step]
      rcases b.serviceLoop_cases status now client with
        ⟨-, htick, hserve⟩ | ⟨msg, rest, -, hqueue, htick, hserve⟩
      · rw [htick, hserve]
        rfl
      · rw [htick, hserve, hqueue]
        rfl

theorem lastJs_step (e : BridgeEvent) :
    (b.step status e).1.lastJs =
      (reports [record (JausBridge.step status) b e]).getLast?.getD b.lastJs := by
  cases e with
  | postInput input => exact JausBridge.lastJs_postInput b input
  | postJAUSResponse => rfl
  | stopServiceLoop => rfl
  | serve now client =>
      rw [JausBridge.step]
      rcases b.serviceLoop_cases status now client with
        ⟨-, -, hserve⟩ | ⟨msg, rest, -, -, -, hserve⟩
      · rw [hserve]
        rfl
      · rw [hserve]
        rfl

/-- The inputs that an event puts on the queue are those of the reports in it that are
forwarded. -/
theorem joystickInputs_pushed (e : BridgeEvent) :
    joystickInputs (pushed (record (JausBridge.step status) b e)) =
      forwarded b.lastJs (reports [record (JausBridge.step status) b e]) := by
  cases e with
  | postInput input =>
      have hreports : reports [record (JausBridge.step status) b (.postInput input)] = [input] :=
        rfl
      rw [pushed_postInput, hreports, forwarded, forwarded, List.append_nil]
      split <;> rfl
  | postJAUSResponse =>
      rw [pushed_postJAUSResponse]
      rfl
  | stopServiceLoop =>
      rw [pushed_stopServiceLoop]
      rfl
  | serve now client =>
      rw [pushed_serve]
      rfl

end Event

/-! ## Runs -/

/-- What holds after the history `h` of a bridge that was `b` at its outset. -/
structure QueueInvariant (status : ClientStatus) (b : JausBridge) (h : List BridgeStep)
    (c : JausBridge) : Prop where
  lastJs : c.lastJs = (reports h).getLast?.getD b.lastJs
  inputs : joystickInputs (queuedIn h) = forwarded b.lastJs (reports h)
  /-- The calls that have been made and those that are still due. -/
  calls : callsHanded status h ++ c.inputQueue.map BridgeMessage.call =
    (b.inputQueue ++ queuedIn h).map BridgeMessage.call

/-- Every event keeps the invariant. -/
theorem QueueInvariant.step {status : ClientStatus} {b c : JausBridge} {h : List BridgeStep}
    (hI : QueueInvariant status b h c) (e : BridgeEvent) :
    QueueInvariant status b (h ++ [record (JausBridge.step status) c e]) (c.step status e).1 where
  lastJs := by
    rw [lastJs_step, reports_concat, List.getLast?_append, hI.lastJs]
    cases (reports [record (JausBridge.step status) c e]).getLast? <;> rfl
  inputs := by
    rw [queuedIn_concat, joystickInputs_append, joystickInputs_pushed, hI.inputs, reports_concat,
      forwarded_append, hI.lastJs]
  calls := by
    rw [callsHanded_concat, List.append_assoc, calls_step, queuedIn_concat, List.map_append,
      ← List.append_assoc, hI.calls, ← List.map_append, List.append_assoc]

theorem queueInvariant_run (status : ClientStatus) (b : JausBridge) (es : List BridgeEvent) :
    QueueInvariant status b (history (JausBridge.step status) b es)
      (final (JausBridge.step status) b es) := by
  have hstart : QueueInvariant status b [] b :=
    ⟨rfl, rfl, by simp [callsHanded, queuedIn]⟩
  exact history_invariant' _ hstart (fun _ _ e hI ↦ hI.step e) es

/-- The reports that are queued after the loop has been started. -/
theorem joystickInputs_run (status : ClientStatus) (lastJs : FrcCombinedData)
    (queue : List BridgeMessage) (es : List BridgeEvent) :
    joystickInputs (queuedIn (JausBridge.run status lastJs queue es)) =
      changes (reports (JausBridge.run status lastJs queue es)) := by
  rw [(queueInvariant_run status _ es).inputs]
  exact forwarded_of_sentinel rfl _

/-- A call is made exactly in an iteration of a loop that runs and has a message. -/
theorem machineStep_isSome_iff {status : ClientStatus} {b : JausBridge} {e : BridgeEvent} :
    (JausBridge.machineStep status (record (JausBridge.step status) b e)).isSome = true ↔
      (∃ now client, e = .serve now client) ∧ b.running = true ∧ b.inputQueue ≠ [] := by
  rw [JausBridge.machineStep, Option.isSome_map, record_before, record_input]
  cases e with
  | serve now client =>
      rcases b.serviceLoop_cases status now client with
        ⟨hidle, htick, -⟩ | ⟨msg, rest, hrunning, hqueue, htick, -⟩
      · refine iff_of_false (by simp [htick]) ?_
        rintro ⟨-, hrunning, hne⟩
        rcases hidle with hstopped | hempty
        · exact Bool.false_ne_true (hstopped.symm.trans hrunning)
        · exact hne hempty
      · refine iff_of_true (by simp [htick]) ⟨⟨now, client, rfl⟩, hrunning, ?_⟩
        rw [hqueue]
        exact List.cons_ne_nil msg rest
  | postInput input => simp [JausBridge.tick]
  | postJAUSResponse => simp [JausBridge.tick]
  | stopServiceLoop => simp [JausBridge.tick]

/-- **De-duplication.**  In any run after the loop has been started:

* the inputs that are queued are the changes among the reports, in order;
* the last report, unless it is a pause, is the last input that has been queued;
* the messages are handed to the machine in the order in which they were queued, each
  once, those that were queued before the start first;
* one is handed on in every iteration of the loop that finds one, until the loop is
  stopped;
* the machine does handle them: its state is the one that these calls lead to from the
  start, and the effects of the run are theirs. -/
theorem deduplication (status : ClientStatus) (lastJs : FrcCombinedData)
    (queue : List BridgeMessage) (es : List BridgeEvent) :
    let h := JausBridge.run status lastJs queue es
    let b := JausBridge.reached status lastJs queue es
    joystickInputs (queuedIn h) = changes (reports h) ∧
      (∀ report, (reports h).getLast? = some report → report.isPause = false →
        (joystickInputs (queuedIn h)).getLast? = some report) ∧
      callsHanded status h ++ b.inputQueue.map BridgeMessage.call =
        (queue ++ queuedIn h).map BridgeMessage.call ∧
      (∀ r ∈ h, (JausBridge.machineStep status r).isSome = true ↔
        (∃ now client, r.input = .serve now client) ∧ r.before.running = true ∧
          r.before.inputQueue ≠ []) ∧
      ∃ ticks, ticks.map Tick.call = callsHanded status h ∧
        b.stateMachine = final VehicleStateMachine.step VehicleStateMachine.start ticks ∧
        (h.flatMap fun r ↦ r.output.effects) =
          (outputs VehicleStateMachine.step VehicleStateMachine.start ticks).flatten := by
  intro h b
  refine ⟨joystickInputs_run status lastJs queue es, fun report hlast hpause ↦ ?_,
    (queueInvariant_run status _ es).calls, ?_, ?_⟩
  · rw [joystickInputs_run]
    exact getLast?_changes hlast hpause
  · exact forall_mem_history (fun _ _ ↦ machineStep_isSome_iff) es
  · obtain ⟨ticks, hhistory, hfinal, heffects⟩ :=
      JausBridge.machine_run status (JausBridge.startServiceLoop lastJs queue) es
    refine ⟨ticks, ?_, hfinal, heffects⟩
    have hinputs := history_inputs VehicleStateMachine.step VehicleStateMachine.start ticks
    calc ticks.map Tick.call
        = (history VehicleStateMachine.step VehicleStateMachine.start ticks).map
            fun r ↦ r.input.call := by rw [← hinputs, List.map_map, hinputs]; rfl
      _ = callsHanded status h := by rw [callsHanded, hhistory]; rfl

end FortAgent.Jaus
