import FortAgent.Jaus.Bridge

/-!
# Pauses

A pause report is recorded as the last report but not queued, so nothing of it
reaches the machine: the effort sent before the pause stays the last one.

No effort is sent before the machine enters `ReadyState` (`effortsSent_eq_nil`), and
while it stays there the bridge conserves efforts.  The efforts sent, followed by
those still queued, are the efforts queued at the entry, followed by those of the
reports `forwarded` since (`PauseInvariant`).  When the queue has been drained the
last effort ever sent is therefore the last one forwarded, and `pauseStops_iff` reads
off when that one is zero.
-/

namespace FortAgent.Jaus

open Joystick Transducer

/-! ## Reports and efforts -/

/-- The reports posted in a run, oldest first. -/
def reports (h : List BridgeStep) : List FrcCombinedData :=
  h.filterMap fun r ↦
    match r.input with
    | .postInput input => some input
    | _ => none

/-- The efforts sent in a run, oldest first. -/
def effortsSent (h : List BridgeStep) : List FrcJoystickData :=
  h.flatMap fun r ↦ wrenchEfforts r.output.effects

/-- The efforts of the joystick inputs in a queue. -/
def queuedEfforts (queue : List BridgeMessage) : List FrcJoystickData :=
  queue.filterMap fun
    | .joystickInput input => some input.joystickData
    | .jausResponse => none

/-- The reports that are forwarded to the machine when they follow the report
`last`: those that differ from the one just before and are no pauses. -/
def forwarded : FrcCombinedData → List FrcCombinedData → List FrcCombinedData
  | _, [] => []
  | last, r :: rs =>
    (if r ≠ last ∧ r.isPause = false then [r] else []) ++ forwarded r rs

/-- The last of some efforts, if there is one, is no effort on any axis. -/
def EndsAtRest (efforts : List FrcJoystickData) : Prop :=
  efforts.getLast?.all FrcJoystickData.isZeroEffort = true

instance (efforts : List FrcJoystickData) : Decidable (EndsAtRest efforts) :=
  inferInstanceAs (Decidable (_ = true))

/-- The last report of a run is a pause. -/
def EndsInPause (h : List BridgeStep) : Prop :=
  (reports h).getLast?.any FrcCombinedData.isPause = true

instance (h : List BridgeStep) : Decidable (EndsInPause h) :=
  inferInstanceAs (Decidable (_ = true))

/-- The service loop is not stopped by this event. -/
def KeepsRunning (r : BridgeStep) : Prop := r.input ≠ .stopServiceLoop

@[simp] theorem reports_concat (h : List BridgeStep) (r : BridgeStep) :
    reports (h ++ [r]) = reports h ++ reports [r] := List.filterMap_append

@[simp] theorem effortsSent_concat (h : List BridgeStep) (r : BridgeStep) :
    effortsSent (h ++ [r]) = effortsSent h ++ wrenchEfforts r.output.effects := by
  simp [effortsSent]

@[simp] theorem queuedEfforts_append (queue queue' : List BridgeMessage) :
    queuedEfforts (queue ++ queue') = queuedEfforts queue ++ queuedEfforts queue' :=
  List.filterMap_append

theorem forwarded_append (last : FrcCombinedData) (rs rs' : List FrcCombinedData) :
    forwarded last (rs ++ rs') =
      forwarded last rs ++ forwarded (rs.getLast?.getD last) rs' := by
  induction rs generalizing last with
  | nil => rfl
  | cons q rs ih =>
      rw [List.cons_append, forwarded, forwarded, ih, List.getLast?_cons, Option.getD_some,
        List.append_assoc]

theorem forwarded_concat (last : FrcCombinedData) (rs : List FrcCombinedData)
    (r : FrcCombinedData) :
    forwarded last (rs ++ [r]) = forwarded last rs ++
      if r ≠ rs.getLast?.getD last ∧ r.isPause = false then [r] else [] := by
  rw [forwarded_append, forwarded, forwarded, List.append_nil]

/-! ## One event -/

/-- In `ReadyState` a machine stays there, for every call but `update`. -/
theorem VehicleStateMachine.phase_step_of_ready {s : VehicleState} (hs : s.Settled)
    (hready : s.phase = .readyState) {t : Tick} (ht : t.call ≠ .update) :
    (step s t).1.phase = .readyState := by
  rcases (step_phase hs t).2 with ⟨hsame, -⟩ | ⟨hlic, -, -⟩
  · rw [hsame, hready]
  · rw [hready] at hlic
    exact absurd hlic.1 ht

/-- In `ReadyState` a message that is handled has its effort sent. -/
theorem wrenchEfforts_handled {s : VehicleState} (hready : s.phase = .readyState)
    (msg : BridgeMessage) : dueEfforts s msg.call = queuedEfforts [msg] := by
  cases s with
  | readyState st => cases msg <;> rfl
  | _ => cases hready

/-! ## The invariant -/

/-- What holds after the history `h` of a bridge that was `b` when its machine entered
`ReadyState`. -/
structure PauseInvariant (b : JausBridge) (h : List BridgeStep) (c : JausBridge) : Prop where
  running : c.running = true
  settled : c.stateMachine.Settled
  ready : c.stateMachine.phase = .readyState
  lastJs : c.lastJs = (reports h).getLast?.getD b.lastJs
  /-- Efforts are conserved. -/
  efforts : effortsSent h ++ queuedEfforts c.inputQueue = queuedEfforts b.inputQueue ++
    (forwarded b.lastJs (reports h)).map FrcCombinedData.joystickData

namespace PauseInvariant

variable {status : ClientStatus} {b c : JausBridge} {h : List BridgeStep}

theorem postInput (hI : PauseInvariant b h c) (input : FrcCombinedData) :
    PauseInvariant b (h ++ [record (JausBridge.step status) c (.postInput input)])
      (c.postInput input).1 where
  running := by rw [JausBridge.running_postInput, hI.running]
  settled := by rw [JausBridge.stateMachine_postInput]; exact hI.settled
  ready := by rw [JausBridge.stateMachine_postInput]; exact hI.ready
  lastJs := by simp [reports]
  efforts := by
    have hposted : reports [record (JausBridge.step status) c (.postInput input)] = [input] := rfl
    have hquiet : wrenchEfforts
        (record (JausBridge.step status) c (.postInput input)).output.effects = [] := by
      rw [record_output, JausBridge.step, JausBridge.effects_postInput]
      rfl
    rw [reports_concat, effortsSent_concat, hposted, hquiet, forwarded_concat, ← hI.lastJs,
      JausBridge.inputQueue_postInput, queuedEfforts_append, List.append_nil,
      ← List.append_assoc, hI.efforts, List.map_append, List.append_assoc]
    split_ifs <;> rfl

theorem postJAUSResponse (hI : PauseInvariant b h c) :
    PauseInvariant b (h ++ [record (JausBridge.step status) c .postJAUSResponse])
      c.postJAUSResponse.1 where
  running := hI.running
  settled := hI.settled
  ready := hI.ready
  lastJs := by
    have hnone : reports [record (JausBridge.step status) c .postJAUSResponse] = [] := rfl
    rw [reports_concat, hnone, List.append_nil]
    exact hI.lastJs
  efforts := by
    have hnone : reports [record (JausBridge.step status) c .postJAUSResponse] = [] := rfl
    have hquiet : wrenchEfforts
        (record (JausBridge.step status) c .postJAUSResponse).output.effects = [] := rfl
    have hqueue : queuedEfforts c.postJAUSResponse.1.inputQueue = queuedEfforts c.inputQueue := by
      rw [JausBridge.postJAUSResponse, queuedEfforts_append]
      exact List.append_nil _
    rw [reports_concat, effortsSent_concat, hnone, hquiet, List.append_nil, List.append_nil,
      hqueue, hI.efforts]

theorem serve (hI : PauseInvariant b h c) (now : SteadyTime) (client : ClientAnswers) :
    PauseInvariant b (h ++ [record (JausBridge.step status) c (.serve now client)])
      (c.serviceLoop status now client).1 := by
  have hnone : reports [record (JausBridge.step status) c (.serve now client)] = [] := rfl
  rcases c.serviceLoop_cases status now client with
    ⟨-, -, hstep⟩ | ⟨msg, rest, hrunning, hqueue, -, hstep⟩
  · rw [hstep]
    refine ⟨hI.running, hI.settled, hI.ready, ?_, ?_⟩
    · rw [reports_concat, hnone, List.append_nil, hI.lastJs]
    · rw [reports_concat, hnone, List.append_nil, effortsSent_concat, record_output,
        JausBridge.step, hstep, ← hI.efforts]
      simp [wrenchEfforts, clientCalls]
  · let t : Tick := ⟨now, status.answers now client, msg.call⟩
    have hcall : t.call ≠ .update := msg.call_ne_update
    rw [hstep]
    refine ⟨hrunning, (VehicleStateMachine.step_phase hI.settled t).1,
      VehicleStateMachine.phase_step_of_ready hI.settled hI.ready hcall, ?_, ?_⟩
    · rw [reports_concat, hnone, List.append_nil, hI.lastJs]
    · have hsent : wrenchEfforts (VehicleStateMachine.step c.stateMachine t).2 =
          queuedEfforts [msg] := by
        rw [wrenchEfforts_step, wrenchEfforts_handled hI.ready msg]
      have hpopped : queuedEfforts [msg] ++ queuedEfforts rest =
          queuedEfforts c.inputQueue := by
        rw [hqueue, ← queuedEfforts_append, List.singleton_append]
      rw [reports_concat, hnone, List.append_nil, effortsSent_concat, record_output,
        JausBridge.step, hstep, hsent, List.append_assoc, hpopped, hI.efforts]

/-- Every event keeps the invariant, except stopping the loop. -/
theorem step (hI : PauseInvariant b h c) (e : BridgeEvent)
    (he : KeepsRunning (record (JausBridge.step status) c e)) :
    PauseInvariant b (h ++ [record (JausBridge.step status) c e]) (c.step status e).1 := by
  cases e with
  | postInput input => exact hI.postInput input
  | postJAUSResponse => exact hI.postJAUSResponse
  | serve now client => exact hI.serve now client
  | stopServiceLoop => exact absurd rfl he

end PauseInvariant

/-! ## Before `ReadyState` -/

/-- An event takes the machine to no phase before the one it is in, and has efforts sent
only in `ReadyState`. -/
theorem JausBridge.step_settled (status : ClientStatus) {b : JausBridge}
    (hs : b.stateMachine.Settled) (e : BridgeEvent) :
    (b.step status e).1.stateMachine.Settled ∧
      b.stateMachine.phase.rank ≤ (b.step status e).1.stateMachine.phase.rank ∧
      (wrenchEfforts (b.step status e).2.effects ≠ [] → b.stateMachine.phase = .readyState) := by
  cases htick : b.tick status e with
  | none =>
      obtain ⟨hmachine, heffects⟩ := step_of_tick_none htick
      rw [hmachine, heffects]
      exact ⟨hs, Nat.le_refl _, fun hne ↦ absurd rfl hne⟩
  | some t =>
      obtain ⟨hstep, heffects⟩ := step_of_tick_some htick
      rw [hstep, heffects, Jaus.wrenchEfforts_step]
      obtain ⟨hsettled, hmove⟩ := VehicleStateMachine.step_phase hs t
      refine ⟨hsettled, ?_, phase_of_dueEfforts⟩
      rcases hmove with ⟨hsame, -⟩ | ⟨-, hrank, -⟩
      · exact Nat.le_of_eq (congrArg Phase.rank hsame.symm)
      · exact Nat.le_of_lt (Nat.lt_of_lt_of_eq (Nat.lt_succ_self _) hrank.symm)

/-- A machine that is not yet in `ReadyState` has had no efforts sent. -/
theorem effortsSent_eq_nil {status : ClientStatus} {lastJs : FrcCombinedData}
    {queued : List BridgeMessage} {es : List BridgeEvent}
    (hphase : (JausBridge.reached status lastJs queued es).stateMachine.phase.rank <
      Phase.readyState.rank) :
    effortsSent (JausBridge.run status lastJs queued es) = [] := by
  have hstart : (JausBridge.startServiceLoop lastJs queued).stateMachine.Settled ∧
      ((JausBridge.startServiceLoop lastJs queued).stateMachine.phase.rank <
        Phase.readyState.rank → effortsSent [] = []) :=
    ⟨VehicleStateMachine.start_settled, fun _ ↦ rfl⟩
  refine (history_invariant' (JausBridge.step status)
    (I := fun h c ↦ c.stateMachine.Settled ∧
      (c.stateMachine.phase.rank < Phase.readyState.rank → effortsSent h = []))
    hstart ?_ es).2 hphase
  rintro h c e ⟨hs, hquiet⟩
  obtain ⟨hsettled, hrank, heffort⟩ := JausBridge.step_settled status hs e
  refine ⟨hsettled, fun hlt ↦ ?_⟩
  have hbefore := Nat.lt_of_le_of_lt hrank hlt
  have hnone : wrenchEfforts (c.step status e).2.effects = [] := by
    by_contra hne
    rw [heffort hne] at hbefore
    exact Nat.lt_irrefl _ hbefore
  rw [effortsSent_concat, hquiet hbefore, record_output, hnone, List.append_nil]

/-- The history `past` has led from the start of the service loop to the bridge `b`, and in
its last event the machine has entered `ReadyState`. -/
structure EntersReady (status : ClientStatus) (past : List BridgeStep) (b : JausBridge) :
    Prop where
  reached : ∃ lastJs queued es entry,
    (JausBridge.reached status lastJs queued es).stateMachine.phase ≠ .readyState ∧
      past = JausBridge.run status lastJs queued (es ++ [entry]) ∧
      b = JausBridge.reached status lastJs queued (es ++ [entry])
  ready : b.stateMachine.phase = .readyState

/-- The loop runs at the entry of `ReadyState`, and no effort has been sent before. -/
theorem EntersReady.quiet {status : ClientStatus} {past : List BridgeStep} {b : JausBridge}
    (hb : EntersReady status past b) :
    b.running = true ∧ b.stateMachine.Settled ∧ effortsSent past = [] := by
  obtain ⟨⟨lastJs, queued, es, entry, hnot, rfl, hreached⟩, hready⟩ := hb
  have hsettled := JausBridge.settled_reached status lastJs queued es
  have hstep : b = ((JausBridge.reached status lastJs queued es).step status entry).1 := by
    rw [hreached, JausBridge.reached, final_append, final_cons, final_nil]
  have hpast : JausBridge.run status lastJs queued (es ++ [entry]) =
      JausBridge.run status lastJs queued es ++ [record (JausBridge.step status)
        (JausBridge.reached status lastJs queued es) entry] := by
    rw [JausBridge.run, history_append, history_cons, history_nil]
  have hquiet : (JausBridge.reached status lastJs queued es).stateMachine.phase.rank <
      Phase.readyState.rank → effortsSent (JausBridge.run status lastJs queued es) = [] :=
    effortsSent_eq_nil
  generalize JausBridge.reached status lastJs queued es = c at hnot hsettled hstep hpast hquiet
  cases htick : c.tick status entry with
  | none =>
      rw [hstep, (JausBridge.step_of_tick_none htick).1] at hready
      exact absurd hready hnot
  | some t =>
      have hrunning := JausBridge.running_of_tick_some htick
      obtain ⟨hmoved, heffects⟩ := JausBridge.step_of_tick_some htick
      rw [hmoved] at hstep
      obtain ⟨hstill, ⟨hsame, -⟩ | ⟨-, hrank, -⟩⟩ := VehicleStateMachine.step_phase hsettled t
      · rw [hstep] at hready
        exact absurd (hsame.symm.trans hready) hnot
      · have hentered : (VehicleStateMachine.step c.stateMachine t).1.phase = .readyState := by
          rw [hstep] at hready
          exact hready
        rw [hentered] at hrank
        have hnone : wrenchEfforts (VehicleStateMachine.step c.stateMachine t).2 = [] := by
          rw [wrenchEfforts_step]
          by_contra hne
          exact hnot (phase_of_dueEfforts hne)
        refine ⟨by rw [hstep]; exact hrunning, by rw [hstep]; exact hstill, ?_⟩
        rw [hpast, effortsSent_concat, hquiet (by omega), record_output, heffects, hnone,
          List.append_nil]

/-! ## The law -/

/-- If the last report since the entry of `ReadyState` is a pause, the last effort that has
ever been sent is at rest. -/
def PauseStops (past since : List BridgeStep) : Prop :=
  EndsInPause since → EndsAtRest (effortsSent (past ++ since))

/-- The invariant holds after every run from the entry of `ReadyState`. -/
theorem pauseInvariant_run {status : ClientStatus} {past : List BridgeStep} {b : JausBridge}
    (hb : EntersReady status past b) {es : List BridgeEvent} (hrunning : .stopServiceLoop ∉ es) :
    PauseInvariant b (history (JausBridge.step status) b es)
      (final (JausBridge.step status) b es) := by
  obtain ⟨hrun, hsettled, -⟩ := hb.quiet
  have hstart : PauseInvariant b [] b :=
    ⟨hrun, hsettled, hb.ready, rfl, by simp [effortsSent, reports, forwarded]⟩
  refine history_invariant _ hstart (fun h c e hI he ↦ hI.step e he) es
    (along_of_forall (D := KeepsRunning) fun r hr hstop ↦ hrunning ?_)
  have hinput : r.input ∈ (history (JausBridge.step status) b es).map Step.input :=
    List.mem_map_of_mem hr
  rwa [history_inputs, hstop] at hinput

/-- **Pauses.**  Let a bridge whose machine has entered `ReadyState` receive any reports and
responses, and let its loop drain the queue.  A pause at the end leaves the vehicle at rest
if and only if the last report forwarded since the entry asks for no effort, where the
inputs that were queued at the entry count as forwarded first. -/
theorem pauseStops_iff {status : ClientStatus} {past : List BridgeStep} {b : JausBridge}
    (hb : EntersReady status past b) {es : List BridgeEvent} (hrunning : .stopServiceLoop ∉ es)
    (hdrained : (final (JausBridge.step status) b es).inputQueue = []) :
    PauseStops past (history (JausBridge.step status) b es) ↔
      (EndsInPause (history (JausBridge.step status) b es) →
        EndsAtRest (queuedEfforts b.inputQueue ++
          (forwarded b.lastJs (reports (history (JausBridge.step status) b es))).map
            FrcCombinedData.joystickData)) := by
  obtain ⟨-, -, hquiet⟩ := hb.quiet
  have hefforts := (pauseInvariant_run hb hrunning).efforts
  have hempty : queuedEfforts (final (JausBridge.step status) b es).inputQueue = [] := by
    rw [hdrained]
    rfl
  have hsent : effortsSent (past ++ history (JausBridge.step status) b es) =
      effortsSent (history (JausBridge.step status) b es) := by
    rw [effortsSent, List.flatMap_append, ← effortsSent, ← effortsSent, hquiet, List.nil_append]
  rw [hempty, List.append_nil] at hefforts
  rw [PauseStops, hsent, hefforts]

/-- The stick is deflected, then centred, then the operator pauses. -/
def centreThenPause : List BridgeEvent :=
  [.postInput .deflected, .serve 0 .favourable, .postInput (.withButtons 0),
    .serve 0 .favourable, .postInput (.withButtons KeypadButton.pause.mask)]

/-- The stick is deflected, and the operator pauses. -/
def deflectThenPause : List BridgeEvent :=
  [.postInput .deflected, .serve 0 .favourable,
    .postInput (.withButtons KeypadButton.pause.mask)]

/-- The machine enters `ReadyState` in the last of the `readyEvents`. -/
theorem entersReady_readyEvents :
    EntersReady .steady (JausBridge.run .steady .zero [] readyEvents)
      (JausBridge.reached .steady .zero [] readyEvents) :=
  ⟨⟨.zero, [], readyEvents.dropLast, .serve 0 .favourable, by decide +kernel, rfl, rfl⟩,
    by decide +kernel⟩

/-- Centring the stick before a pause stops the vehicle. -/
theorem pauseStops_iff_centred :
    PauseStops (JausBridge.run .steady .zero [] readyEvents)
      (history (JausBridge.step .steady) (JausBridge.reached .steady .zero [] readyEvents)
        centreThenPause) :=
  (pauseStops_iff entersReady_readyEvents (by decide) (by decide +kernel)).mpr
    fun _ ↦ by decide +kernel

/-- A pause with the stick deflected leaves the deflection as the last effort,
though every report is CRC-valid and every message has been handled. -/
theorem pause_leaves_effort :
    ¬∀ status past b es, EntersReady status past b → .stopServiceLoop ∉ es →
      (final (JausBridge.step status) b es).inputQueue = [] →
      (∀ report ∈ reports (history (JausBridge.step status) b es), report.crcValid = true) →
      PauseStops past (history (JausBridge.step status) b es) := by
  intro h
  have hreports : reports (history (JausBridge.step .steady)
      (JausBridge.reached .steady .zero [] readyEvents) deflectThenPause) =
        [.deflected, .withButtons KeypadButton.pause.mask] := rfl
  have hvalid : ∀ report ∈ reports (history (JausBridge.step .steady)
      (JausBridge.reached .steady .zero [] readyEvents) deflectThenPause),
        report.crcValid = true := by
    intro report hreport
    rw [hreports] at hreport
    rcases List.mem_pair.mp hreport with rfl | rfl
    · exact FrcCombinedData.crcValid_withCrc ..
    · exact FrcCombinedData.crcValid_withCrc ..
  have hstops := h .steady (JausBridge.run .steady .zero [] readyEvents)
    (JausBridge.reached .steady .zero [] readyEvents) deflectThenPause
    entersReady_readyEvents (by decide) (by decide +kernel) hvalid
  exact absurd (hstops (by decide +kernel)) (by decide +kernel)

end FortAgent.Jaus
