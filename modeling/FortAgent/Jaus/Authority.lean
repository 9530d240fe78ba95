import FortAgent.Jaus.StateMachine
import Mathlib.Data.List.Forall2

/-!
# Order of authority

What holds over every run of a state machine constructed with
`InitializeState`, whatever the order of its calls and whatever the client
answers.  The invariant carrying all of it relates the history so far to the
current phase: a machine of rank `n` has entered exactly the first `n + 1`
phases of `authorityOrder`, and its history contains, in this order, one call
licensing the departure from each of the first `n`.
-/

namespace FortAgent.Jaus

open Joystick Transducer VehicleStateMachine

/-! ## The log of a run -/

/-- Everything a machine has done so far, its constructor included. -/
def log (h : List MachineStep) : List Effect := startEffects ++ h.flatMap Step.output

/-- The efforts sent to the client among some effects, in order. -/
def wrenchEfforts (effects : List Effect) : List FrcJoystickData :=
  (clientCalls effects).filterMap fun
    | .sendWrenchEffort data => some data
    | _ => none

/-- The efforts a call has to send: the input's own data, if the call is an
input and is handled in `ReadyState`. -/
def dueEfforts (s : VehicleState) (call : MachineCall) : List FrcJoystickData :=
  match s, call with
  | .readyState _, .handleInput msg => [msg.joystickData]
  | _, _ => []

/-- The call recorded in `r` licenses leaving the phase `p`. -/
def LicensesLeaving (r : MachineStep) (p : Phase) : Prop :=
  Licenses r.input (clientCalls r.output) p

/-- No client call is made after the emergency state has been entered. -/
def SilentAfterEmergency (effects : List Effect) : Prop :=
  ∀ es fs, effects = es ++ .entered .emergencyState :: fs → clientCalls fs = []

@[simp] theorem log_concat (h : List MachineStep) (r : MachineStep) :
    log (h ++ [r]) = log h ++ r.output := by simp [log]

theorem mem_enteredPhases {effects : List Effect} {p : Phase} :
    p ∈ enteredPhases effects ↔ .entered p ∈ effects := by
  simp only [enteredPhases, List.mem_filterMap]
  constructor
  · rintro ⟨e, he, hp⟩
    cases e <;> simp_all
  · exact fun h ↦ ⟨_, h, rfl⟩

theorem silentAfterEmergency_of_notMem {effects : List Effect}
    (h : .emergencyState ∉ enteredPhases effects) : SilentAfterEmergency effects := by
  rintro es fs rfl
  exact absurd (mem_enteredPhases.mpr (by simp)) h

/-- Effects without client calls may follow anything. -/
theorem SilentAfterEmergency.append {es fs : List Effect} (h : SilentAfterEmergency es)
    (hfs : clientCalls fs = []) : SilentAfterEmergency (es ++ fs) := by
  intro es' fs' e
  rcases List.append_eq_append_iff.mp e with ⟨gs, rfl, rfl⟩ | ⟨gs, rfl, hgs⟩
  · rw [clientCalls_append, List.append_eq_nil_iff] at hfs
    exact hfs.2
  · cases gs with
    | nil =>
        rw [List.nil_append] at hgs
        rw [← hgs] at hfs
        exact hfs
    | cons g gs =>
        obtain ⟨rfl, rfl⟩ := List.cons.inj hgs
        change clientCalls (gs ++ fs) = []
        rw [clientCalls_append, hfs, h es' gs rfl, List.append_nil]

/-! ## One call -/

/-- Efforts are only sent for inputs handled in `ReadyState`. -/
theorem wrenchEfforts_step_eq_nil {s : VehicleState} {t : Tick}
    (h : ¬(s.phase = .readyState ∧ ∃ msg, t.call = .handleInput msg)) :
    wrenchEfforts (step s t).2 = [] := by
  refine List.filterMap_eq_nil_iff.mpr fun c hc ↦ ?_
  cases c with
  | sendWrenchEffort data =>
      obtain ⟨hphase, msg, hcall, -⟩ := madeIn_of_mem_clientCalls s t _ hc
      exact absurd ⟨hphase, msg, hcall⟩ h
  | _ => rfl

/-- A call sends the efforts that are due, and no others. -/
theorem wrenchEfforts_step (s : VehicleState) (t : Tick) :
    wrenchEfforts (step s t).2 = dueEfforts s t.call := by
  obtain ⟨now, client, call⟩ := t
  cases s with
  | readyState st =>
      cases call with
      | handleInput msg =>
          rw [wrenchEfforts, clientCalls_step]
          rfl
      | _ => exact wrenchEfforts_step_eq_nil fun h ↦ nomatch h.2
  | _ => exact wrenchEfforts_step_eq_nil fun h ↦ nomatch h.1

/-- Efforts are only ever due in `ReadyState`. -/
theorem phase_of_dueEfforts {s : VehicleState} {call : MachineCall}
    (h : dueEfforts s call ≠ []) : s.phase = .readyState := by
  cases s with
  | readyState st => rfl
  | _ => exact absurd rfl h

/-- The emergency state ignores every call. -/
theorem step_emergencyState (t : Tick) : step .emergencyState t = (.emergencyState, []) := by
  obtain ⟨now, client, call⟩ := t
  cases call <;> rfl

/-- The phases before and up to a settled one. -/
theorem authorityOrder_take_succ {s : VehicleState} (hs : s.Settled) :
    authorityOrder.take (s.phase.rank + 1) =
      authorityOrder.take s.phase.rank ++ [s.phase] := by
  have hne := hs.1
  cases hp : s.phase with
  | shutdownState => exact absurd hp hne
  | _ => rfl

/-- Below the emergency state, the phases entered do not include it. -/
theorem emergencyState_notMem_take {p : Phase} (hp : p ≠ .emergencyState)
    (hp' : p ≠ .shutdownState) : .emergencyState ∉ authorityOrder.take (p.rank + 1) := by
  cases p with
  | emergencyState => exact absurd rfl hp
  | shutdownState => exact absurd rfl hp'
  | _ => decide

/-! ## The invariant -/

/-- What the history `h` of a machine now in state `s` has established. -/
structure AuthorityInvariant (h : List MachineStep) (s : VehicleState) : Prop where
  /-- No transition is pending. -/
  settled : s.Settled
  /-- The phases entered so far are the first ones of the order of authority. -/
  entered : enteredPhases (log h) = authorityOrder.take (s.phase.rank + 1)
  /-- Each departure was licensed by a call, and these calls came in order. -/
  licensed : ∃ rs, rs.Sublist h ∧
    List.Forall₂ LicensesLeaving rs (authorityOrder.take s.phase.rank)
  /-- The emergency state is final. -/
  silent : SilentAfterEmergency (log h)

theorem authorityInvariant_start : AuthorityInvariant [] start where
  settled := start_settled
  entered := rfl
  licensed := ⟨[], List.Sublist.refl [], .nil⟩
  silent := silentAfterEmergency_of_notMem (by decide)

/-- Once the emergency state is current, nothing more is logged; before that,
it has not been entered, and entering it makes no client call. -/
theorem AuthorityInvariant.silent_step {h : List MachineStep} {s : VehicleState}
    (hI : AuthorityInvariant h s) (t : Tick) :
    SilentAfterEmergency (log (h ++ [record step s t])) := by
  rw [log_concat, record_output]
  by_cases hs : s.phase = .emergencyState
  · obtain rfl : s = .emergencyState := by cases s <;> simp_all [VehicleState.phase]
    exact hI.silent.append (by rw [step_emergencyState]; rfl)
  · rw [step, ← List.append_assoc]
    refine SilentAfterEmergency.append (silentAfterEmergency_of_notMem ?_)
      (clientCalls_transitionIfNeeded t.now (dispatch s t).1)
    rw [enteredPhases_append, enteredPhases_dispatch, List.append_nil, hI.entered]
    exact emergencyState_notMem_take hs hI.settled.1

theorem authorityInvariant_step (h : List MachineStep) (s : VehicleState) (t : Tick)
    (hI : AuthorityInvariant h s) :
    AuthorityInvariant (h ++ [record step s t]) (step s t).1 := by
  obtain ⟨hsettled, hmove⟩ := step_phase hI.settled t
  obtain ⟨rs, hsub, hrs⟩ := hI.licensed
  refine ⟨hsettled, ?_, ?_, hI.silent_step t⟩
  · rw [log_concat, record_output, enteredPhases_append, hI.entered]
    rcases hmove with ⟨hphase, hnone⟩ | ⟨_, hrank, hone⟩
    · rw [hphase, hnone, List.append_nil]
    · rw [hone, authorityOrder_take_succ hsettled, hrank]
  · rcases hmove with ⟨hphase, _⟩ | ⟨hlic, hrank, _⟩
    · rw [hphase]
      exact ⟨rs, hsub.trans (List.sublist_append_left h _), hrs⟩
    · rw [hrank, authorityOrder_take_succ hI.settled]
      exact ⟨rs ++ [record step s t], hsub.append (List.Sublist.refl _),
        List.rel_append hrs (.cons hlic .nil)⟩

theorem authorityInvariant_run (ticks : List Tick) :
    AuthorityInvariant (run ticks) (final step start ticks) :=
  history_invariant' step authorityInvariant_start authorityInvariant_step ticks

/-! ## The law -/

/-- `past` contains, in this order, a call that discovered the vehicle, a
response at which the client confirmed control, and a later response at which it
confirmed READY. -/
def AuthorityEstablished (past : List MachineStep) : Prop :=
  ∃ discovery control ready : MachineStep, [discovery, control, ready].Sublist past ∧
    .discoverVehicle true ∈ clientCalls discovery.output ∧
    (control.input.call = .handleResponse ∧ .hasControl true ∈ clientCalls control.output) ∧
    (ready.input.call = .handleResponse ∧ .hasReadyState true ∈ clientCalls ready.output)

/-- A machine in `ReadyState` has established its authority. -/
theorem AuthorityInvariant.established {h : List MachineStep} {s : VehicleState}
    (hI : AuthorityInvariant h s) (hs : s.phase = .readyState) : AuthorityEstablished h := by
  obtain ⟨rs, hsub, hrs⟩ := hI.licensed
  rw [hs] at hrs
  have hrs : List.Forall₂ LicensesLeaving rs
      [.initializeState, .controlState, .standbyState] := hrs
  cases hrs with
  | cons hd hrs =>
      cases hrs with
      | cons hc hrs =>
          cases hrs with
          | cons hg hrs =>
              cases hrs
              exact ⟨_, _, _, hsub, hd.2, hc, hg⟩

/-- **Order of authority.**  Over any run: the states entered are a prefix of
`authorityOrder`, at most one of them by each call; an effort is sent exactly
for the inputs handled in `ReadyState`, once for each and with its own data; by
then authority has been established, in order; and nothing is asked of the
client once the emergency state has been entered. -/
theorem order_of_authority (ticks : List Tick) :
    enteredPhases (log (run ticks)) <+: authorityOrder ∧
    (∀ r ∈ run ticks, (enteredPhases r.output).length ≤ 1) ∧
    (∀ r ∈ run ticks, wrenchEfforts r.output = dueEfforts r.before r.input.call) ∧
    Along (fun past r ↦ wrenchEfforts r.output ≠ [] → AuthorityEstablished past) (run ticks) ∧
    SilentAfterEmergency (log (run ticks)) := by
  have hI := authorityInvariant_run ticks
  refine ⟨?_, ?_, ?_, ?_, hI.silent⟩
  · rw [hI.entered]
    exact List.take_prefix _ _
  · refine forall_mem_history (fun past t ↦ ?_) ticks
    have hmove := (step_phase (authorityInvariant_run past).settled t).2
    rcases hmove with ⟨_, hnone⟩ | ⟨_, _, hone⟩
    · simp [hnone]
    · simp [hone]
  · exact forall_mem_history (fun past t ↦ wrenchEfforts_step _ t) ticks
  · refine along_history (fun past t hsent ↦ ?_) ticks
    refine (authorityInvariant_run past).established ?_
    rw [record_output, wrenchEfforts_step] at hsent
    exact phase_of_dueEfforts hsent

end FortAgent.Jaus
