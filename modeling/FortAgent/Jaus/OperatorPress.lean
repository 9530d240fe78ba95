import FortAgent.Jaus.StateMachine
import Mathlib.Algebra.BigOperators.Group.List.Basic
import Mathlib.Algebra.Ring.Nat
import Mathlib.Tactic.ByContra

/-!
# One press, one step

The operator advances the machine with R-Down: discovering the vehicle,
requesting control and requesting a resume are each triggered by a press.  Every
state detects presses with a flag `rDownPressed` of its own, which is down when
the state is constructed.  So the edge detector is restarted by each transition,
and a button held across a transition is seen as pressed a second time.

`one_press_one_step` says when that does not happen: whenever an input with
R-Down set follows an input with R-Down set, the state that handles it has its
flag up.  Then each action sits on a rising edge of the button, and both forms
of the law follow: the count of actions against edges, and the release of the
button between any two actions.
-/

namespace FortAgent.Jaus

open Joystick Transducer VehicleStateMachine

/-! ## The button and the actions -/

/-- The level of R-Down in a call, if the call is an input. -/
def rDownLevel : MachineCall → Option Bool
  | .handleInput msg => some (isRDown msg.keypadData.buttonStatus)
  | _ => none

/-- The levels of R-Down in the inputs handled so far, oldest first. -/
def rDownLevels (h : List MachineStep) : List Bool :=
  h.filterMap fun r ↦ rDownLevel r.input.call

/-- R-Down was set in the last input handled. -/
def rDownHeld (h : List MachineStep) : Bool := (rDownLevels h).getLast?.getD false

/-- The rising edges of a signal which was at `level` before. -/
def risingEdges : Bool → List Bool → Nat
  | _, [] => 0
  | level, b :: bs => (if b && !level then 1 else 0) + risingEdges b bs

/-- The client calls that an operator triggers. -/
def ClientCall.isOperatorAction : ClientCall → Bool
  | .discoverVehicle _ | .sendRequestControl _ | .sendRequestResume _ => true
  | _ => false

/-- The operator-triggered actions of a call: those made while handling an input.
The retries of `handleResponse` are not among them. -/
def operatorActions (r : MachineStep) : Nat :=
  match r.input.call with
  | .handleInput _ => (clientCalls r.output).countP ClientCall.isOperatorAction
  | _ => 0

/-- The edge detector of the current state, where it has one. -/
def VehicleState.rDownPressed : VehicleState → Option Bool
  | .initializeState st => some st.rDownPressed
  | .controlState st => some st.rDownPressed
  | .standbyState st => some st.rDownPressed
  | _ => none

/-- The law: at most one action for each rising edge so far, and in detail, at
most one action for an input, and the button released between any two. -/
structure OnePressOneStep (h : List MachineStep) : Prop where
  count : (h.map operatorActions).sum ≤ risingEdges false (rDownLevels h)
  single : ∀ r ∈ h, operatorActions r ≤ 1
  released : ∀ past r mid r' future, h = past ++ r :: (mid ++ r' :: future) →
    operatorActions r ≠ 0 → operatorActions r' ≠ 0 → false ∈ rDownLevels mid

/-- The step `r` does not see a held button as a fresh press: if R-Down is set in
this input and was set in the input before, the `ControlState` or `StandbyState`
that handles it has its flag up. -/
def HoldRecognised (past : List MachineStep) (r : MachineStep) : Prop :=
  rDownHeld past = true → rDownLevel r.input.call = some true →
    r.before.phase ≠ .initializeState → r.before.rDownPressed ≠ some false

instance (past : List MachineStep) (r : MachineStep) : Decidable (HoldRecognised past r) :=
  inferInstanceAs (Decidable (_ → _ → _ → _))

/-- An input with R-Down set. -/
def pressTick : Tick :=
  ⟨0, .favourable, .handleInput (.withButtons KeypadButton.rDown.mask)⟩

/-- An input with no button set. -/
def releaseTick : Tick := ⟨0, .favourable, .handleInput (.withButtons 0)⟩

/-! ## Edges of a signal -/

theorem risingEdges_concat (level : Bool) (bs : List Bool) (b : Bool) :
    risingEdges level (bs ++ [b]) =
      risingEdges level bs + if b && !bs.getLast?.getD level then 1 else 0 := by
  induction bs generalizing level with
  | nil => simp [risingEdges]
  | cons c bs ih =>
      rw [List.cons_append, risingEdges, risingEdges, ih, List.getLast?_cons,
        Option.getD_some, Nat.add_assoc]

@[simp] theorem rDownLevels_append (h h' : List MachineStep) :
    rDownLevels (h ++ h') = rDownLevels h ++ rDownLevels h' := List.filterMap_append

theorem rDownLevels_of_level {r : MachineStep} {b : Bool}
    (h : rDownLevel r.input.call = some b) : rDownLevels [r] = [b] := by
  simp [rDownLevels, h]

theorem rDownHeld_concat (h : List MachineStep) (r : MachineStep) :
    rDownHeld (h ++ [r]) = (rDownLevel r.input.call).getD (rDownHeld h) := by
  cases hr : rDownLevel r.input.call with
  | none => simp [rDownHeld, rDownLevels, hr]
  | some b => simp [rDownHeld, rDownLevels_of_level hr]

/-! ## Actions on rising edges -/

/-- Every action of `h` sits on a rising edge of R-Down. -/
def EdgeTriggered (past : List MachineStep) (r : MachineStep) : Prop :=
  operatorActions r ≤ 1 ∧
    (operatorActions r ≠ 0 → rDownLevel r.input.call = some true ∧ rDownHeld past = false)

/-- Actions on rising edges are at most as many as the edges. -/
theorem actions_le_risingEdges {h : List MachineStep} (hedge : Along EdgeTriggered h) :
    (h.map operatorActions).sum ≤ risingEdges false (rDownLevels h) := by
  induction h using List.reverseRecOn with
  | nil => exact Nat.le_refl 0
  | append_singleton h r ih =>
      obtain ⟨hh, hsingle, hr⟩ := along_concat.mp hedge
      have hle := ih hh
      rw [List.map_append, List.sum_append, rDownLevels_append]
      by_cases hact : operatorActions r = 0
      · have hmono : risingEdges false (rDownLevels h) ≤
            risingEdges false (rDownLevels h ++ rDownLevels [r]) := by
          cases hl : rDownLevel r.input.call with
          | none => simp [rDownLevels, hl]
          | some b => rw [rDownLevels_of_level hl, risingEdges_concat]; omega
        simp only [List.map_cons, List.map_nil, List.sum_cons, List.sum_nil, hact]
        omega
      · obtain ⟨hlevel, hheld⟩ := hr hact
        rw [rDownLevels_of_level hlevel, risingEdges_concat]
        rw [rDownHeld] at hheld
        simp only [List.map_cons, List.map_nil, List.sum_cons, List.sum_nil, hheld]
        simp only [Bool.not_false, Bool.and_self, if_true]
        omega

/-- Between two rising edges the signal was down. -/
theorem released_between {past mid : List MachineStep} {r : MachineStep}
    (hr : rDownLevel r.input.call = some true) (hheld : rDownHeld (past ++ r :: mid) = false) :
    false ∈ rDownLevels mid := by
  have hsplit : rDownLevels (past ++ r :: mid) =
      (rDownLevels past ++ [true]) ++ rDownLevels mid := by
    rw [← List.singleton_append, ← List.append_assoc, rDownLevels_append, rDownLevels_append,
      rDownLevels_of_level hr]
  rw [rDownHeld, hsplit] at hheld
  rcases List.eq_nil_or_concat (rDownLevels mid) with hmid | ⟨bs, b, hmid⟩
  · simp [hmid] at hheld
  · rw [hmid, List.concat_eq_append, ← List.append_assoc] at hheld
    simp only [List.getLast?_append, List.getLast?_singleton, Option.some_or,
      Option.getD_some] at hheld
    simp [hmid, hheld]

theorem OnePressOneStep.of_edgeTriggered {h : List MachineStep}
    (hedge : Along EdgeTriggered h) : OnePressOneStep h where
  count := actions_le_risingEdges hedge
  single := by
    intro r hr
    obtain ⟨past, future, e⟩ := List.append_of_mem hr
    exact (hedge past r future e).1
  released := by
    intro past r mid r' future e hact hact'
    have hr := (hedge past r _ e).2 hact
    have hr' := (hedge (past ++ r :: mid) r' future (by rw [e]; simp)).2 hact'
    exact released_between hr.1 hr'.2

/-! ## What the machine does -/

/-- An action is taken only when the current state's own detector sees an edge,
and an input triggers at most one. -/
theorem operatorActions_step (s : VehicleState) (t : Tick) :
    operatorActions (record step s t) ≤ 1 ∧
      (operatorActions (record step s t) ≠ 0 →
        rDownLevel t.call = some true ∧ s.rDownPressed = some false) := by
  obtain ⟨now, client, call⟩ := t
  cases call with
  | handleInput msg =>
      simp only [operatorActions, record_input, record_output, clientCalls_step, rDownLevel]
      cases s with
      | initializeState st =>
          simp only [dispatch, VehicleState.handleInput, VehicleState.through_snd,
            InitializeState.handleInput, VehicleState.rDownPressed]
          split
          · split <;> simp_all [clientCalls, ClientCall.isOperatorAction, List.countP_cons]
          · split <;> simp [clientCalls]
      | controlState st =>
          simp only [dispatch, VehicleState.handleInput, VehicleState.through_snd,
            ControlState.handleInput, VehicleState.rDownPressed]
          split
          · split <;> simp_all [clientCalls, ClientCall.isOperatorAction, List.countP_cons]
          · split <;> simp [clientCalls]
      | standbyState st =>
          simp only [dispatch, VehicleState.handleInput, VehicleState.through_snd,
            StandbyState.handleInput, VehicleState.rDownPressed]
          split
          · split <;> simp_all [clientCalls, ClientCall.isOperatorAction, List.countP_cons]
          · split <;> simp [clientCalls]
      | readyState st =>
          simp [dispatch, VehicleState.handleInput, ReadyState.handleInput, clientCalls,
            ClientCall.isOperatorAction]
      | emergencyState => simp [dispatch, VehicleState.handleInput, clientCalls]
      | shutdownState st =>
          simp only [dispatch, VehicleState.handleInput, VehicleState.through_snd,
            ShutdownState.handleInput]
          split
          · simp [clientCalls]
          · split <;> simp [clientCalls]
  | handleResponse => exact ⟨Nat.zero_le 1, fun h ↦ absurd rfl h⟩
  | update => exact ⟨Nat.zero_le 1, fun h ↦ absurd rfl h⟩

/-- `InitializeState` keeps the level of the last input it handled. -/
theorem InitializeState.rDownPressed_handleInput (st : InitializeState)
    (client : ClientAnswers) (input : FrcCombinedData) :
    (st.handleInput client input).1.rDownPressed = isRDown input.keypadData.buttonStatus := by
  unfold handleInput
  split
  · simp_all
  · split <;> simp_all

/-- In `InitializeState`, which is entered with the button history empty, the
detector agrees with the button. -/
def InitialDetector (h : List MachineStep) (s : VehicleState) : Prop :=
  s.Settled ∧ (s.phase = .initializeState → s.rDownPressed = some (rDownHeld h))

theorem initialDetector_step (h : List MachineStep) (s : VehicleState) (t : Tick)
    (hI : InitialDetector h s) : InitialDetector (h ++ [record step s t]) (step s t).1 := by
  obtain ⟨hs, hflag⟩ := hI
  obtain ⟨hsettled, hmove⟩ := step_phase hs t
  refine ⟨hsettled, fun hphase ↦ ?_⟩
  rcases hmove with ⟨hsame, _⟩ | ⟨_, hrank, _⟩
  · rw [step_eq_dispatch hs hsame, rDownHeld_concat, record_input]
    rw [hphase] at hsame
    have hflag := hflag hsame.symm
    obtain ⟨now, client, call⟩ := t
    cases s with
    | initializeState st =>
        cases call with
        | handleInput msg =>
            simp [dispatch, VehicleState.handleInput, VehicleState.rDownPressed,
              InitializeState.rDownPressed_handleInput, rDownLevel]
        | handleResponse => exact hflag
        | update => exact hflag
    | _ => cases hsame
  · rw [hphase] at hrank
    exact absurd hrank (by simp [Phase.rank])

theorem initialDetector_run (ticks : List Tick) :
    InitialDetector (run ticks) (final step start ticks) :=
  history_invariant' step ⟨start_settled, fun _ ↦ rfl⟩ initialDetector_step ticks

/-- Where held buttons are recognised, actions sit on rising edges. -/
theorem edgeTriggered_run {ticks : List Tick} (h : Along HoldRecognised (run ticks)) :
    Along EdgeTriggered (run ticks) := by
  intro past r future e
  have hhold := h past r future e
  obtain ⟨js, t, rfl, rfl⟩ := history_split e
  obtain ⟨hsingle, hact⟩ := operatorActions_step (final step start js) t
  refine ⟨hsingle, fun hne ↦ ?_⟩
  obtain ⟨hlevel, hflag⟩ := hact hne
  refine ⟨hlevel, ?_⟩
  by_contra hheld
  rw [Bool.not_eq_false] at hheld
  by_cases hphase : (final step start js).phase = .initializeState
  · have hdetector := (initialDetector_run js).2 hphase
    rw [hheld, hflag] at hdetector
    cases hdetector
  · exact hhold hheld hlevel hphase hflag

/-- **One press, one step**, for every run in which no input with R-Down still
held is the first one that a new `ControlState` or `StandbyState` handles. -/
theorem one_press_one_step (ticks : List Tick) (h : Along HoldRecognised (run ticks)) :
    OnePressOneStep (run ticks) :=
  .of_edgeTriggered (edgeTriggered_run h)

/-- An operator who releases R-Down before the next state handles an input, and holds it
while `ControlState` does. -/
theorem one_press_one_step_released :
    OnePressOneStep (run [pressTick, releaseTick, pressTick, pressTick, releaseTick]) :=
  one_press_one_step [pressTick, releaseTick, pressTick, pressTick, releaseTick]
    (by decide +kernel)

/-- Two reports of one press, with the vehicle found on the first: discovery and
the request for control, on a single edge. -/
theorem held_press_takes_two_steps : ¬∀ ticks, OnePressOneStep (run ticks) := by
  intro h
  have hcount := (h [pressTick, pressTick]).count
  exact absurd hcount (by decide +kernel)

end FortAgent.Jaus
