import FortAgent.Jaus.OperatorPress

/-!
# Operator consent

A response carries no content: `handleResponse` does not know which request it
answers, and every control response and every status report raises one.
`ControlState` and `StandbyState` each remember whether the operator has asked
for anything (`controlRequested`, `resumeRequested`), but neither of their
`handleResponse` methods reads that memory.  So a response nobody asked for can
request control, and can enter `ReadyState`.

And a button that is still held when a state is entered sets the memory of that
state, though the operator has not pressed it there.

`operator_consent` says that these are the only ways in which consent is lost: as
long as held buttons are recognised and the two decisive responses find the memory
set, control is requested and `ReadyState` is entered only after the operator's
press, a rising edge of R-Down.  The invariant is that the memory, where it is set,
was set by a press in the same state.
-/

namespace FortAgent.Jaus

open Joystick Transducer VehicleStateMachine

/-! ## Presses, solicited responses, consent -/

/-- The call `r` is a press of R-Down handled in phase `p`: an input with R-Down set,
after one in which it was not. -/
def PressedIn (p : Phase) (past : List MachineStep) (r : MachineStep) : Prop :=
  r.before.phase = p ∧ rDownLevel r.input.call = some true ∧ rDownHeld past = false

/-- The operator has asked for control: R-Down was pressed in `ControlState`. -/
def ControlAsked (h : List MachineStep) : Prop :=
  ∃ past r future, h = past ++ r :: future ∧ PressedIn .controlState past r

/-- The operator has asked to resume: R-Down was pressed in `StandbyState`, and
the request this made was sent. -/
def ResumeAsked (h : List MachineStep) : Prop :=
  ∃ past r future, h = past ++ r :: future ∧ PressedIn .standbyState past r ∧
    .sendRequestResume true ∈ clientCalls r.output

/-- Consent at one call: it requests control only when the operator has asked
for control, by this very call at the latest, and it enters `ReadyState` only
when the operator has asked to resume. -/
def Consented (past : List MachineStep) (r : MachineStep) : Prop :=
  (∀ sent, .sendRequestControl sent ∈ clientCalls r.output → ControlAsked (past ++ [r])) ∧
    (.readyState ∈ enteredPhases r.output → ResumeAsked past)

/-- The response handled by a call, if it is one, is not decisive or not
unsolicited: `ControlState`, told that it has no control, remembers a request
for control, and `StandbyState`, told that the vehicle is ready, remembers a
request to resume. -/
def Solicited (r : MachineStep) : Prop :=
  match r.input.call, r.before with
  | .handleResponse, .controlState st =>
    r.input.client.hasControl = false → st.controlRequested = true
  | .handleResponse, .standbyState st =>
    r.input.client.hasReadyState = true → st.resumeRequested = true
  | _, _ => True

instance (r : MachineStep) : Decidable (Solicited r) := by
  unfold Solicited
  split <;> infer_instance

/-! ## The invariant -/

/-- What the current state remembers of the operator's requests did happen. -/
def Remembers (h : List MachineStep) : VehicleState → Prop
  | .controlState st => st.controlRequested = true → ControlAsked h
  | .standbyState st => st.resumeRequested = true → ResumeAsked h
  | _ => True

theorem ControlAsked.append {h : List MachineStep} (hasked : ControlAsked h)
    (h' : List MachineStep) : ControlAsked (h ++ h') := by
  obtain ⟨past, r, future, rfl, hpress⟩ := hasked
  exact ⟨past, r, future ++ h', by simp, hpress⟩

theorem ResumeAsked.append {h : List MachineStep} (hasked : ResumeAsked h)
    (h' : List MachineStep) : ResumeAsked (h ++ h') := by
  obtain ⟨past, r, future, rfl, hpress⟩ := hasked
  exact ⟨past, r, future ++ h', by simp, hpress⟩

/-- Memories stay true as the history grows. -/
theorem Remembers.append {h : List MachineStep} {s : VehicleState} (hmem : Remembers h s)
    (h' : List MachineStep) : Remembers (h ++ h') s := by
  cases s with
  | controlState st => exact fun hr ↦ (hmem hr).append h'
  | standbyState st => exact fun hr ↦ (hmem hr).append h'
  | _ => trivial

/-- A state that was just constructed remembers nothing. -/
theorem remembers_next {h : List MachineStep} {s n : VehicleState} {now : SteadyTime}
    (hs : s.phase ≠ .shutdownState) (hn : s.next now = some n) : Remembers h n := by
  cases s with
  | initializeState st =>
      obtain ⟨-, rfl⟩ : st.vehicleFound = true ∧ VehicleState.controlState .new = n := by
        simpa [VehicleState.next] using hn
      exact fun hr ↦ absurd hr (by decide)
  | controlState st =>
      obtain ⟨-, rfl⟩ : st.controlGranted = true ∧ VehicleState.standbyState .new = n := by
        simpa [VehicleState.next] using hn
      exact fun hr ↦ absurd hr (by decide)
  | standbyState st =>
      obtain ⟨-, rfl⟩ : st.readyStateGranted = true ∧ VehicleState.readyState (.new now) = n := by
        simpa [VehicleState.next] using hn
      trivial
  | readyState st =>
      obtain ⟨-, rfl⟩ : st.emergencyTriggered = true ∧ VehicleState.emergencyState = n := by
        simpa [VehicleState.next] using hn
      trivial
  | emergencyState => cases hn
  | shutdownState st => exact absurd rfl hs

/-! ## One call -/

/-- In `ControlState` the memory is only set by a press. -/
theorem ControlState.controlRequested_handleInput {st : ControlState} {client : ClientAnswers}
    {input : FrcCombinedData} (h : (st.handleInput client input).1.controlRequested = true) :
    st.controlRequested = true ∨
      isRDown input.keypadData.buttonStatus = true ∧ st.rDownPressed = false := by
  unfold handleInput at h
  split at h
  · next hpress => exact .inr (by simpa using hpress)
  · split at h <;> exact .inl h

/-- In `ControlState` an input requests control only if it is a press. -/
theorem ControlState.sendRequestControl_handleInput {st : ControlState} {client : ClientAnswers}
    {input : FrcCombinedData} {sent : Bool}
    (h : .sendRequestControl sent ∈ clientCalls (st.handleInput client input).2) :
    isRDown input.keypadData.buttonStatus = true ∧ st.rDownPressed = false := by
  unfold handleInput at h
  split at h
  · next hpress => simpa using hpress
  · split at h <;> simp [clientCalls] at h

/-- In `ControlState` a response requests control only without control. -/
theorem ControlState.sendRequestControl_handleResponse {st : ControlState}
    {client : ClientAnswers} {sent : Bool}
    (h : .sendRequestControl sent ∈ clientCalls (st.handleResponse client).2) :
    client.hasControl = false := by
  unfold handleResponse at h
  split at h
  · simp [clientCalls] at h
  · next hcontrol => simpa using hcontrol

@[simp] theorem ControlState.controlRequested_handleResponse (st : ControlState)
    (client : ClientAnswers) :
    (st.handleResponse client).1.controlRequested = st.controlRequested := by
  unfold handleResponse
  split <;> rfl

/-- In `StandbyState` the memory is only set by a press whose request was sent. -/
theorem StandbyState.resumeRequested_handleInput {st : StandbyState} {client : ClientAnswers}
    {input : FrcCombinedData} (h : (st.handleInput client input).1.resumeRequested = true) :
    st.resumeRequested = true ∨
      (isRDown input.keypadData.buttonStatus = true ∧ st.rDownPressed = false) ∧
        .sendRequestResume true ∈ clientCalls (st.handleInput client input).2 := by
  unfold handleInput at h ⊢
  split at h
  · next hpress =>
      split at h
      · next hfirst =>
          have hsent : client.sendRequestResume = true := h
          exact .inr ⟨by simpa using hpress, by simp_all [clientCalls]⟩
      · exact .inl h
  · split at h <;> exact .inl h

@[simp] theorem StandbyState.resumeRequested_handleResponse (st : StandbyState)
    (client : ClientAnswers) :
    (st.handleResponse client).1.resumeRequested = st.resumeRequested := by
  unfold handleResponse
  split <;> rfl

/-- Where held buttons are recognised, an edge that the detector of a state sees is a press. -/
theorem pressedIn_of_detected {h : List MachineStep} {s : VehicleState} {t : Tick}
    (hhold : HoldRecognised h (record step s t)) (hphase : s.phase ≠ .initializeState)
    (hlevel : rDownLevel t.call = some true) (hflag : s.rDownPressed = some false) :
    PressedIn s.phase h (record step s t) := by
  refine ⟨rfl, hlevel, ?_⟩
  by_contra hheld
  exact hhold (Bool.not_eq_false _ ▸ hheld) hlevel hphase hflag

/-- Handling a call keeps memories true. -/
theorem remembers_dispatch {h : List MachineStep} {s : VehicleState} (hmem : Remembers h s)
    (t : Tick) (hhold : HoldRecognised h (record step s t)) :
    Remembers (h ++ [record step s t]) (dispatch s t).1 := by
  have hgrow : Remembers (h ++ [record step s t]) s := hmem.append _
  obtain ⟨now, client, call⟩ := t
  cases s with
  | controlState st =>
      cases call with
      | handleInput msg =>
          intro hr
          rcases ControlState.controlRequested_handleInput hr with hr | ⟨hdown, hflag⟩
          · exact hgrow hr
          · exact ⟨h, _, [], rfl, pressedIn_of_detected hhold Phase.noConfusion
              (congrArg some hdown) (congrArg some hflag)⟩
      | handleResponse =>
          exact fun hr ↦ hgrow (by rwa [← ControlState.controlRequested_handleResponse st client])
      | update => exact hgrow
  | standbyState st =>
      cases call with
      | handleInput msg =>
          intro hr
          rcases StandbyState.resumeRequested_handleInput hr with hr | ⟨⟨hdown, hflag⟩, hsent⟩
          · exact hgrow hr
          · refine ⟨h, _, [], rfl, pressedIn_of_detected hhold Phase.noConfusion
              (congrArg some hdown) (congrArg some hflag), ?_⟩
            rw [record_output, clientCalls_step]
            exact hsent
      | handleResponse =>
          exact fun hr ↦ hgrow (by rwa [← StandbyState.resumeRequested_handleResponse st client])
      | update => exact hgrow
  | initializeState st => cases call <;> trivial
  | readyState st => cases call <;> trivial
  | emergencyState => cases call <;> trivial
  | shutdownState st => cases call <;> trivial

/-- Control is requested only in `ControlState`, at an edge that its detector sees or by a
response that finds no control. -/
theorem sendRequestControl_step {s : VehicleState} {t : Tick} {sent : Bool}
    (h : .sendRequestControl sent ∈ clientCalls (step s t).2) :
    (s.phase = .controlState ∧ rDownLevel t.call = some true ∧ s.rDownPressed = some false) ∨
      ∃ st, s = .controlState st ∧ t.call = .handleResponse ∧ t.client.hasControl = false := by
  obtain ⟨hphase, hcall⟩ := madeIn_of_mem_clientCalls s t _ h
  rw [clientCalls_step] at h
  obtain ⟨now, client, call⟩ := t
  cases s with
  | controlState st =>
      cases call with
      | handleInput msg =>
          obtain ⟨hdown, hflag⟩ := ControlState.sendRequestControl_handleInput h
          exact .inl ⟨rfl, congrArg some hdown, congrArg some hflag⟩
      | handleResponse =>
          exact .inr ⟨st, rfl, rfl, ControlState.sendRequestControl_handleResponse h⟩
      | update => exact absurd rfl hcall
  | _ => cases hphase

/-- `ReadyState` is entered from `StandbyState`, by a response at which the
client reports READY. -/
theorem readyState_entered {s : VehicleState} (hs : s.Settled) {t : Tick}
    (h : .readyState ∈ enteredPhases (step s t).2) :
    ∃ st, s = .standbyState st ∧ t.call = .handleResponse ∧ t.client.hasReadyState = true := by
  obtain ⟨hlic, hrank⟩ := licenses_of_entered hs h
  rw [clientCalls_step] at hlic
  cases s with
  | standbyState st =>
      obtain ⟨hcall, hready⟩ := hlic
      refine ⟨st, rfl, hcall, ?_⟩
      obtain ⟨now, client, call⟩ := t
      obtain rfl : call = .handleResponse := hcall
      simp only [dispatch, VehicleState.handleResponse, VehicleState.through_snd,
        StandbyState.handleResponse] at hready
      split at hready <;> simp_all [clientCalls]
  | _ => simp [VehicleState.phase, Phase.rank] at hrank

/-! ## Runs -/

/-- The invariant of a run: the current state requests no transition, and its
memory is true. -/
def ConsentInvariant (h : List MachineStep) (s : VehicleState) : Prop :=
  s.Settled ∧ Remembers h s

theorem consentInvariant_step (h : List MachineStep) (s : VehicleState) (t : Tick)
    (hI : ConsentInvariant h s) (hhold : HoldRecognised h (record step s t)) :
    ConsentInvariant (h ++ [record step s t]) (step s t).1 := by
  obtain ⟨hs, hmem⟩ := hI
  refine ⟨(step_phase hs t).1, ?_⟩
  cases hn : (dispatch s t).1.next t.now with
  | none =>
      have hmoved : (step s t).1 = (dispatch s t).1 := by simp [step, transitionIfNeeded, hn]
      rw [hmoved]
      exact remembers_dispatch hmem t hhold
  | some n =>
      have hmoved : (step s t).1 = n := by simp [step, transitionIfNeeded, hn]
      rw [hmoved]
      exact remembers_next (by rw [phase_dispatch]; exact hs.1) hn

theorem consentInvariant_run {ticks : List Tick} (hhold : Along HoldRecognised (run ticks)) :
    ConsentInvariant (run ticks) (final step start ticks) :=
  history_invariant step ⟨start_settled, trivial⟩ consentInvariant_step ticks hhold

/-- **Operator consent**, for every run in which held buttons are recognised and the
decisive responses are solicited. -/
theorem operator_consent (ticks : List Tick) (hhold : Along HoldRecognised (run ticks))
    (hsolicited : ∀ r ∈ run ticks, Solicited r) : Along Consented (run ticks) := by
  intro past r future e
  have hrecognised := hhold past r future e
  have hsol := hsolicited r (e ▸ by simp)
  have hbefore : Along HoldRecognised past := by
    rw [e] at hhold
    exact Along.of_append hhold
  obtain ⟨js, t, rfl, rfl⟩ := history_split e
  obtain ⟨hs, hmem⟩ := consentInvariant_run hbefore
  constructor
  · intro sent hsent
    rw [record_output] at hsent
    rcases sendRequestControl_step hsent with ⟨hphase, hlevel, hflag⟩ | ⟨st, hst, hcall, hcontrol⟩
    · refine ⟨_, _, [], rfl, ?_⟩
      rw [← hphase]
      exact pressedIn_of_detected hrecognised (by rw [hphase]; exact Phase.noConfusion) hlevel hflag
    · rw [hst] at hmem
      have hrequested : st.controlRequested = true := by
        simp only [Solicited, record_input, record_before, hst, hcall] at hsol
        exact hsol hcontrol
      exact (hmem hrequested).append _
  · intro hentered
    rw [record_output] at hentered
    obtain ⟨st, hst, hcall, hready⟩ := readyState_entered hs hentered
    rw [hst] at hmem
    have hrequested : st.resumeRequested = true := by
      simp only [Solicited, record_input, record_before, hst, hcall] at hsol
      exact hsol hready
    exact hmem hrequested

/-- A response, with these answers of the client. -/
def responseTick (client : ClientAnswers) : Tick := ⟨0, client, .handleResponse⟩

/-- An operator who presses R-Down in each state, holds it for a while, and is answered
once it is released. -/
theorem operator_consent_pressed :
    Along Consented (run [pressTick, releaseTick, pressTick, pressTick, releaseTick,
      responseTick .favourable, pressTick, pressTick, responseTick .favourable]) :=
  operator_consent [pressTick, releaseTick, pressTick, pressTick, releaseTick,
    responseTick .favourable, pressTick, pressTick, responseTick .favourable]
    (by decide +kernel) (by decide +kernel)

/-- The vehicle is discovered, and a response arrives that nobody asked for: it
finds no control and requests it. -/
theorem unsolicited_response_requests_control : ¬∀ ticks, Along Consented (run ticks) := by
  intro h
  let response := responseTick { ClientAnswers.favourable with hasControl := false }
  have hconsented := h [pressTick, response]
    [record step start pressTick] (record step (step start pressTick).1 response) [] rfl
  obtain ⟨past, r, future, hsplit, hphase, hlevel, -⟩ := hconsented.1 true (by decide +kernel)
  have hr : r ∈ [record step start pressTick] ++
      [record step (step start pressTick).1 response] := by
    rw [hsplit]
    simp
  rw [List.mem_append, List.mem_singleton, List.mem_singleton] at hr
  rcases hr with rfl | rfl
  · exact absurd hphase (by decide +kernel)
  · exact absurd hlevel (by decide +kernel)

-- One press that is held through three states, with an answer in each of the last two: each
-- new state takes the held button for a press of its own, and `ReadyState` is entered.
example :
    let ticks := [pressTick, pressTick, responseTick .favourable, pressTick,
      responseTick .favourable]
    (∀ r ∈ run ticks, Solicited r) ∧ risingEdges false (rDownLevels (run ticks)) = 1 ∧
      (final step start ticks).phase = .readyState := by
  decide +kernel

end FortAgent.Jaus
