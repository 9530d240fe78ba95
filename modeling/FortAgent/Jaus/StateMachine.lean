import FortAgent.Jaus.VehicleState
import FortAgent.Lib.Transducer

/-!
# The vehicle state machine

`VehicleStateMachine` hands each call to the current state and then makes at
most one transition.  A call comes as a `Tick`, which also carries the reading
of the clock and the client's answers while the call is handled; the machine is
a transducer from ticks to lists of effects, and a run is its history.

The file proves what *one* call can do, once: `step_phase` says that a call
either stays in its phase or moves to the next phase in the order of authority,
and, in that case, which of the client's answers licensed the move.  Every law
about whole runs is derived from it and never unfolds a state class again.
Between two calls the flag by which a state requests its transition is always
down (`Settled`), because a transition is made in the call that raises it.
-/

namespace FortAgent.Jaus

open Joystick Transducer

/-- A call of the state machine. -/
inductive MachineCall
  | handleInput (msg : FrcCombinedData)
  | handleResponse
  | update
deriving DecidableEq, Repr

/-- A call, with what the clock and the client say while it is handled. -/
structure Tick where
  now : SteadyTime
  client : ClientAnswers
  call : MachineCall
deriving DecidableEq, Repr

namespace VehicleStateMachine

/-- The machine constructed with `InitializeState`. -/
def start : VehicleState := .initializeState .new

/-- What the constructor does: it enters the initial state. -/
def startEffects : List Effect := .entered .initializeState :: InitializeState.enter

/-- The call itself, before any transition. -/
def dispatch (s : VehicleState) (t : Tick) : VehicleState × List Effect :=
  match t.call with
  | .handleInput msg => s.handleInput t.client msg
  | .handleResponse => s.handleResponse t.client
  | .update => s.update t.now t.client

/-- `transitionIfNeeded`. -/
def transitionIfNeeded (now : SteadyTime) (s : VehicleState) : VehicleState × List Effect :=
  match s.next now with
  | some next => (next, .entered next.phase :: next.enter)
  | none => (s, [])

/-- One call of the machine: `handleInput`, `handleResponse` or `update`. -/
def step (s : VehicleState) (t : Tick) : VehicleState × List Effect :=
  let handled := dispatch s t
  let moved := transitionIfNeeded t.now handled.1
  (moved.1, handled.2 ++ moved.2)

/-- The run of a machine that was just constructed. -/
abbrev run (ticks : List Tick) : List (Step VehicleState Tick (List Effect)) :=
  history step start ticks

end VehicleStateMachine

/-- One recorded call of the machine. -/
abbrev MachineStep := Step VehicleState Tick (List Effect)

/-! ## Reading a recorded call -/

/-- The client calls among some effects, in order. -/
def clientCalls (effects : List Effect) : List ClientCall :=
  effects.filterMap fun
    | .client call => some call
    | _ => none

/-- The states entered among some effects, in order. -/
def enteredPhases (effects : List Effect) : List Phase :=
  effects.filterMap fun
    | .entered phase => some phase
    | _ => none

@[simp] theorem clientCalls_append (es fs : List Effect) :
    clientCalls (es ++ fs) = clientCalls es ++ clientCalls fs := List.filterMap_append

@[simp] theorem enteredPhases_append (es fs : List Effect) :
    enteredPhases (es ++ fs) = enteredPhases es ++ enteredPhases fs := List.filterMap_append

/-- Where the methods of the client are called: in which phase, and by which calls
of the machine. -/
def ClientCall.MadeIn (phase : Phase) (call : MachineCall) : ClientCall → Prop
  | .discoverVehicle _ | .getComponentName _ =>
    phase = .initializeState ∧ ∃ msg, call = .handleInput msg
  | .sendRequestControl _ => phase = .controlState ∧ call ≠ .update
  | .hasControl _ => phase = .controlState ∧ call = .handleResponse ∨
      phase = .readyState ∧ call = .update
  | .sendRequestResume _ => phase = .standbyState ∧ ∃ msg, call = .handleInput msg
  | .queryStatus _ => phase = .standbyState ∧ call ≠ .update
  | .hasReadyState _ => phase = .standbyState ∧ call = .handleResponse
  | .isHeartbeatAlive _ => phase = .readyState ∧ call = .update
  | .sendWrenchEffort data =>
    phase = .readyState ∧ ∃ msg, call = .handleInput msg ∧ data = msg.joystickData

/-! ## The order of authority -/

/-- The phases of a run, in the order in which authority over the vehicle grows. -/
def authorityOrder : List Phase :=
  [.initializeState, .controlState, .standbyState, .readyState, .emergencyState]

/-- The position of a phase in the order of authority. -/
def Phase.rank : Phase → Nat
  | .initializeState => 0
  | .controlState => 1
  | .standbyState => 2
  | .readyState => 3
  | .emergencyState => 4
  | .shutdownState => 5

/-- The call `t`, making the client calls `calls`, licenses leaving a phase: the
evidence each class waits for before it requests its transition. -/
def Licenses (t : Tick) (calls : List ClientCall) : Phase → Prop
  | .initializeState => (∃ msg, t.call = .handleInput msg) ∧ .discoverVehicle true ∈ calls
  | .controlState => t.call = .handleResponse ∧ .hasControl true ∈ calls
  | .standbyState => t.call = .handleResponse ∧ .hasReadyState true ∈ calls
  | .readyState => t.call = .update ∧ .isHeartbeatAlive false ∈ calls
  | .emergencyState | .shutdownState => False

/-- Between two calls: the current state is one of the order of authority, and
it requests no transition. -/
def VehicleState.Settled (s : VehicleState) : Prop :=
  s.phase ≠ .shutdownState ∧ ∀ now, s.next now = none

namespace VehicleState

@[simp] theorem settled_initializeState {st : InitializeState} :
    (initializeState st).Settled ↔ st.vehicleFound = false := by
  simp [Settled, phase, next]

@[simp] theorem settled_controlState {st : ControlState} :
    (controlState st).Settled ↔ st.controlGranted = false := by
  simp [Settled, phase, next]

@[simp] theorem settled_standbyState {st : StandbyState} :
    (standbyState st).Settled ↔ st.readyStateGranted = false := by
  simp [Settled, phase, next]

@[simp] theorem settled_readyState {st : ReadyState} :
    (readyState st).Settled ↔ st.emergencyTriggered = false := by
  simp [Settled, phase, next]

@[simp] theorem settled_emergencyState : Settled .emergencyState := by
  simp [Settled, phase, next]

@[simp] theorem not_settled_shutdownState {st : ShutdownState} : ¬(shutdownState st).Settled := by
  simp [Settled, phase]

end VehicleState

/-- Whether a transition is requested does not depend on the clock. -/
theorem VehicleState.next_eq_none_of_eq_none {s : VehicleState} {now : SteadyTime}
    (h : s.next now = none) (now' : SteadyTime) : s.next now' = none := by
  cases s <;> simp_all [next]

/-! ## What one call can do -/

/-- A newly found vehicle was discovered in this call. -/
theorem InitializeState.vehicleFound_handleInput {st : InitializeState} {client : ClientAnswers}
    {input : FrcCombinedData} (hst : st.vehicleFound = false)
    (h : (st.handleInput client input).1.vehicleFound = true) :
    .discoverVehicle true ∈ clientCalls (st.handleInput client input).2 := by
  unfold handleInput at h ⊢
  split at h
  · have hd : client.discoverVehicle = true := h
    simp [clientCalls, *]
  · split at h <;> exact absurd h (by simp [hst])

/-- An input never grants control. -/
@[simp] theorem ControlState.controlGranted_handleInput (st : ControlState)
    (client : ClientAnswers) (input : FrcCombinedData) :
    (st.handleInput client input).1.controlGranted = st.controlGranted := by
  unfold handleInput
  repeat' split
  all_goals rfl

/-- Newly granted control was confirmed by the client in this call. -/
theorem ControlState.controlGranted_handleResponse {st : ControlState} {client : ClientAnswers}
    (hst : st.controlGranted = false) (h : (st.handleResponse client).1.controlGranted = true) :
    .hasControl true ∈ clientCalls (st.handleResponse client).2 := by
  unfold handleResponse at h ⊢
  split at h
  · simp [clientCalls, *]
  · exact absurd h (by simp [hst])

/-- An input never grants READY. -/
@[simp] theorem StandbyState.readyStateGranted_handleInput (st : StandbyState)
    (client : ClientAnswers) (input : FrcCombinedData) :
    (st.handleInput client input).1.readyStateGranted = st.readyStateGranted := by
  unfold handleInput
  repeat' split
  all_goals rfl

/-- Newly granted READY was confirmed by the client in this call. -/
theorem StandbyState.readyStateGranted_handleResponse {st : StandbyState}
    {client : ClientAnswers} (hst : st.readyStateGranted = false)
    (h : (st.handleResponse client).1.readyStateGranted = true) :
    .hasReadyState true ∈ clientCalls (st.handleResponse client).2 := by
  unfold handleResponse at h ⊢
  split at h
  · exact absurd h (by simp [hst])
  · simp_all [clientCalls]

/-- A newly triggered emergency means the client reported a dead heartbeat in
this call. -/
theorem ReadyState.emergencyTriggered_update {st : ReadyState} {now : SteadyTime}
    {client : ClientAnswers} (hst : st.emergencyTriggered = false)
    (h : (st.update now client).1.emergencyTriggered = true) :
    .isHeartbeatAlive false ∈ clientCalls (st.update now client).2 := by
  unfold update checkHeartbeat at h ⊢
  split at h
  · have ha : client.isHeartbeatAlive = false := by simpa [hst] using h
    simp [clientCalls, *]
  · exact absurd h (by simp [hst])

namespace VehicleStateMachine

theorem start_settled : start.Settled := by simp [start, InitializeState.new]

/-- Handling a call never changes the class of the current object; only a
transition does. -/
theorem phase_dispatch (s : VehicleState) (t : Tick) : (dispatch s t).1.phase = s.phase := by
  obtain ⟨now, client, call⟩ := t
  cases call <;> cases s <;> simp [dispatch, VehicleState.handleInput,
    VehicleState.handleResponse, VehicleState.update, VehicleState.phase]

/-- Handling a call enters no state; only a transition does. -/
theorem enteredPhases_dispatch (s : VehicleState) (t : Tick) :
    enteredPhases (dispatch s t).2 = [] := by
  obtain ⟨now, client, call⟩ := t
  cases call with
  | handleInput msg =>
      cases s <;> simp only [dispatch, VehicleState.handleInput, VehicleState.through_snd,
        InitializeState.handleInput, ControlState.handleInput, StandbyState.handleInput,
        ReadyState.handleInput, ShutdownState.handleInput]
      all_goals repeat' split
      all_goals rfl
  | handleResponse =>
      cases s <;> simp only [dispatch, VehicleState.handleResponse, VehicleState.through_snd,
        ControlState.handleResponse, StandbyState.handleResponse]
      all_goals repeat' split
      all_goals rfl
  | update =>
      cases s <;> simp only [dispatch, VehicleState.update, VehicleState.through_snd,
        ReadyState.update, ReadyState.checkHeartbeat]
      all_goals repeat' split
      all_goals rfl

/-- A transition makes no client call: `enter` only talks to the handheld. -/
theorem clientCalls_transitionIfNeeded (now : SteadyTime) (s : VehicleState) :
    clientCalls (transitionIfNeeded now s).2 = [] := by
  unfold transitionIfNeeded
  split
  · next n _ => cases n <;> rfl
  · rfl

/-- The client calls of a step are those made while handling the call. -/
theorem clientCalls_step (s : VehicleState) (t : Tick) :
    clientCalls (step s t).2 = clientCalls (dispatch s t).2 := by
  rw [step, clientCalls_append, clientCalls_transitionIfNeeded, List.append_nil]

/-- **Who calls the client.**  Each call of the client is made where it belongs. -/
theorem madeIn_of_mem_clientCalls (s : VehicleState) (t : Tick) :
    ∀ c ∈ clientCalls (step s t).2, c.MadeIn s.phase t.call := by
  rw [clientCalls_step]
  obtain ⟨now, client, call⟩ := t
  cases call with
  | handleInput msg =>
      cases s <;> simp only [dispatch, VehicleState.handleInput, VehicleState.through_snd,
        InitializeState.handleInput, ControlState.handleInput, StandbyState.handleInput,
        ReadyState.handleInput, ShutdownState.handleInput]
      all_goals repeat' split
      all_goals simp [clientCalls, ClientCall.MadeIn, VehicleState.phase]
  | handleResponse =>
      cases s <;> simp only [dispatch, VehicleState.handleResponse, VehicleState.through_snd,
        ControlState.handleResponse, StandbyState.handleResponse]
      all_goals repeat' split
      all_goals simp [clientCalls, ClientCall.MadeIn, VehicleState.phase]
  | update =>
      cases s <;> simp only [dispatch, VehicleState.update, VehicleState.through_snd,
        ReadyState.update, ReadyState.checkHeartbeat]
      all_goals repeat' split
      all_goals simp [clientCalls, ClientCall.MadeIn, VehicleState.phase]

/-- **What a transition rests on.**  If a settled state requests a transition
after handling a call, that call licensed it, and the requested state is a
settled state of the next rank. -/
theorem next_dispatch {s n : VehicleState} (hs : s.Settled) {t : Tick}
    (hn : (dispatch s t).1.next t.now = some n) :
    Licenses t (clientCalls (dispatch s t).2) s.phase ∧
      n.phase.rank = s.phase.rank + 1 ∧ n.Settled := by
  obtain ⟨now, client, call⟩ := t
  have hkept : (dispatch s ⟨now, client, call⟩).1 ≠ s := fun he ↦ by
    rw [he, hs.2] at hn; cases hn
  cases s with
  | initializeState st =>
      cases call with
      | handleInput msg =>
          obtain ⟨hfound, rfl⟩ : (st.handleInput client msg).1.vehicleFound = true ∧
              VehicleState.controlState .new = n := by
            simpa [dispatch, VehicleState.handleInput, VehicleState.next] using hn
          refine ⟨⟨⟨msg, rfl⟩, ?_⟩, rfl, by simp [ControlState.new]⟩
          exact InitializeState.vehicleFound_handleInput (by simpa using hs) hfound
      | handleResponse => exact absurd rfl hkept
      | update => exact absurd rfl hkept
  | controlState st =>
      cases call with
      | handleInput msg =>
          have hg : st.controlGranted = false := by simpa using hs
          simp [dispatch, VehicleState.handleInput, VehicleState.next, hg] at hn
      | handleResponse =>
          obtain ⟨hgranted, rfl⟩ : (st.handleResponse client).1.controlGranted = true ∧
              VehicleState.standbyState .new = n := by
            simpa [dispatch, VehicleState.handleResponse, VehicleState.next] using hn
          refine ⟨⟨rfl, ?_⟩, rfl, by simp [StandbyState.new]⟩
          exact ControlState.controlGranted_handleResponse (by simpa using hs) hgranted
      | update => exact absurd rfl hkept
  | standbyState st =>
      cases call with
      | handleInput msg =>
          have hg : st.readyStateGranted = false := by simpa using hs
          simp [dispatch, VehicleState.handleInput, VehicleState.next, hg] at hn
      | handleResponse =>
          obtain ⟨hgranted, rfl⟩ : (st.handleResponse client).1.readyStateGranted = true ∧
              VehicleState.readyState (.new now) = n := by
            simpa [dispatch, VehicleState.handleResponse, VehicleState.next] using hn
          refine ⟨⟨rfl, ?_⟩, rfl, by simp [ReadyState.new]⟩
          exact StandbyState.readyStateGranted_handleResponse (by simpa using hs) hgranted
      | update => exact absurd rfl hkept
  | readyState st =>
      cases call with
      | handleInput msg => exact absurd rfl hkept
      | handleResponse => exact absurd rfl hkept
      | update =>
          obtain ⟨htriggered, rfl⟩ : (st.update now client).1.emergencyTriggered = true ∧
              VehicleState.emergencyState = n := by
            simpa [dispatch, VehicleState.update, VehicleState.next] using hn
          refine ⟨⟨rfl, ?_⟩, rfl, by simp⟩
          exact ReadyState.emergencyTriggered_update (by simpa using hs) htriggered
  | emergencyState => cases call <;> exact absurd rfl hkept
  | shutdownState st => exact absurd hs (by simp)

/-- A call that leaves the phase alone makes no transition. -/
theorem step_eq_dispatch {s : VehicleState} (hs : s.Settled) {t : Tick}
    (h : (step s t).1.phase = s.phase) : step s t = dispatch s t := by
  simp only [step] at h ⊢
  cases hn : (dispatch s t).1.next t.now with
  | none => simp only [transitionIfNeeded, hn, List.append_nil]
  | some n =>
      have hrank := (next_dispatch hs hn).2.1
      simp only [transitionIfNeeded, hn] at h
      rw [h] at hrank
      omega

/-- **One call.**  From a settled state a call leads to a settled state; either
the phase is unchanged and no state is entered, or exactly one state is entered,
it is the next in the order of authority, and the call licensed leaving the
current one. -/
theorem step_phase {s : VehicleState} (hs : s.Settled) (t : Tick) :
    (step s t).1.Settled ∧
      ((step s t).1.phase = s.phase ∧ enteredPhases (step s t).2 = [] ∨
        Licenses t (clientCalls (step s t).2) s.phase ∧
          (step s t).1.phase.rank = s.phase.rank + 1 ∧
          enteredPhases (step s t).2 = [(step s t).1.phase]) := by
  have hphase := phase_dispatch s t
  rw [clientCalls_step]
  simp only [step, enteredPhases_append, enteredPhases_dispatch, List.nil_append]
  cases hn : (dispatch s t).1.next t.now with
  | none =>
      have hmoved : transitionIfNeeded t.now (dispatch s t).1 = ((dispatch s t).1, []) := by
        rw [transitionIfNeeded, hn]
      rw [hmoved]
      refine ⟨⟨by rw [hphase]; exact hs.1, fun now ↦ ?_⟩, .inl ⟨hphase, rfl⟩⟩
      exact VehicleState.next_eq_none_of_eq_none hn now
  | some n =>
      have hmoved : transitionIfNeeded t.now (dispatch s t).1 =
          (n, .entered n.phase :: n.enter) := by rw [transitionIfNeeded, hn]
      obtain ⟨hlic, hrank, hsettled⟩ := next_dispatch hs hn
      rw [hmoved]
      refine ⟨hsettled, .inr ⟨hlic, hrank, ?_⟩⟩
      cases n <;> rfl

/-- A state that is entered is the next one, and leaving the current one was
licensed. -/
theorem licenses_of_entered {s : VehicleState} (hs : s.Settled) {t : Tick} {p : Phase}
    (h : p ∈ enteredPhases (step s t).2) :
    Licenses t (clientCalls (step s t).2) s.phase ∧ p.rank = s.phase.rank + 1 := by
  rcases (step_phase hs t).2 with ⟨-, hnone⟩ | ⟨hlic, hrank, hone⟩
  · rw [hnone] at h
    cases h
  · rw [hone, List.mem_singleton] at h
    exact ⟨hlic, by rw [h, hrank]⟩

/-- Between two calls of a run no transition is requested. -/
theorem settled_final (ticks : List Tick) : (final step start ticks).Settled :=
  final_invariant step start_settled (fun _ t hs ↦ (step_phase hs t).1) ticks

end VehicleStateMachine

end FortAgent.Jaus
