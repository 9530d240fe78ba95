import FortAgent.Jaus.ControlLoop
import FortAgent.Jaus.OperatorPress

/-!
# What holds in every run of the control loop

What a message does to the machine, in three cases for an input and five for a
response, and an invariant of the control loop that each event keeps: `Coherent`.  It
says that the requests on their way are those that the state may have made, and that a
state which has asked once, and will not do so again, will hear of an answer unless the
client has gone deaf.
-/

namespace FortAgent.Jaus

open Joystick Transducer

variable {Status : Type}

/-! ## What the machine makes of a message -/

/-- The state has asked the vehicle for what it waits for. -/
def VehicleState.requested : VehicleState → Bool
  | .controlState st => st.controlRequested
  | .standbyState st => st.resumeRequested
  | _ => false

theorem VehicleState.phase_of_requested {s : VehicleState} (h : s.requested = true) :
    s.phase = .controlState ∨ s.phase = .standbyState := by
  cases s with
  | controlState st => exact .inl rfl
  | standbyState st => exact .inr rfl
  | _ => cases h

theorem VehicleState.ne_initializeState_of_requested {s : VehicleState} (h : s.requested = true) :
    s.phase ≠ .initializeState := by
  cases s with
  | initializeState st => cases h
  | _ => exact Phase.noConfusion


/-- A state with an edge detector sees no press. -/
def NoPress (rDownPressed : Bool) (input : FrcCombinedData) : Prop :=
  (isRDown input.keypadData.buttonStatus && !rDownPressed) = false

section NoPress

variable {client : ClientAnswers} {input : FrcCombinedData}

theorem InitializeState.handleInput_noPress {st : InitializeState}
    (h : NoPress st.rDownPressed input) : st.handleInput client input =
      ({ st with rDownPressed := isRDown input.keypadData.buttonStatus }, []) := by
  obtain ⟨vehicleFound, rDownPressed⟩ := st
  unfold NoPress at h
  cases hdown : isRDown input.keypadData.buttonStatus <;> simp_all [handleInput]

theorem ControlState.handleInput_noPress {st : ControlState}
    (h : NoPress st.rDownPressed input) : st.handleInput client input =
      ({ st with rDownPressed := isRDown input.keypadData.buttonStatus }, []) := by
  obtain ⟨controlRequested, controlGranted, rDownPressed⟩ := st
  unfold NoPress at h
  cases hdown : isRDown input.keypadData.buttonStatus <;> simp_all [handleInput]

theorem StandbyState.handleInput_noPress {st : StandbyState}
    (h : NoPress st.rDownPressed input) : st.handleInput client input =
      ({ st with rDownPressed := isRDown input.keypadData.buttonStatus }, []) := by
  obtain ⟨resumeRequested, readyStateGranted, rDownPressed⟩ := st
  unfold NoPress at h
  cases hdown : isRDown input.keypadData.buttonStatus <;> simp_all [handleInput]

end NoPress

/-- The detector of a new state is down. -/
theorem VehicleState.handleInput_noPress {s : VehicleState} (client : ClientAnswers)
    {input : FrcCombinedData} {b : Bool} (hb : s.rDownPressed = some b) (h : NoPress b input) :
    (s.handleInput client input).1.rDownPressed = some (isRDown input.keypadData.buttonStatus) ∧
      (s.handleInput client input).1.phase = s.phase ∧
      (s.handleInput client input).1.requested = s.requested ∧
      (s.Settled → (s.handleInput client input).1.Settled) ∧
      (s.handleInput client input).2 = [] := by
  cases s with
  | initializeState st =>
      obtain rfl := Option.some.inj hb
      simp only [handleInput, InitializeState.handleInput_noPress h]
      simp [rDownPressed, phase, requested]
  | controlState st =>
      obtain rfl := Option.some.inj hb
      simp only [handleInput, ControlState.handleInput_noPress h]
      simp [rDownPressed, phase, requested]
  | standbyState st =>
      obtain rfl := Option.some.inj hb
      simp only [handleInput, StandbyState.handleInput_noPress h]
      simp [rDownPressed, phase, requested]
  | _ => cases hb

namespace VehicleStateMachine

/-- A settled state that handles an input without calling the client makes no
transition. -/
theorem step_noPress {s : VehicleState} (hs : s.Settled) {b : Bool}
    (hb : s.rDownPressed = some b) {input : FrcCombinedData} (h : NoPress b input)
    (now : SteadyTime) (client : ClientAnswers) :
    step s ⟨now, client, .handleInput input⟩ = ((s.handleInput client input).1, []) := by
  obtain ⟨-, -, -, hsettled, hnone⟩ := VehicleState.handleInput_noPress client hb h
  rw [step, dispatch, hnone, transitionIfNeeded, (hsettled hs).2]
  rfl

/-- An input changes nothing that matters, or it is a press: in `InitializeState` it
makes the client look for a vehicle, and in the next two states it makes it ask. -/
theorem handleInput_cases {s : VehicleState} (hs : s.Settled) (hrank : s.phase.rank ≤ 3)
    (now : SteadyTime) (client : ClientAnswers) (input : FrcCombinedData) :
    let handled := step s ⟨now, client, .handleInput input⟩
    let calls := clientCalls handled.2
    (handled.1.phase = s.phase ∧ handled.1.requested = s.requested ∧ dueRequest calls = none ∧
      calls.any ClientCall.isDiscovery = false) ∨
    (s.phase = .initializeState ∧ dueRequest calls = none ∧
      calls.any ClientCall.isDiscovery = true ∧ handled.1.requested = false ∧
      handled.1.phase = if client.discoverVehicle then .controlState else .initializeState) ∨
    (handled.1.phase = s.phase ∧ calls.any ClientCall.isDiscovery = false ∧
      (s.phase = .controlState ∧ dueRequest calls = some .requestControl ∧
          handled.1.requested = client.sendRequestControl ∨
        s.phase = .standbyState ∧ dueRequest calls = some .queryStatus ∧
          handled.1.requested = client.sendRequestResume)) := by
  have hnoPress (b : Bool) (hb : s.rDownPressed = some b) (h : NoPress b input) :
      let handled := step s ⟨now, client, .handleInput input⟩
      handled.1.phase = s.phase ∧ handled.1.requested = s.requested ∧
        dueRequest (clientCalls handled.2) = none ∧
        (clientCalls handled.2).any ClientCall.isDiscovery = false := by
    obtain ⟨-, hphase, hrequested, -⟩ := VehicleState.handleInput_noPress client hb h
    rw [step_noPress hs hb h]
    exact ⟨hphase, hrequested, rfl, rfl⟩
  cases s with
  | initializeState st =>
      cases hpress : isRDown input.keypadData.buttonStatus && !st.rDownPressed with
      | false => exact .inl (hnoPress _ rfl hpress)
      | true =>
          refine .inr (.inl ?_)
          cases hdiscover : client.discoverVehicle <;>
            simp [step, dispatch, VehicleState.handleInput, InitializeState.handleInput, hpress,
              hdiscover, transitionIfNeeded, VehicleState.next, clientCalls, dueRequest,
              ClientCall.isDiscovery, VehicleState.phase, VehicleState.requested,
              VehicleState.enter, ControlState.enter, ControlState.new]
  | controlState st =>
      have hgranted : st.controlGranted = false := VehicleState.settled_controlState.mp hs
      cases hpress : isRDown input.keypadData.buttonStatus && !st.rDownPressed with
      | false => exact .inl (hnoPress _ rfl hpress)
      | true =>
          cases hrequested : st.controlRequested with
          | true =>
              refine .inl ?_
              simp [step, dispatch, VehicleState.handleInput, ControlState.handleInput, hpress,
                hrequested, transitionIfNeeded, VehicleState.next, hgranted, clientCalls,
                dueRequest, VehicleState.phase, VehicleState.requested]
          | false =>
              refine .inr (.inr ?_)
              simp [step, dispatch, VehicleState.handleInput, ControlState.handleInput, hpress,
                hrequested, transitionIfNeeded, VehicleState.next, hgranted, clientCalls,
                dueRequest, ClientCall.isDiscovery, VehicleState.phase, VehicleState.requested]
  | standbyState st =>
      have hready : st.readyStateGranted = false := VehicleState.settled_standbyState.mp hs
      cases hpress : isRDown input.keypadData.buttonStatus && !st.rDownPressed with
      | false => exact .inl (hnoPress _ rfl hpress)
      | true =>
          cases hrequested : st.resumeRequested with
          | true =>
              refine .inl ?_
              simp [step, dispatch, VehicleState.handleInput, StandbyState.handleInput, hpress,
                hrequested, transitionIfNeeded, VehicleState.next, hready, clientCalls,
                dueRequest, VehicleState.phase, VehicleState.requested]
          | false =>
              refine .inr (.inr ?_)
              simp [step, dispatch, VehicleState.handleInput, StandbyState.handleInput, hpress,
                hrequested, transitionIfNeeded, VehicleState.next, hready, clientCalls,
                dueRequest, ClientCall.isDiscovery, VehicleState.phase, VehicleState.requested]
  | readyState st =>
      have hemergency : st.emergencyTriggered = false := VehicleState.settled_readyState.mp hs
      refine .inl ?_
      simp [step, dispatch, VehicleState.handleInput, ReadyState.handleInput, transitionIfNeeded,
        VehicleState.next, hemergency, clientCalls, dueRequest, ClientCall.isDiscovery,
        VehicleState.phase, VehicleState.requested]
  | emergencyState => exact absurd hrank (by decide)
  | shutdownState st => exact absurd hs VehicleState.not_settled_shutdownState

/-- A press that is seen makes the client look for a vehicle, and makes the next two
states ask. -/
theorem handleInput_press {s : VehicleState} (hs : s.Settled) (hb : s.rDownPressed = some false)
    {input : FrcCombinedData} (hdown : isRDown input.keypadData.buttonStatus = true)
    (now : SteadyTime) (client : ClientAnswers) :
    let handled := step s ⟨now, client, .handleInput input⟩
    (s.phase = .initializeState → client.discoverVehicle = true →
        handled.1.phase = .controlState) ∧
      (s.phase = .controlState → client.sendRequestControl = true →
        handled.1.requested = true) ∧
      (s.phase = .standbyState → client.sendRequestResume = true →
        handled.1.requested = true) := by
  cases s with
  | initializeState st =>
      have hup : st.rDownPressed = false := Option.some.inj hb
      refine ⟨fun _ hfound ↦ ?_, by rintro ⟨⟩, by rintro ⟨⟩⟩
      simp [step, dispatch, VehicleState.handleInput, InitializeState.handleInput, hdown, hup,
        hfound, transitionIfNeeded, VehicleState.next, VehicleState.phase]
  | controlState st =>
      have hup : st.rDownPressed = false := Option.some.inj hb
      have hgranted : st.controlGranted = false := VehicleState.settled_controlState.mp hs
      refine ⟨by rintro ⟨⟩, fun _ hsent ↦ ?_, by rintro ⟨⟩⟩
      cases hrequested : st.controlRequested <;>
        simp [step, dispatch, VehicleState.handleInput, ControlState.handleInput, hdown, hup,
          hrequested, hsent, transitionIfNeeded, VehicleState.next, hgranted,
          VehicleState.requested]
  | standbyState st =>
      have hup : st.rDownPressed = false := Option.some.inj hb
      have hready : st.readyStateGranted = false := VehicleState.settled_standbyState.mp hs
      refine ⟨by rintro ⟨⟩, by rintro ⟨⟩, fun _ hsent ↦ ?_⟩
      cases hrequested : st.resumeRequested <;>
        simp [step, dispatch, VehicleState.handleInput, StandbyState.handleInput, hdown, hup,
          hrequested, hsent, transitionIfNeeded, VehicleState.next, hready,
          VehicleState.requested]
  | _ => cases hb

/-- A response changes nothing that matters, or it is looked at in one of the two
states that wait for one: the machine moves on, or it asks again. -/
theorem handleResponse_cases {s : VehicleState} (hs : s.Settled) (now : SteadyTime)
    (client : ClientAnswers) :
    let handled := step s ⟨now, client, .handleResponse⟩
    let calls := clientCalls handled.2
    calls.any ClientCall.isDiscovery = false ∧
    (s.phase = .controlState ∧ client.hasControl = true ∧ handled.1.phase = .standbyState ∧
        handled.1.requested = false ∧ dueRequest calls = none ∨
      s.phase = .controlState ∧ client.hasControl = false ∧ handled.1 = s ∧
        dueRequest calls = some .requestControl ∨
      s.phase = .standbyState ∧ client.hasReadyState = true ∧ handled.1.phase = .readyState ∧
        handled.1.requested = false ∧ dueRequest calls = none ∨
      s.phase = .standbyState ∧ client.hasReadyState = false ∧ handled.1 = s ∧
        dueRequest calls = some .queryStatus ∨
      s.phase ≠ .controlState ∧ s.phase ≠ .standbyState ∧ handled.1 = s ∧
        dueRequest calls = none) := by
  cases s with
  | controlState st =>
      have hgranted : st.controlGranted = false := VehicleState.settled_controlState.mp hs
      cases hcontrol : client.hasControl <;>
        simp [step, dispatch, VehicleState.handleResponse, ControlState.handleResponse, hcontrol,
          transitionIfNeeded, VehicleState.next, hgranted, clientCalls, dueRequest,
          ClientCall.isDiscovery, VehicleState.phase, VehicleState.requested,
          VehicleState.enter, StandbyState.enter, StandbyState.new]
  | standbyState st =>
      have hready : st.readyStateGranted = false := VehicleState.settled_standbyState.mp hs
      cases hstatus : client.hasReadyState <;>
        simp [step, dispatch, VehicleState.handleResponse, StandbyState.handleResponse, hstatus,
          transitionIfNeeded, VehicleState.next, hready, clientCalls, dueRequest,
          ClientCall.isDiscovery, VehicleState.phase, VehicleState.requested,
          VehicleState.enter, ReadyState.enter]
  | _ =>
      simp [step, dispatch, VehicleState.handleResponse, transitionIfNeeded, hs.2, clientCalls,
        dueRequest, VehicleState.phase]

end VehicleStateMachine

/-! ## What holds in every run -/

namespace ControlLoop

abbrev phase (c : ControlLoop Status) : Phase := c.bridge.stateMachine.phase

/-- Answers belong to requests, and the components in the registry have valid
addresses. -/
def Admits (c : ControlLoop Status) : LoopEvent Status → Prop
  | .postInput _ => True
  | .incoming message => c.exchange.Admits message
  | .work _ pdList _ => ∀ valid ∈ pdList, valid = true

instance (c : ControlLoop Status) : (e : LoopEvent Status) → Decidable (c.Admits e)
  | .postInput _ => inferInstanceAs (Decidable True)
  | .incoming message => inferInstanceAs (Decidable (c.exchange.Admits message))
  | .work _ pdList _ => inferInstanceAs (Decidable (∀ valid ∈ pdList, valid = true))

/-- The vehicle has been asked, or will be, or the machine is about to hear of it. -/
def Asking (c : ControlLoop Status) : Prop :=
  c.due ≠ none ∨ c.exchange.calls ≠ [] ∨ c.exchange.client.requestPending = true ∨
    c.exchange.inFlight ≠ [] ∨ .jausResponse ∈ c.bridge.inputQueue

/-- What every run from the start keeps. -/
structure Coherent (c : ControlLoop Status) : Prop where
  running : c.bridge.running = true
  settled : c.bridge.stateMachine.Settled
  rank_le : c.phase.rank ≤ 3
  /-- A vehicle has been found. -/
  serverValid : c.phase ≠ .initializeState → c.exchange.client.serverValid = true
  /-- Nothing is asked before. -/
  silent : c.phase = .initializeState → c.exchange.client.requestPending = false ∧
    c.exchange.inFlight = [] ∧ c.exchange.calls = [] ∧ c.due = none
  /-- The status is not asked for before the vehicle has accepted. -/
  kind : c.phase = .controlState →
    ∀ request ∈ c.exchange.inFlight ++ c.due.toList, request = .requestControl
  /-- A state that does not ask again does not have to. -/
  asked : c.bridge.stateMachine.requested = true → c.Asking

theorem coherent_start (lastJs : FrcCombinedData) (queued : List BridgeMessage)
    (serverValid : Bool) (INITIALIZE : Status) :
    (start lastJs queued serverValid INITIALIZE).Coherent where
  running := rfl
  settled := VehicleStateMachine.start_settled
  rank_le := Nat.zero_le 3
  serverValid h := absurd rfl h
  silent _ := ⟨rfl, rfl, rfl, rfl⟩
  kind := nofun
  asked := nofun

theorem Coherent.postInput {c : ControlLoop Status} (hI : c.Coherent) (input : FrcCombinedData) :
    { c with bridge := (c.bridge.postInput input).1 }.Coherent := by
  obtain ⟨hrunning, hsettled, hrank, hvalid, hsilent, hkind, hasked⟩ := hI
  have hmachine := c.bridge.stateMachine_postInput input
  have hphase := congrArg VehicleState.phase hmachine
  refine ⟨(c.bridge.running_postInput input).trans hrunning, ?_, ?_, ?_, ?_, ?_, ?_⟩
  · exact hmachine ▸ hsettled
  · exact (congrArg (·.phase.rank) hmachine).trans_le hrank
  · exact fun h ↦ hvalid fun h' ↦ h (hphase.trans h')
  · exact fun h ↦ hsilent (hphase.symm.trans h)
  · exact fun h ↦ hkind (hphase.symm.trans h)
  · intro h
    refine (hasked (hmachine ▸ h)).imp_right (Or.imp_right (Or.imp_right (Or.imp_right ?_)))
    intro hmem
    change _ ∈ (c.bridge.postInput input).1.inputQueue
    rw [JausBridge.inputQueue_postInput]
    exact List.mem_append_left _ hmem

theorem Coherent.incoming {c : ControlLoop Status} (hI : c.Coherent) (message : Incoming Status) :
    { c with
      bridge := c.bridge.postJAUSResponse.1
      exchange := c.exchange.incoming message }.Coherent := by
  obtain ⟨hrunning, hsettled, hrank, hvalid, hsilent, hkind, hasked⟩ := hI
  have hexchange : (c.exchange.incoming message).client.serverValid =
        c.exchange.client.serverValid ∧
      (c.exchange.incoming message).client.requestPending = false ∧
      (c.exchange.incoming message).calls = c.exchange.calls ∧
      (c.exchange.incoming message).inFlight ⊆ c.exchange.inFlight := by
    cases message with
    | reportStatus status => exact ⟨rfl, rfl, rfl, List.Subset.refl _⟩
    | _ => exact ⟨rfl, rfl, rfl, List.erase_subset⟩
  obtain ⟨hserver, hpending, hcalls, hinFlight⟩ := hexchange
  refine ⟨hrunning, hsettled, hrank, fun h ↦ hserver.trans (hvalid h), fun h ↦ ?_, fun h ↦ ?_,
    fun _ ↦ ?_⟩
  · obtain ⟨-, hnone, hcallsNil, hdue⟩ := hsilent h
    exact ⟨hpending, List.subset_nil.mp (hnone ▸ hinFlight), hcalls.trans hcallsNil, hdue⟩
  · intro request hmem
    refine hkind h request ?_
    rcases List.mem_append.mp hmem with hmem | hmem
    · exact List.mem_append_left _ (hinFlight hmem)
    · exact List.mem_append_right _ hmem
  · -- the callback has posted a response
    exact .inr (.inr (.inr (.inr (List.mem_append_right _ (List.mem_singleton_self _)))))

/-- The flag is set. -/
theorem Coherent.setPending {c : ControlLoop Status} (hI : c.Coherent) {request : Request}
    (hcalls : c.exchange.calls ≠ []) :
    { c with exchange := (c.exchange.halfStep (.setPending request)).1 }.Coherent where
  running := hI.running
  settled := hI.settled
  rank_le := hI.rank_le
  serverValid := hI.serverValid
  silent h := absurd (hI.silent h).2.2.1 hcalls
  kind := hI.kind
  asked _ := .inr (.inr (.inl rfl))

/-- A request is sent, unless one is pending. -/
theorem Coherent.dispatch {c : ControlLoop Status} (hI : c.Coherent) {request : Request}
    (hdue : c.due = some request) :
    { c with
      exchange := (c.exchange.halfStep (.dispatch request)).1
      due := none }.Coherent := by
  have hphase : c.phase ≠ .initializeState := fun h ↦ by
    have hnone := (hI.silent h).2.2.2
    rw [hdue] at hnone
    cases hnone
  refine ⟨hI.running, hI.settled, hI.rank_le, hI.serverValid, fun h ↦ absurd h hphase,
    fun h r hr ↦ ?_, fun _ ↦ ?_⟩
  · refine hI.kind h r ?_
    rw [hdue]
    change r ∈ (c.exchange.inFlight ++ (c.exchange.client.dispatch request).1.toList) ++ [] at hr
    rw [c.exchange.client.dispatch_fst, List.append_nil] at hr
    split at hr
    · exact hr
    · exact List.mem_append_left _ (by simpa using hr)
  · cases hpending : c.exchange.client.requestPending with
    | true => exact .inr (.inr (.inl hpending))
    | false =>
        refine .inr (.inr (.inr (.inl ?_)))
        change c.exchange.inFlight ++ (c.exchange.client.dispatch request).1.toList ≠ []
        rw [c.exchange.client.dispatch_fst, if_pos ⟨hI.serverValid hphase, hpending⟩]
        exact List.append_ne_nil_of_right_ne_nil _ (List.cons_ne_nil _ _)

variable [DecidableEq Status] {READY : Status}

/-- An input changes nothing that matters, or it is a press. -/
theorem handle_input_cases (READY : Status) {c : ControlLoop Status} (hI : c.Coherent)
    (now : SteadyTime) {pdList : List Bool} (hvalid : ∀ valid ∈ pdList, valid = true)
    (name : String) (input : FrcCombinedData) (rest : List BridgeMessage) :
    let d := (c.handle READY now pdList name (.joystickInput input) rest).1
    (d.phase = c.phase ∧ d.bridge.stateMachine.requested = c.bridge.stateMachine.requested ∧
      d.due = none ∧ d.exchange = c.exchange) ∨
    (c.phase = .initializeState ∧ d.bridge.stateMachine.requested = false ∧ d.due = none ∧
      d.exchange = { c.exchange with client := (c.exchange.client.discoverVehicle pdList).1 } ∧
      (d.phase = .initializeState ∨
        d.phase = .controlState ∧ d.exchange.client.serverValid = true)) ∨
    (d.phase = c.phase ∧ d.exchange = c.exchange ∧
      d.bridge.stateMachine.requested = c.exchange.client.serverValid ∧
      (c.phase = .controlState ∧ d.due = some .requestControl ∨
        c.phase = .standbyState ∧ d.due = some .queryStatus)) := by
  rcases VehicleStateMachine.handleInput_cases hI.settled hI.rank_le now
    (c.exchange.client.answers READY pdList name) input with
    ⟨hphase, hrequested, hdue, hdiscovery⟩ | ⟨hinit, hdue, hdiscovery, hrequested, hphase⟩ |
    ⟨hphase, hdiscovery, hask⟩
  · exact .inl ⟨hphase, hrequested, hdue, if_neg (Bool.eq_false_iff.mp hdiscovery)⟩
  · have hexchange : (c.handle READY now pdList name (.joystickInput input) rest).1.exchange =
        { c.exchange with client := (c.exchange.client.discoverVehicle pdList).1 } :=
      if_pos hdiscovery
    refine .inr (.inl ⟨hinit, hrequested, hdue, hexchange, ?_⟩)
    cases pdList with
    | nil => exact .inl hphase
    | cons valid others =>
        refine .inr ⟨hphase, ?_⟩
        rw [hexchange]
        exact hvalid valid (List.mem_cons_self ..)
  · refine .inr (.inr ⟨hphase, if_neg (Bool.eq_false_iff.mp hdiscovery), ?_⟩)
    rcases hask with ⟨hcontrol, hdue, hrequested⟩ | ⟨hstandby, hdue, hrequested⟩
    · exact ⟨hrequested.trans c.exchange.client.sendRequestControl_answer, .inl ⟨hcontrol, hdue⟩⟩
    · exact ⟨hrequested, .inr ⟨hstandby, hdue⟩⟩

/-- A response is looked at in the two states that wait for one. -/
theorem handle_response_cases (READY : Status) {c : ControlLoop Status} (hI : c.Coherent)
    (now : SteadyTime) (pdList : List Bool) (name : String) (rest : List BridgeMessage) :
    let d := (c.handle READY now pdList name .jausResponse rest).1
    d.exchange = c.exchange ∧
    (c.phase = .controlState ∧ c.exchange.client.controlGranted = true ∧
        d.phase = .standbyState ∧ d.bridge.stateMachine.requested = false ∧ d.due = none ∨
      c.phase = .controlState ∧ c.exchange.client.controlGranted = false ∧
        d.bridge.stateMachine = c.bridge.stateMachine ∧ d.due = some .requestControl ∨
      c.phase = .standbyState ∧ c.exchange.client.currentStatus = READY ∧
        d.phase = .readyState ∧ d.bridge.stateMachine.requested = false ∧ d.due = none ∨
      c.phase = .standbyState ∧ c.exchange.client.currentStatus ≠ READY ∧
        d.bridge.stateMachine = c.bridge.stateMachine ∧ d.due = some .queryStatus ∨
      c.phase ≠ .controlState ∧ c.phase ≠ .standbyState ∧
        d.bridge.stateMachine = c.bridge.stateMachine ∧ d.due = none) := by
  obtain ⟨hdiscovery, hcases⟩ := VehicleStateMachine.handleResponse_cases hI.settled now
    (c.exchange.client.answers READY pdList name)
  refine ⟨if_neg (Bool.eq_false_iff.mp hdiscovery), ?_⟩
  rcases hcases with h | h | ⟨hphase, hready, h⟩ | ⟨hphase, hready, h⟩ | h
  · exact .inl h
  · exact .inr (.inl h)
  · exact .inr (.inr (.inl ⟨hphase, of_decide_eq_true hready, h⟩))
  · exact .inr (.inr (.inr (.inl ⟨hphase, of_decide_eq_false hready, h⟩)))
  · exact .inr (.inr (.inr (.inr h)))

omit [DecidableEq Status] in
/-- A message is handled, and the exchange is none the worse for it. -/
theorem Coherent.of_exchange_eq {c d : ControlLoop Status} (hI : c.Coherent)
    (hcalls : c.exchange.calls = []) (hrunning : d.bridge.running = true)
    (hsettled : d.bridge.stateMachine.Settled) (hrank : d.phase.rank ≤ 3)
    (hexchange : d.exchange = c.exchange)
    (hphase : d.phase = c.phase ∨
      c.phase ≠ .initializeState ∧ d.phase ≠ .initializeState ∧ d.phase ≠ .controlState)
    (hdue : d.due = none ∨ d.phase = .controlState ∧ d.due = some .requestControl ∨
      d.phase = .standbyState)
    (hasked : d.bridge.stateMachine.requested = true → d.Asking) : d.Coherent where
  running := hrunning
  settled := hsettled
  rank_le := hrank
  serverValid h := by
    rw [hexchange]
    rcases hphase with hsame | ⟨hc, -⟩
    · exact hI.serverValid (hsame ▸ h)
    · exact hI.serverValid hc
  silent h := by
    rcases hphase with hsame | ⟨-, hd, -⟩
    · obtain ⟨hpending, hnone, -, -⟩ := hI.silent (hsame.symm.trans h)
      refine ⟨hexchange ▸ hpending, hexchange ▸ hnone, hexchange ▸ hcalls, ?_⟩
      rcases hdue with hdue | ⟨hcontrol, -⟩ | hstandby
      · exact hdue
      · rw [h] at hcontrol
        cases hcontrol
      · rw [h] at hstandby
        cases hstandby
    · exact absurd h hd
  kind h := by
    rcases hphase with hsame | ⟨-, -, hd⟩
    · intro request hmem
      rw [hexchange] at hmem
      rcases List.mem_append.mp hmem with hmem | hmem
      · exact hI.kind (hsame.symm.trans h) request (List.mem_append_left _ hmem)
      · rcases hdue with hdue | ⟨-, hdue⟩ | hstandby
        · rw [hdue] at hmem
          cases hmem
        · rw [hdue] at hmem
          exact List.mem_singleton.mp hmem
        · rw [h] at hstandby
          cases hstandby
    · exact absurd h hd
  asked := hasked

/-- A message is handled. -/
theorem Coherent.handle {c : ControlLoop Status} (hI : c.Coherent) {now : SteadyTime}
    {pdList : List Bool} {name : String} {msg : BridgeMessage} {rest : List BridgeMessage}
    (hcalls : c.exchange.calls = []) (hdue : c.due = none)
    (hqueue : c.bridge.inputQueue = msg :: rest) (hvalid : ∀ valid ∈ pdList, valid = true) :
    (c.handle READY now pdList name msg rest).1.Coherent := by
  have hsettled : (c.handle READY now pdList name msg rest).1.bridge.stateMachine.Settled :=
    (VehicleStateMachine.step_phase hI.settled _).1
  have hrunning : (c.handle READY now pdList name msg rest).1.bridge.running = true := hI.running
  have hasking (hd : (c.handle READY now pdList name msg rest).1.due ≠ none) :
      (c.handle READY now pdList name msg rest).1.Asking := .inl hd
  cases msg with
  | joystickInput input =>
      rcases handle_input_cases READY hI now hvalid name input rest with
        ⟨hphase, hrequested, hnone, hexchange⟩ |
        ⟨hinit, hrequested, hnone, hexchange, hphase⟩ | ⟨hphase, hexchange, -, hdue'⟩
      · refine hI.of_exchange_eq hcalls hrunning hsettled (hphase ▸ hI.rank_le) hexchange
          (.inl hphase) (.inl hnone) fun h ↦ ?_
        have hold := hI.asked (hrequested ▸ h)
        rw [Asking, hdue, hqueue] at hold
        rw [Asking, hexchange, hnone]
        -- the message that was handled is no response
        simpa [ControlLoop.handle] using hold
      · obtain ⟨hpending, hinFlight, -, -⟩ := hI.silent hinit
        have hserver (pdList : List Bool) :
            (c.exchange.client.discoverVehicle pdList).1.requestPending = false := by
          cases pdList <;> exact hpending
        refine ⟨hrunning, hsettled, ?_, fun h ↦ ?_, fun _ ↦ ?_, fun _ request hmem ↦ ?_, fun h ↦ ?_⟩
        · rcases hphase with hphase | ⟨hphase, -⟩ <;> rw [hphase] <;> decide
        · rcases hphase with hphase | ⟨-, hserver⟩
          · exact absurd hphase h
          · exact hserver
        · rw [hexchange]
          exact ⟨hserver pdList, hinFlight, hcalls, hnone⟩
        · rw [hexchange, hnone, hinFlight] at hmem
          cases hmem
        · rw [hrequested] at h
          cases h
      · refine hI.of_exchange_eq hcalls hrunning hsettled (hphase ▸ hI.rank_le) hexchange
          (.inl hphase) (.inr ?_) fun _ ↦ hasking ?_
        · rw [hphase]
          exact hdue'.imp_right And.left
        · rcases hdue' with ⟨-, hdue'⟩ | ⟨-, hdue'⟩ <;> rw [hdue'] <;> exact Option.some_ne_none _
  | jausResponse =>
      obtain ⟨hexchange, h⟩ := handle_response_cases READY hI now pdList name rest
      rcases h with ⟨hold, -, hnew, hrequested, hnone⟩ | ⟨hold, -, hsame, hdue'⟩ |
        ⟨hold, -, hnew, hrequested, hnone⟩ | ⟨hold, -, hsame, hdue'⟩ |
        ⟨hcontrol, hstandby, hsame, hnone⟩
      · refine hI.of_exchange_eq hcalls hrunning hsettled ?_ hexchange (.inr ?_) (.inl hnone)
          fun h ↦ ?_
        · rw [hnew]
          decide
        · rw [hold, hnew]
          decide
        · rw [hrequested] at h
          cases h
      · have hphase := congrArg VehicleState.phase hsame
        refine hI.of_exchange_eq hcalls hrunning hsettled
          ((congrArg Phase.rank hphase).trans_le hI.rank_le) hexchange (.inl hphase)
          (.inr (.inl ⟨hphase.trans hold, hdue'⟩)) fun _ ↦ hasking ?_
        rw [hdue']
        exact Option.some_ne_none _
      · refine hI.of_exchange_eq hcalls hrunning hsettled ?_ hexchange (.inr ?_) (.inl hnone)
          fun h ↦ ?_
        · rw [hnew]
          decide
        · rw [hold, hnew]
          decide
        · rw [hrequested] at h
          cases h
      · have hphase := congrArg VehicleState.phase hsame
        refine hI.of_exchange_eq hcalls hrunning hsettled
          ((congrArg Phase.rank hphase).trans_le hI.rank_le) hexchange (.inl hphase)
          (.inr (.inr (hphase.trans hold))) fun _ ↦ hasking ?_
        rw [hdue']
        exact Option.some_ne_none _
      · have hphase := congrArg VehicleState.phase hsame
        refine hI.of_exchange_eq hcalls hrunning hsettled
          ((congrArg Phase.rank hphase).trans_le hI.rank_le) hexchange (.inl hphase) (.inl hnone)
          fun h ↦ ?_
        rw [hsame] at h
        rcases VehicleState.phase_of_requested h with h | h
        · exact absurd h hcontrol
        · exact absurd h hstandby

/-- **One event.** -/
theorem Coherent.step {c : ControlLoop Status} (hI : c.Coherent) {e : LoopEvent Status}
    (hadmits : c.Admits e) : (c.step READY e).1.Coherent := by
  cases e with
  | postInput input => exact hI.postInput input
  | incoming message => exact hI.incoming message
  | work now pdList name =>
      rw [ControlLoop.step]
      rcases c.work_cases READY now pdList name with ⟨request, rest, hcalls, hwork⟩ |
        ⟨request, -, hdue, hwork⟩ | ⟨hcalls, hdue, ⟨-, hwork⟩ | ⟨msg, rest, -, hqueue, hwork⟩⟩
      · rw [hwork]
        exact hI.setPending (by rw [hcalls]; exact List.cons_ne_nil _ _)
      · rw [hwork]
        exact hI.dispatch hdue
      · rw [hwork]
        exact hI
      · rw [hwork]
        exact hI.handle hcalls hdue hqueue hadmits

end ControlLoop

end FortAgent.Jaus
