import FortAgent.Jaus.Bridge
import FortAgent.Jaus.Client

/-!
# The control loop

The machine asks the client and the client asks the vehicle; the vehicle answers the
client, and the client tells the bridge that there is something to look at.  Here the
parts meet: a `ControlLoop` is a bridge whose machine talks to the client of an
exchange.  The answers that the other files leave open are now what the client makes
of the messages that have come in.

The service thread and the thread of OpenJAUS are interleaved where it matters.  A
state asks for one request at the most while it handles a message, and does nothing
after it that depends on what the request has become.  So the thread handles a
message in three steps: the state does all it does but the request, which is then
`due`; the request is sent; the flag is set.  Between them anything may come in.

`drives_on_evidence` says what the operator's authority rests on in the end: on what
the vehicle has said.
-/

namespace FortAgent.Jaus

open Joystick Transducer

variable {Status : Type}

/-! ## The answers of the client -/

namespace JAUSClientImpl

/-- What a request for control returns does not depend on what is pending. -/
theorem sendRequestControl_answer (client : JAUSClientImpl Status) :
    client.sendRequestControl.2.2 = client.serverValid := by
  rw [sendRequestControl, call, dispatch]
  cases client.serverValid with
  | false => rfl
  | true => cases client.requestPending <;> rfl

variable [DecidableEq Status]

def hasControl (client : JAUSClientImpl Status) : Bool := client.controlGranted

def hasReadyState (READY : Status) (client : JAUSClientImpl Status) : Bool :=
  client.currentStatus = READY

/-- A Resume is sent to a valid address; it is not waited for. -/
def sendRequestResume (client : JAUSClientImpl Status) : Bool := client.serverValid

/-- A placeholder in the source. -/
def isHeartbeatAlive (_ : JAUSClientImpl Status) : Bool := true

/-- What the client answers if it is asked, with these components in the registry.
What a call for the status returns nobody looks at. -/
def answers (READY : Status) (client : JAUSClientImpl Status) (pdList : List Bool)
    (name : String) : ClientAnswers where
  discoverVehicle := (client.discoverVehicle pdList).2
  getComponentName := name
  sendRequestControl := client.sendRequestControl.2.2
  hasControl := client.hasControl
  sendRequestResume := client.sendRequestResume
  queryStatus := client.queryStatus.2.2
  hasReadyState := client.hasReadyState READY
  isHeartbeatAlive := client.isHeartbeatAlive

end JAUSClientImpl

/-- The answers of a call are those of the client. -/
def ClientCall.AnsweredBy (client : ClientAnswers) : ClientCall → Prop
  | .discoverVehicle found => found = client.discoverVehicle
  | .getComponentName name => name = client.getComponentName
  | .sendRequestControl sent => sent = client.sendRequestControl
  | .hasControl granted => granted = client.hasControl
  | .sendRequestResume sent => sent = client.sendRequestResume
  | .queryStatus sent => sent = client.queryStatus
  | .hasReadyState ready => ready = client.hasReadyState
  | .isHeartbeatAlive alive => alive = client.isHeartbeatAlive
  | .sendWrenchEffort _ => True

theorem VehicleStateMachine.answeredBy_of_mem_clientCalls (s : VehicleState) (t : Tick) :
    ∀ c ∈ clientCalls (step s t).2, c.AnsweredBy t.client := by
  rw [clientCalls_step]
  obtain ⟨now, client, call⟩ := t
  cases call with
  | handleInput msg =>
      cases s <;> simp only [dispatch, VehicleState.handleInput, VehicleState.through_snd,
        InitializeState.handleInput, ControlState.handleInput, StandbyState.handleInput,
        ReadyState.handleInput, ShutdownState.handleInput]
      all_goals repeat' split
      all_goals simp [clientCalls, ClientCall.AnsweredBy]
  | handleResponse =>
      cases s <;> simp only [dispatch, VehicleState.handleResponse, VehicleState.through_snd,
        ControlState.handleResponse, StandbyState.handleResponse]
      all_goals repeat' split
      all_goals simp [clientCalls, ClientCall.AnsweredBy]
  | update =>
      cases s <;> simp only [dispatch, VehicleState.update, VehicleState.through_snd,
        ReadyState.update, ReadyState.checkHeartbeat]
      all_goals repeat' split
      all_goals simp [clientCalls, ClientCall.AnsweredBy]

/-! ## The loop -/

/-- A bridge, the exchange its machine has with the vehicle, and the request that the
machine is about to make. -/
structure ControlLoop (Status : Type) where
  bridge : JausBridge
  exchange : Exchange Status
  due : Option Request
deriving DecidableEq, Repr

/-- A report of the joystick, a message of the vehicle, or a step of the service thread.
The thread may read the clock and look into the registry. -/
inductive LoopEvent (Status : Type)
  | postInput (input : FrcCombinedData)
  | incoming (message : Incoming Status)
  | work (now : SteadyTime) (pdList : List Bool) (name : String)
deriving DecidableEq, Repr

/-- The message that comes in, if one does. -/
def LoopEvent.message? : LoopEvent Status → Option (Incoming Status)
  | .incoming message => some message
  | _ => none

/-- Whether the vehicle accepts, if the message answers a request for control. -/
def Incoming.accepted? : Incoming Status → Option Bool
  | .requestControlResponse accepted => some accepted
  | _ => none

/-- The status that is reported, if one is. -/
def Incoming.status? : Incoming Status → Option Status
  | .reportStatusAnswer status | .reportStatus status => some status
  | _ => none

/-- The request among some calls of the client. -/
def dueRequest (calls : List ClientCall) : Option Request :=
  calls.findSome? fun
    | .sendRequestControl _ => some .requestControl
    | .queryStatus _ => some .queryStatus
    | _ => none

def ClientCall.isDiscovery : ClientCall → Bool
  | .discoverVehicle _ => true
  | _ => false

/-- One recorded event of a control loop. -/
abbrev LoopStep (Status : Type) := Step (ControlLoop Status) (LoopEvent Status) (List Effect)

namespace ControlLoop

variable [DecidableEq Status]

/-- The loop is started, with the flags of the client as they are initialised. -/
def start (lastJs : FrcCombinedData) (queued : List BridgeMessage) (serverValid : Bool)
    (INITIALIZE : Status) : ControlLoop Status where
  bridge := .startServiceLoop lastJs queued
  exchange := ⟨⟨serverValid, false, false, INITIALIZE⟩, [], []⟩
  due := none

/-- What the machine hears when it handles a message. -/
def tick (READY : Status) (c : ControlLoop Status) (now : SteadyTime) (pdList : List Bool)
    (name : String) (msg : BridgeMessage) : Tick :=
  ⟨now, c.exchange.client.answers READY pdList name, msg.call⟩

/-- What handling the message at the front of the queue comes to. -/
def handle (READY : Status) (c : ControlLoop Status) (now : SteadyTime) (pdList : List Bool)
    (name : String) (msg : BridgeMessage) (rest : List BridgeMessage) :
    ControlLoop Status × List Effect :=
  let handled := VehicleStateMachine.step c.bridge.stateMachine (c.tick READY now pdList name msg)
  let calls := clientCalls handled.2
  ({ bridge := { c.bridge with inputQueue := rest, stateMachine := handled.1 }
     exchange :=
      if calls.any ClientCall.isDiscovery then (c.exchange.halfStep (.discoverVehicle pdList)).1
      else c.exchange
     due := dueRequest calls }, handled.2)

/-- An iteration of the service loop up to the request. -/
def serve (READY : Status) (c : ControlLoop Status) (now : SteadyTime) (pdList : List Bool)
    (name : String) : ControlLoop Status × List Effect :=
  let client := c.exchange.client
  let served := c.bridge.serviceLoop
    ⟨fun _ ↦ client.hasControl, fun _ ↦ client.isHeartbeatAlive⟩ now
    (client.answers READY pdList name)
  let calls := clientCalls served.2.effects
  ({ bridge := served.1
     exchange :=
      if calls.any ClientCall.isDiscovery then (c.exchange.halfStep (.discoverVehicle pdList)).1
      else c.exchange
     due := dueRequest calls }, served.2.effects)

/-- The next step of the service thread. -/
def work (READY : Status) (c : ControlLoop Status) (now : SteadyTime) (pdList : List Bool)
    (name : String) : ControlLoop Status × List Effect :=
  match c.exchange.calls, c.due with
  | request :: _, _ => ({ c with exchange := (c.exchange.halfStep (.setPending request)).1 }, [])
  | [], some request =>
    ({ c with exchange := (c.exchange.halfStep (.dispatch request)).1, due := none }, [])
  | [], none => c.serve READY now pdList name

/-- Every callback that is modelled posts a response. -/
def step (READY : Status) (c : ControlLoop Status) :
    LoopEvent Status → ControlLoop Status × List Effect
  | .postInput input => ({ c with bridge := (c.bridge.postInput input).1 }, [])
  | .incoming message =>
    ({ c with
        bridge := c.bridge.postJAUSResponse.1
        exchange := c.exchange.incoming message }, [])
  | .work now pdList name => c.work READY now pdList name

/-- The run of a control loop that has just been started. -/
abbrev run (READY : Status) (lastJs : FrcCombinedData) (queued : List BridgeMessage)
    (serverValid : Bool) (INITIALIZE : Status) (es : List (LoopEvent Status)) :
    List (LoopStep Status) :=
  history (step READY) (start lastJs queued serverValid INITIALIZE) es

/-! ## One step of the service thread -/

/-- The thread sets the flag, or sends a request, or handles a message if it finds one. -/
theorem work_cases (READY : Status) (c : ControlLoop Status) (now : SteadyTime)
    (pdList : List Bool) (name : String) :
    (∃ request rest, c.exchange.calls = request :: rest ∧ c.work READY now pdList name =
      ({ c with exchange := (c.exchange.halfStep (.setPending request)).1 }, [])) ∨
    (∃ request, c.exchange.calls = [] ∧ c.due = some request ∧ c.work READY now pdList name =
      ({ c with exchange := (c.exchange.halfStep (.dispatch request)).1, due := none }, [])) ∨
    c.exchange.calls = [] ∧ c.due = none ∧
      ((c.bridge.running = false ∨ c.bridge.inputQueue = []) ∧
        c.work READY now pdList name = (c, []) ∨
      ∃ msg rest, c.bridge.running = true ∧ c.bridge.inputQueue = msg :: rest ∧
        c.work READY now pdList name = c.handle READY now pdList name msg rest) := by
  unfold work
  cases hcalls : c.exchange.calls with
  | cons request rest => exact .inl ⟨request, rest, rfl, rfl⟩
  | nil =>
      cases hdue : c.due with
      | some request => exact .inr (.inl ⟨request, rfl, rfl, rfl⟩)
      | none =>
          refine .inr (.inr ⟨rfl, rfl, ?_⟩)
          rcases c.bridge.serviceLoop_cases
            ⟨fun _ ↦ c.exchange.client.hasControl, fun _ ↦ c.exchange.client.isHeartbeatAlive⟩ now
            (c.exchange.client.answers READY pdList name) with
            ⟨hidle, -, hserve⟩ | ⟨msg, rest, hrunning, hqueue, -, hserve⟩
          · refine .inl ⟨hidle, ?_⟩
            obtain ⟨bridge, exchange, due⟩ := c
            obtain rfl : due = none := hdue
            simp only [serve, hserve]
            rfl
          · refine .inr ⟨msg, rest, hrunning, hqueue, ?_⟩
            simp only [serve, hserve]
            rfl

/-- An event leaves the machine alone and has no effects, or the machine handles a
message and hears the client as it then is. -/
theorem machine_cases (READY : Status) (c : ControlLoop Status) (e : LoopEvent Status) :
    (c.step READY e).1.bridge.stateMachine = c.bridge.stateMachine ∧ (c.step READY e).2 = [] ∨
    ∃ now pdList name msg, e = .work now pdList name ∧
      (c.step READY e).1.bridge.stateMachine =
        (VehicleStateMachine.step c.bridge.stateMachine (c.tick READY now pdList name msg)).1 ∧
      (c.step READY e).2 =
        (VehicleStateMachine.step c.bridge.stateMachine (c.tick READY now pdList name msg)).2 := by
  cases e with
  | postInput input => exact .inl ⟨c.bridge.stateMachine_postInput input, rfl⟩
  | incoming message => exact .inl ⟨rfl, rfl⟩
  | work now pdList name =>
      rw [step]
      rcases c.work_cases READY now pdList name with ⟨_, _, -, hwork⟩ |
        ⟨_, -, -, hwork⟩ | ⟨-, -, ⟨-, hwork⟩ | ⟨msg, rest, -, -, hwork⟩⟩
      · exact .inl (by rw [hwork]; exact ⟨rfl, rfl⟩)
      · exact .inl (by rw [hwork]; exact ⟨rfl, rfl⟩)
      · exact .inl (by rw [hwork]; exact ⟨rfl, rfl⟩)
      · exact .inr ⟨now, pdList, name, msg, rfl, by rw [hwork]; rfl, by rw [hwork]; rfl⟩

/-- What the client remembers of the vehicle changes with what comes in, and with
nothing else. -/
theorem client_step (READY : Status) (c : ControlLoop Status) (e : LoopEvent Status) :
    (c.step READY e).1.exchange.client.controlGranted =
        (e.message?.bind Incoming.accepted?).getD c.exchange.client.controlGranted ∧
      (c.step READY e).1.exchange.client.currentStatus =
        (e.message?.bind Incoming.status?).getD c.exchange.client.currentStatus := by
  have hdiscover (pdList : List Bool) :
      (c.exchange.client.discoverVehicle pdList).1.controlGranted =
          c.exchange.client.controlGranted ∧
        (c.exchange.client.discoverVehicle pdList).1.currentStatus =
          c.exchange.client.currentStatus := by
    cases pdList <;> exact ⟨rfl, rfl⟩
  cases e with
  | postInput input => exact ⟨rfl, rfl⟩
  | incoming message => cases message <;> exact ⟨rfl, rfl⟩
  | work now pdList name =>
      rw [step]
      rcases c.work_cases READY now pdList name with ⟨_, _, -, hwork⟩ |
        ⟨_, -, -, hwork⟩ | ⟨-, -, ⟨-, hwork⟩ | ⟨msg, rest, -, -, hwork⟩⟩
      · rw [hwork]; exact ⟨rfl, rfl⟩
      · rw [hwork]; exact ⟨rfl, rfl⟩
      · rw [hwork]; exact ⟨rfl, rfl⟩
      · rw [hwork, handle]
        dsimp only
        split
        · exact hdiscover pdList
        · exact ⟨rfl, rfl⟩

end ControlLoop

/-! ## Evidence -/

theorem Phase.rank_injective {p q : Phase} (h : p.rank = q.rank) : p = q := by
  cases p <;> cases q <;> first | rfl | cases h

/-- The messages that have come in, oldest first. -/
def messages (h : List (LoopStep Status)) : List (Incoming Status) :=
  h.filterMap fun r ↦ r.input.message?

theorem messages_concat (h : List (LoopStep Status)) (r : LoopStep Status) :
    messages (h ++ [r]) = messages h ++ r.input.message?.toList := by
  rw [messages, List.filterMap_append, messages]
  cases hmessage : r.input.message? <;> simp [hmessage]

/-- The answers to the requests for control, oldest first. -/
def controlResponses (h : List (LoopStep Status)) : List Bool :=
  (messages h).filterMap Incoming.accepted?

/-- The statuses reported, asked for or not, oldest first. -/
def reportedStatuses (h : List (LoopStep Status)) : List Status :=
  (messages h).filterMap Incoming.status?

theorem controlResponses_concat (h : List (LoopStep Status)) (r : LoopStep Status) :
    controlResponses (h ++ [r]) =
      controlResponses h ++ (r.input.message?.bind Incoming.accepted?).toList := by
  rw [controlResponses, messages_concat, List.filterMap_append, controlResponses]
  cases r.input.message? with
  | none => rfl
  | some message => cases message <;> rfl

theorem reportedStatuses_concat (h : List (LoopStep Status)) (r : LoopStep Status) :
    reportedStatuses (h ++ [r]) =
      reportedStatuses h ++ (r.input.message?.bind Incoming.status?).toList := by
  rw [reportedStatuses, messages_concat, List.filterMap_append, reportedStatuses]
  cases r.input.message? with
  | none => rfl
  | some message => cases message <;> rfl

section

variable [DecidableEq Status] {READY INITIALIZE : Status}

/-- The evidence for a state that a message makes the machine enter. -/
theorem evidence_of_entered (READY : Status) {c : ControlLoop Status}
    (hs : c.bridge.stateMachine.Settled) {now : SteadyTime} {pdList : List Bool} {name : String}
    {msg : BridgeMessage} {p : Phase}
    (hp : p ∈ enteredPhases
      (VehicleStateMachine.step c.bridge.stateMachine (c.tick READY now pdList name msg)).2) :
    (p = .standbyState → c.exchange.client.controlGranted = true) ∧
      (p = .readyState → c.exchange.client.currentStatus = READY) := by
  have hanswers := VehicleStateMachine.answeredBy_of_mem_clientCalls c.bridge.stateMachine
    (c.tick READY now pdList name msg)
  obtain ⟨hlicense, hrank⟩ := VehicleStateMachine.licenses_of_entered hs hp
  constructor
  · rintro rfl
    have hphase : c.bridge.stateMachine.phase = .controlState :=
      Phase.rank_injective (Nat.succ.inj hrank).symm
    rw [hphase] at hlicense
    exact (hanswers _ hlicense.2).symm
  · rintro rfl
    have hphase : c.bridge.stateMachine.phase = .standbyState :=
      Phase.rank_injective (Nat.succ.inj hrank).symm
    rw [hphase] at hlicense
    exact of_decide_eq_true (hanswers _ hlicense.2).symm

/-- What the history `h` of a control loop now at `c` has established. -/
structure Evidence (READY INITIALIZE : Status) (h : List (LoopStep Status))
    (c : ControlLoop Status) : Prop where
  settled : c.bridge.stateMachine.Settled
  granted : c.exchange.client.controlGranted = (controlResponses h).getLast?.getD false
  status : c.exchange.client.currentStatus = (reportedStatuses h).getLast?.getD INITIALIZE
  /-- Beyond `ControlState` the vehicle has accepted. -/
  accepted : 2 ≤ c.bridge.stateMachine.phase.rank → true ∈ controlResponses h
  /-- Beyond `StandbyState` it has been ready. -/
  ready : 3 ≤ c.bridge.stateMachine.phase.rank → READY ∈ reportedStatuses h

theorem eq_some_of_getD_ne {α : Type} {o : Option α} {x y : α} (hne : y ≠ x)
    (h : o.getD y = x) : o = some x := by
  cases o with
  | none => exact absurd h hne
  | some z => exact congrArg some h

/-- A message that is handled takes the machine no further than the evidence goes. -/
theorem Evidence.machine (hinit : INITIALIZE ≠ READY) {h : List (LoopStep Status)}
    {c : ControlLoop Status} (hI : Evidence READY INITIALIZE h c) (now : SteadyTime)
    (pdList : List Bool) (name : String) (msg : BridgeMessage) :
    let s := (VehicleStateMachine.step c.bridge.stateMachine
      (c.tick READY now pdList name msg)).1
    s.Settled ∧ (2 ≤ s.phase.rank → true ∈ controlResponses h) ∧
      (3 ≤ s.phase.rank → READY ∈ reportedStatuses h) := by
  intro s
  obtain ⟨hsettled, ⟨hphase, -⟩ | ⟨-, hrank, hone⟩⟩ :=
    VehicleStateMachine.step_phase hI.settled (c.tick READY now pdList name msg)
  · refine ⟨hsettled, ?_⟩
    rw [hphase]
    exact ⟨hI.accepted, hI.ready⟩
  · obtain ⟨hstandby, hready⟩ := evidence_of_entered READY hI.settled (by
      rw [hone]
      exact List.mem_singleton_self _)
    have hrank : s.phase.rank = c.bridge.stateMachine.phase.rank + 1 := hrank
    refine ⟨hsettled, fun hle ↦ ?_, fun hle ↦ ?_⟩
    · rcases Nat.eq_or_lt_of_le hle with heq | hlt
      · refine List.mem_of_getLast? (eq_some_of_getD_ne Bool.false_ne_true ?_)
        rw [← hI.granted]
        exact hstandby (Phase.rank_injective heq.symm)
      · exact hI.accepted (by omega)
    · rcases Nat.eq_or_lt_of_le hle with heq | hlt
      · refine List.mem_of_getLast? (eq_some_of_getD_ne hinit ?_)
        rw [← hI.status]
        exact hready (Phase.rank_injective heq.symm)
      · exact hI.ready (by omega)

theorem Evidence.step (hinit : INITIALIZE ≠ READY) {h : List (LoopStep Status)}
    {c : ControlLoop Status} (hI : Evidence READY INITIALIZE h c) (e : LoopEvent Status) :
    Evidence READY INITIALIZE (h ++ [record (ControlLoop.step READY) c e])
      (c.step READY e).1 := by
  have hcontrol := controlResponses_concat h (record (ControlLoop.step READY) c e)
  have hreported := reportedStatuses_concat h (record (ControlLoop.step READY) c e)
  have hmachine : (c.step READY e).1.bridge.stateMachine.Settled ∧
      (2 ≤ (c.step READY e).1.bridge.stateMachine.phase.rank → true ∈ controlResponses h) ∧
      (3 ≤ (c.step READY e).1.bridge.stateMachine.phase.rank → READY ∈ reportedStatuses h) := by
    rcases c.machine_cases READY e with ⟨hsame, -⟩ | ⟨now, pdList, name, msg, -, hmoved, -⟩
    · rw [hsame]
      exact ⟨hI.settled, hI.accepted, hI.ready⟩
    · rw [hmoved]
      exact hI.machine hinit now pdList name msg
  obtain ⟨hsettled, haccepted, hready⟩ := hmachine
  obtain ⟨hgranted, hstatus⟩ := c.client_step READY e
  refine ⟨hsettled, ?_, ?_, fun hle ↦ ?_, fun hle ↦ ?_⟩
  · rw [hgranted, hcontrol, hI.granted, record_input]
    cases e.message?.bind Incoming.accepted? with
    | none => rw [Option.toList_none, List.append_nil, Option.getD_none]
    | some accepted => rw [Option.toList_some, List.getLast?_concat]; rfl
  · rw [hstatus, hreported, hI.status, record_input]
    cases e.message?.bind Incoming.status? with
    | none => rw [Option.toList_none, List.append_nil, Option.getD_none]
    | some status => rw [Option.toList_some, List.getLast?_concat]; rfl
  · rw [hcontrol]
    exact List.mem_append_left _ (haccepted hle)
  · rw [hreported]
    exact List.mem_append_left _ (hready hle)

theorem evidence_run (hinit : INITIALIZE ≠ READY) (lastJs : FrcCombinedData)
    (queued : List BridgeMessage) (serverValid : Bool) (es : List (LoopEvent Status)) :
    Evidence READY INITIALIZE (ControlLoop.run READY lastJs queued serverValid INITIALIZE es)
      (final (ControlLoop.step READY) (.start lastJs queued serverValid INITIALIZE) es) :=
  have hstart : Evidence READY INITIALIZE [] (.start lastJs queued serverValid INITIALIZE) :=
    ⟨VehicleStateMachine.start_settled, rfl, rfl, nofun, nofun⟩
  history_invariant' _ hstart (fun _ _ e hI ↦ hI.step hinit e) es

/-- Whatever the thread of OpenJAUS does between the steps of the service thread: the
machine enters `StandbyState` only while the last answer of the vehicle to a request
for control is that it accepts, and `ReadyState` only while the last status it has
reported is READY; and no effort is sent unless it has accepted and been ready. -/
theorem drives_on_evidence (hinit : INITIALIZE ≠ READY) (lastJs : FrcCombinedData)
    (queued : List BridgeMessage) (serverValid : Bool) (es : List (LoopEvent Status)) :
    Along (fun past r ↦
        (.standbyState ∈ enteredPhases r.output → (controlResponses past).getLast? = some true) ∧
        (.readyState ∈ enteredPhases r.output →
          (reportedStatuses past).getLast? = some READY) ∧
        (wrenchEfforts r.output ≠ [] → true ∈ controlResponses past ∧
          READY ∈ reportedStatuses past))
      (ControlLoop.run READY lastJs queued serverValid INITIALIZE es) := by
  refine along_history (fun js e ↦ ?_) es
  have hI := evidence_run hinit lastJs queued serverValid js
  generalize final (ControlLoop.step READY) (.start lastJs queued serverValid INITIALIZE) js = c
    at hI ⊢
  rw [record_output]
  rcases c.machine_cases READY e with ⟨-, hnone⟩ | ⟨now, pdList, name, msg, -, -, heffects⟩
  · rw [hnone]
    exact ⟨nofun, nofun, fun hne ↦ absurd rfl hne⟩
  · rw [heffects]
    refine ⟨fun hp ↦ ?_, fun hp ↦ ?_, fun hne ↦ ?_⟩
    · have hgranted := (evidence_of_entered READY hI.settled hp).1 rfl
      rw [hI.granted] at hgranted
      exact eq_some_of_getD_ne Bool.false_ne_true hgranted
    · have hstatus := (evidence_of_entered READY hI.settled hp).2 rfl
      rw [hI.status] at hstatus
      exact eq_some_of_getD_ne hinit hstatus
    · rw [wrenchEfforts_step] at hne
      have hphase := phase_of_dueEfforts hne
      have hrank : c.bridge.stateMachine.phase.rank = 3 := by rw [hphase]; rfl
      exact ⟨hI.accepted (by omega), hI.ready (by omega)⟩

/-- The vehicle is found, accepts, is ready, and is driven. -/
theorem drives_on_evidence_deflected :
    let es : List (LoopEvent Bool) :=
      [.postInput (.withButtons KeypadButton.rDown.mask), .work 0 [true] "vehicle",
        .incoming (.requestControlResponse true), .work 0 [] "",
        .incoming (.reportStatus true), .work 0 [] "", .postInput .deflected, .work 0 [] ""]
    Along (fun past r ↦
        (.standbyState ∈ enteredPhases r.output → (controlResponses past).getLast? = some true) ∧
        (.readyState ∈ enteredPhases r.output →
          (reportedStatuses past).getLast? = some true) ∧
        (wrenchEfforts r.output ≠ [] → true ∈ controlResponses past ∧
          true ∈ reportedStatuses past))
      (ControlLoop.run true (.withButtons 0) [] false false es) :=
  drives_on_evidence Bool.false_ne_true (.withButtons 0) [] false _

end

end FortAgent.Jaus
