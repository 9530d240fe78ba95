import FortAgent.Jaus.Authority

/-!
# The JAUS bridge

`JausBridge` stands between the reports of the joystick, the responses of the
JAUS client, and the state machine: `postInput` and `postJAUSResponse` push onto
a queue, and the service loop pops one message at a time and hands it to the
machine.  Posting touches only the queue and the last report; an iteration of
the loop touches only the queue and the machine; and the queue is guarded by a
mutex.  So a run of the two threads is a sequence of `BridgeEvent`s in some
order, and the bridge is a transducer on these.

The client reports control and heartbeat as functions of the time
(`ClientStatus`); its other answers are inputs, as they are for the machine.

The machine is a component of the bridge (`isComponent`): the machine steps
within a bridge run are a run of the machine on its own, so every law of the
machine is a law of the bridge.
-/

namespace FortAgent.Jaus

open Joystick Transducer

/-! ## The bridge -/

/-- `BridgeMessage`; the report is only present in a joystick input. -/
inductive BridgeMessage
  | joystickInput (input : FrcCombinedData)
  | jausResponse
deriving DecidableEq, Repr

/-- The data of a bridge whose service loop has been started.  `lastJs` is a
static variable of the source file. -/
structure JausBridge where
  lastJs : FrcCombinedData
  inputQueue : List BridgeMessage
  running : Bool
  stateMachine : VehicleState
deriving DecidableEq, Repr

/-- What a call of the bridge prints, and what the machine does in it. -/
structure BridgeOutput where
  printed : List String
  effects : List Effect
deriving DecidableEq, Repr

/-- How the client's report of control and heartbeat evolves. -/
structure ClientStatus where
  hasControl : SteadyTime → Bool
  isHeartbeatAlive : SteadyTime → Bool

/-- The answers at time `now`: control and heartbeat as the client then reports
them, the rest as given. -/
def ClientStatus.answers (status : ClientStatus) (now : SteadyTime) (client : ClientAnswers) :
    ClientAnswers :=
  { client with
    hasControl := status.hasControl now
    isHeartbeatAlive := status.isHeartbeatAlive now }

/-- The call the service loop makes for a message. -/
def BridgeMessage.call : BridgeMessage → MachineCall
  | .joystickInput input => .handleInput input
  | .jausResponse => .handleResponse

/-- The service loop has no tick. -/
theorem BridgeMessage.call_ne_update (msg : BridgeMessage) : msg.call ≠ .update := by
  cases msg with
  | joystickInput input => exact MachineCall.noConfusion
  | jausResponse => exact MachineCall.noConfusion

namespace JausBridge

/-- `startServiceLoop`, on a bridge with this last report and this queue.  The
button status is overwritten to force the first input to be processed. -/
def startServiceLoop (lastJs : FrcCombinedData) (inputQueue : List BridgeMessage) :
    JausBridge where
  lastJs := { lastJs with keypadData := { lastJs.keypadData with buttonStatus := 0xFFFF } }
  inputQueue := inputQueue
  running := true
  stateMachine := VehicleStateMachine.start

def stopServiceLoop (b : JausBridge) : JausBridge × BridgeOutput :=
  ({ b with running := false }, ⟨[], []⟩)

def postJAUSResponse (b : JausBridge) : JausBridge × BridgeOutput :=
  ({ b with inputQueue := b.inputQueue ++ [.jausResponse] }, ⟨[], []⟩)

/-- The `memcmp` of two reports compares all 18 bytes, that is, all fields. -/
def postInput (b : JausBridge) (input : FrcCombinedData) : JausBridge × BridgeOutput :=
  if input = b.lastJs then (b, ⟨[], []⟩)
  else if input.joystickData.leftXAxis.dataOK == false then
    ({ b with lastJs := input }, ⟨["JAUS: Pause button pressed on keypad."], []⟩)
  else if isButtonPressed input.keypadData.buttonStatus .pause then
    ({ b with lastJs := input }, ⟨["JAUS: Pause button releasing."], []⟩)
  else
    ({ b with lastJs := input, inputQueue := b.inputQueue ++ [.joystickInput input] }, ⟨[], []⟩)

/-- The `COMBINEDJOYSTICKKEYPAD` case of `evaluateCoapJausMessage`. -/
def evaluateCombinedJoystickKeypad (b : JausBridge) (payload : List UInt8) :
    JausBridge × BridgeOutput :=
  if decodeCombinedPayload payload then
    match FrcCombinedData.ofBytes payload with
    | some input => b.postInput input
    | none => (b, ⟨[], []⟩)
  else (b, ⟨[], []⟩)

/-- One iteration of `serviceLoop`.  While the queue is empty the loop waits,
and once it has been stopped it handles nothing more. -/
def serviceLoop (status : ClientStatus) (b : JausBridge) (now : SteadyTime)
    (client : ClientAnswers) : JausBridge × BridgeOutput :=
  if b.running then
    match b.inputQueue with
    | [] => (b, ⟨[], []⟩)
    | msg :: rest =>
      let handled := VehicleStateMachine.step b.stateMachine
        ⟨now, status.answers now client, msg.call⟩
      ({ b with inputQueue := rest, stateMachine := handled.1 }, ⟨[], handled.2⟩)
  else (b, ⟨[], []⟩)

end JausBridge

/-! ## Runs -/

/-- What can happen to a bridge, in either thread. -/
inductive BridgeEvent
  | postInput (input : FrcCombinedData)
  | postJAUSResponse
  | serve (now : SteadyTime) (client : ClientAnswers)
  | stopServiceLoop
deriving DecidableEq, Repr

/-- One recorded event of a bridge. -/
abbrev BridgeStep := Step JausBridge BridgeEvent BridgeOutput

namespace JausBridge

def step (status : ClientStatus) (b : JausBridge) : BridgeEvent → JausBridge × BridgeOutput
  | .postInput input => b.postInput input
  | .postJAUSResponse => b.postJAUSResponse
  | .serve now client => b.serviceLoop status now client
  | .stopServiceLoop => b.stopServiceLoop

/-- The run of a bridge whose loop has just been started. -/
abbrev run (status : ClientStatus) (lastJs : FrcCombinedData) (queued : List BridgeMessage)
    (es : List BridgeEvent) : List BridgeStep :=
  history (step status) (startServiceLoop lastJs queued) es

/-- The bridge at the end of that run. -/
abbrev reached (status : ClientStatus) (lastJs : FrcCombinedData) (queued : List BridgeMessage)
    (es : List BridgeEvent) : JausBridge :=
  final (step status) (startServiceLoop lastJs queued) es

/-- The call a service iteration hands to the machine, if it hands it any. -/
def tick (status : ClientStatus) (b : JausBridge) : BridgeEvent → Option Tick
  | .serve now client =>
    if b.running then
      b.inputQueue.head?.map fun msg ↦ ⟨now, status.answers now client, msg.call⟩
    else none
  | _ => none

/-- The machine step within a bridge step. -/
def machineStep (status : ClientStatus) (r : BridgeStep) : Option MachineStep :=
  (r.before.tick status r.input).map fun t ↦
    record VehicleStateMachine.step r.before.stateMachine t

/-! ## What one event can do -/

@[simp] theorem stateMachine_postInput (b : JausBridge) (input : FrcCombinedData) :
    (b.postInput input).1.stateMachine = b.stateMachine := by
  unfold postInput
  split_ifs <;> rfl

@[simp] theorem effects_postInput (b : JausBridge) (input : FrcCombinedData) :
    (b.postInput input).2.effects = [] := by
  unfold postInput
  split_ifs <;> rfl

@[simp] theorem running_postInput (b : JausBridge) (input : FrcCombinedData) :
    (b.postInput input).1.running = b.running := by
  unfold postInput
  split_ifs <;> rfl

/-- Whatever becomes of a report, it is the last one afterwards. -/
@[simp] theorem lastJs_postInput (b : JausBridge) (input : FrcCombinedData) :
    (b.postInput input).1.lastJs = input := by
  unfold postInput
  split_ifs with h
  · exact h.symm
  all_goals rfl

/-- A report is queued if it differs from the one before and is no pause. -/
theorem inputQueue_postInput (b : JausBridge) (input : FrcCombinedData) :
    (b.postInput input).1.inputQueue = b.inputQueue ++
      if input ≠ b.lastJs ∧ input.isPause = false then [.joystickInput input] else [] := by
  unfold postInput FrcCombinedData.isPause
  split_ifs <;> simp_all

/-- An iteration of the loop does nothing, or it hands on the message at the front. -/
theorem serviceLoop_cases (status : ClientStatus) (b : JausBridge) (now : SteadyTime)
    (client : ClientAnswers) :
    ((b.running = false ∨ b.inputQueue = []) ∧ b.tick status (.serve now client) = none ∧
      b.serviceLoop status now client = (b, ⟨[], []⟩)) ∨
    ∃ msg rest, b.running = true ∧ b.inputQueue = msg :: rest ∧
      b.tick status (.serve now client) = some ⟨now, status.answers now client, msg.call⟩ ∧
      b.serviceLoop status now client =
        let handled := VehicleStateMachine.step b.stateMachine
          ⟨now, status.answers now client, msg.call⟩
        ({ b with inputQueue := rest, stateMachine := handled.1 }, ⟨[], handled.2⟩) := by
  cases hrunning : b.running with
  | false => exact .inl ⟨.inl rfl, by simp [tick, hrunning], by simp [serviceLoop, hrunning]⟩
  | true =>
      cases hqueue : b.inputQueue with
      | nil => exact .inl ⟨.inr rfl, by simp [tick, hqueue], by simp [serviceLoop, hqueue]⟩
      | cons msg rest =>
          refine .inr ⟨msg, rest, rfl, rfl, ?_, ?_⟩
          · simp [tick, hrunning, hqueue]
          · simp [serviceLoop, hrunning, hqueue]

/-- The bytes of a report are posted as that report, if its CRCs are right, and
otherwise ignored. -/
theorem evaluateCombinedJoystickKeypad_bytes (b : JausBridge) (report : FrcCombinedData) :
    b.evaluateCombinedJoystickKeypad report.bytes =
      if report.crcValid then b.postInput report else (b, ⟨[], []⟩) := by
  rw [evaluateCombinedJoystickKeypad, decodeCombinedPayload_bytes]
  simp only [FrcCombinedData.ofBytes_bytes]

/-- An event without a call leaves the machine alone and has no effects. -/
theorem step_of_tick_none {status : ClientStatus} {b : JausBridge} {e : BridgeEvent}
    (h : b.tick status e = none) :
    (b.step status e).1.stateMachine = b.stateMachine ∧ (b.step status e).2.effects = [] := by
  cases e with
  | postInput input => exact ⟨stateMachine_postInput b input, effects_postInput b input⟩
  | postJAUSResponse => exact ⟨rfl, rfl⟩
  | stopServiceLoop => exact ⟨rfl, rfl⟩
  | serve now client =>
      rcases b.serviceLoop_cases status now client with
        ⟨-, -, hserve⟩ | ⟨msg, rest, -, -, htick, -⟩
      · rw [step, hserve]
        exact ⟨rfl, rfl⟩
      · rw [htick] at h
        cases h

/-- An event with a call hands it to the machine, and pops its message. -/
theorem step_of_tick_some {status : ClientStatus} {b : JausBridge} {e : BridgeEvent} {t : Tick}
    (h : b.tick status e = some t) :
    (b.step status e).1 = { b with
      inputQueue := b.inputQueue.tail
      stateMachine := (VehicleStateMachine.step b.stateMachine t).1 } ∧
    (b.step status e).2.effects = (VehicleStateMachine.step b.stateMachine t).2 := by
  cases e with
  | serve now client =>
      rcases b.serviceLoop_cases status now client with
        ⟨-, htick, -⟩ | ⟨msg, rest, -, hqueue, htick, hserve⟩
      · rw [htick] at h
        cases h
      · rw [htick] at h
        obtain rfl := Option.some.inj h
        rw [step, hserve, hqueue]
        exact ⟨rfl, rfl⟩
  | _ => cases h

/-- A call is only handed on while the loop runs. -/
theorem running_of_tick_some {status : ClientStatus} {b : JausBridge} {e : BridgeEvent}
    {t : Tick} (h : b.tick status e = some t) : b.running = true := by
  cases e with
  | serve now client =>
      rcases b.serviceLoop_cases status now client with ⟨-, htick, -⟩ | ⟨_, _, hrunning, -⟩
      · rw [htick] at h
        cases h
      · exact hrunning
  | _ => cases h

/-- **The machine is a component of the bridge.** -/
theorem isComponent (status : ClientStatus) :
    IsComponent (step status) VehicleStateMachine.step stateMachine (machineStep status) := by
  intro b e
  simp only [machineStep, record_before, record_input]
  cases h : b.tick status e with
  | none => exact .inl ⟨rfl, (step_of_tick_none h).1⟩
  | some t => exact .inr ⟨t, rfl, by rw [(step_of_tick_some h).1]⟩

/-- The effects of an event are those of the machine step within it. -/
theorem effects_machineStep (status : ClientStatus) (b : JausBridge) (e : BridgeEvent) :
    (machineStep status (record (step status) b e)).toList.flatMap (fun q ↦ q.output) =
      (b.step status e).2.effects := by
  simp only [machineStep, record_before, record_input]
  cases h : b.tick status e with
  | none => exact (step_of_tick_none h).2.symm
  | some t => exact (List.append_nil _).trans (step_of_tick_some h).2.symm

/-- The machine within a run of a bridge: its steps are a run of its own, which ends in its
state and has the effects of the run. -/
theorem machine_run (status : ClientStatus) (b : JausBridge) (es : List BridgeEvent) :
    ∃ ticks, (history (step status) b es).filterMap (machineStep status) =
        history VehicleStateMachine.step b.stateMachine ticks ∧
      (final (step status) b es).stateMachine =
        final VehicleStateMachine.step b.stateMachine ticks ∧
      ((history (step status) b es).flatMap fun r ↦ r.output.effects) =
        (outputs VehicleStateMachine.step b.stateMachine ticks).flatten := by
  obtain ⟨ticks, hhistory, hfinal⟩ := (isComponent status).history_eq b es
  refine ⟨ticks, hhistory, hfinal, ?_⟩
  rw [outputs, ← hhistory, ← List.flatMap_def]
  exact (flatMap_component (f := BridgeOutput.effects) (g := fun effects ↦ effects)
    (effects_machineStep status) b es).symm

/-- Between two events the machine of a bridge requests no transition. -/
theorem settled_reached (status : ClientStatus) (lastJs : FrcCombinedData)
    (queued : List BridgeMessage) (es : List BridgeEvent) :
    (reached status lastJs queued es).stateMachine.Settled := by
  obtain ⟨ticks, -, hfinal⟩ := (isComponent status).history_eq (startServiceLoop lastJs queued) es
  rw [hfinal]
  exact VehicleStateMachine.settled_final ticks

end JausBridge

/-- A client that always reports control and a live heartbeat. -/
def ClientStatus.steady : ClientStatus := ⟨fun _ ↦ true, fun _ ↦ true⟩

/-- One press and two responses, each handled at once: with a favourable client,
they bring the machine to `ReadyState`. -/
def readyEvents : List BridgeEvent :=
  [.postInput (.withButtons KeypadButton.rDown.mask), .serve 0 .favourable,
    .postJAUSResponse, .serve 0 .favourable, .postJAUSResponse, .serve 0 .favourable]

end FortAgent.Jaus
