import FortAgent.Jaus.Bridge
import FortAgent.Lib.ServiceQueue

/-!
# The service thread of the JAUS bridge

`JausBridge` takes an iteration of the service loop in one step.  Here the loop
runs in a thread of its own, beside the threads that post: it tests `running`,
takes `queueMutex`, waits on `queueCV`, pops a message, lets the mutex go, and
only then hands the message to the state machine; and between the push of a
poster and its `notify_one` anything may happen.

The queue, the flag, the condition variable and the place of the loop are a
`Monitor`, a component of the threaded bridge, so every law of the monitor is a
law of the bridge.  Taken together they say that the threaded bridge *refines*
the other one: its runs are runs of `JausBridge`, in which an iteration happens
at the moment the machine gets the message, and a stop that finds the thread
busy happens when it is done.
-/

namespace FortAgent.Jaus

open Joystick Transducer ServiceQueue

/-- The data of a bridge with its service thread. -/
structure ThreadedBridge where
  lastJs : FrcCombinedData
  monitor : Monitor BridgeMessage
  stateMachine : VehicleState
deriving DecidableEq, Repr

/-- What a thread of the bridge can do in one go.  The posting functions and
`stopServiceLoop` stop short of their notification. -/
inductive ThreadAction
  | postInput (input : FrcCombinedData)
  | postJAUSResponse
  | stopServiceLoop
  | notify
  | wake
  | work (now : SteadyTime) (client : ClientAnswers)
deriving DecidableEq, Repr

/-- The event of a bridge that takes each iteration of its loop in one step, for an
action that may be one. -/
def ThreadAction.event? : ThreadAction → Option BridgeEvent
  | .postInput input => some (.postInput input)
  | .postJAUSResponse => some .postJAUSResponse
  | .work now client => some (.serve now client)
  | _ => none

def BridgeEvent.isPost : BridgeEvent → Bool
  | .postInput _ | .postJAUSResponse => true
  | _ => false

/-- One recorded action of a threaded bridge. -/
abbrev ThreadStep := Step ThreadedBridge ThreadAction BridgeOutput

namespace ThreadedBridge

/-- What `startServiceLoop` leaves: the thread is about to enter its loop.  Some
threads may have posted to the queue and not yet notified. -/
def startServiceLoop (lastJs : FrcCombinedData) (inputQueue : List BridgeMessage)
    (notifies : ℕ) : ThreadedBridge where
  lastJs := { lastJs with keypadData := { lastJs.keypadData with buttonStatus := 0xFFFF } }
  monitor := ⟨inputQueue, true, .loopTop, notifies⟩
  stateMachine := VehicleStateMachine.start

/-- Both pauses pass over the queue, but not over the notification. -/
def postInput (b : ThreadedBridge) (input : FrcCombinedData) : ThreadedBridge × BridgeOutput :=
  if input = b.lastJs then (b, ⟨[], []⟩)
  else if input.joystickData.leftXAxis.dataOK == false then
    ({ b with lastJs := input, monitor := (b.monitor.step .nudge).1 },
      ⟨["JAUS: Pause button pressed on keypad."], []⟩)
  else if isButtonPressed input.keypadData.buttonStatus .pause then
    ({ b with lastJs := input, monitor := (b.monitor.step .nudge).1 },
      ⟨["JAUS: Pause button releasing."], []⟩)
  else
    ({ b with lastJs := input, monitor := (b.monitor.step (.post (.joystickInput input))).1 },
      ⟨[], []⟩)

/-- The next step of the service thread.  The machine gets its message outside
the lock. -/
def work (status : ClientStatus) (b : ThreadedBridge) (now : SteadyTime)
    (client : ClientAnswers) : ThreadedBridge × BridgeOutput :=
  match b.monitor.place with
  | .handling msg =>
    let handled := VehicleStateMachine.step b.stateMachine
      ⟨now, status.answers now client, msg.call⟩
    ({ b with monitor := (b.monitor.step .work).1, stateMachine := handled.1 }, ⟨[], handled.2⟩)
  | _ => ({ b with monitor := (b.monitor.step .work).1 }, ⟨[], []⟩)

def step (status : ClientStatus) (b : ThreadedBridge) :
    ThreadAction → ThreadedBridge × BridgeOutput
  | .postInput input => b.postInput input
  | .postJAUSResponse =>
    ({ b with monitor := (b.monitor.step (.post .jausResponse)).1 }, ⟨[], []⟩)
  | .stopServiceLoop => ({ b with monitor := (b.monitor.step .stop).1 }, ⟨[], []⟩)
  | .notify => ({ b with monitor := (b.monitor.step .notify).1 }, ⟨[], []⟩)
  | .wake => ({ b with monitor := (b.monitor.step .wake).1 }, ⟨[], []⟩)
  | .work now client => b.work status now client

/-- The run of a bridge whose thread has just been started. -/
abbrev run (status : ClientStatus) (lastJs : FrcCombinedData) (queued : List BridgeMessage)
    (notifies : ℕ) (as : List ThreadAction) : List ThreadStep :=
  history (step status) (startServiceLoop lastJs queued notifies) as

/-- The bridge at the end of that run. -/
abbrev reached (status : ClientStatus) (lastJs : FrcCombinedData) (queued : List BridgeMessage)
    (notifies : ℕ) (as : List ThreadAction) : ThreadedBridge :=
  final (step status) (startServiceLoop lastJs queued notifies) as

/-- The message an action posts. -/
def posts (b : ThreadedBridge) : ThreadAction → Option BridgeMessage
  | .postInput input =>
    if input ≠ b.lastJs ∧ input.isPause = false then some (.joystickInput input) else none
  | .postJAUSResponse => some .jausResponse
  | _ => none

/-- The messages posted in a run, oldest first. -/
def posted (h : List ThreadStep) : List BridgeMessage :=
  h.filterMap fun r ↦ r.before.posts r.input

/-- What an action does to the monitor. -/
def monitorAction (b : ThreadedBridge) : ThreadAction → Option (Action BridgeMessage)
  | .postInput input =>
    if input = b.lastJs then none
    else if input.isPause then some .nudge
    else some (.post (.joystickInput input))
  | .postJAUSResponse => some (.post .jausResponse)
  | .stopServiceLoop => some .stop
  | .notify => some .notify
  | .wake => some .wake
  | .work _ _ => some .work

/-- The step of the monitor within a step of the bridge. -/
def monitorStep (r : ThreadStep) : Option (MonitorStep BridgeMessage) :=
  (r.before.monitorAction r.input).map fun a ↦ record Monitor.step r.before.monitor a

/-- The call an action hands to the machine, if it hands it any. -/
def tick (status : ClientStatus) (b : ThreadedBridge) : ThreadAction → Option Tick
  | .work now client =>
    b.monitor.place.inHand.map fun msg ↦ ⟨now, status.answers now client, msg.call⟩
  | _ => none

/-- The machine step within a step of the bridge. -/
def machineStep (status : ClientStatus) (r : ThreadStep) : Option MachineStep :=
  (r.before.tick status r.input).map fun t ↦
    record VehicleStateMachine.step r.before.stateMachine t

/-! ## The components -/

theorem monitor_postInput (b : ThreadedBridge) (input : FrcCombinedData) :
    (b.postInput input).1.monitor =
      if input = b.lastJs then b.monitor
      else if input.isPause then (b.monitor.step .nudge).1
      else (b.monitor.step (.post (.joystickInput input))).1 := by
  unfold postInput FrcCombinedData.isPause
  split_ifs <;> simp_all

theorem monitor_work (status : ClientStatus) (b : ThreadedBridge) (now : SteadyTime)
    (client : ClientAnswers) : (b.work status now client).1.monitor = (b.monitor.step .work).1 := by
  unfold work
  split <;> rfl

/-- **The monitor is a component of the bridge.** -/
theorem isComponent_monitor (status : ClientStatus) :
    IsComponent (step status) Monitor.step monitor monitorStep := by
  intro b a
  simp only [monitorStep, record_before, record_input]
  cases a with
  | postInput input =>
      rw [step, monitor_postInput, monitorAction]
      split_ifs
      · exact .inl ⟨rfl, rfl⟩
      · exact .inr ⟨_, rfl, rfl⟩
      · exact .inr ⟨_, rfl, rfl⟩
  | work now client => exact .inr ⟨.work, rfl, monitor_work status b now client⟩
  | _ => exact .inr ⟨_, rfl, rfl⟩

theorem stateMachine_postInput (b : ThreadedBridge) (input : FrcCombinedData) :
    (b.postInput input).1.stateMachine = b.stateMachine := by
  unfold postInput
  split_ifs <;> rfl

/-- An iteration hands a message to the machine if it has one in hand. -/
theorem work_cases (status : ClientStatus) (b : ThreadedBridge) (now : SteadyTime)
    (client : ClientAnswers) :
    (b.monitor.place.inHand = none ∧
      b.work status now client = ({ b with monitor := (b.monitor.step .work).1 }, ⟨[], []⟩)) ∨
    ∃ msg, b.monitor.place = .handling msg ∧
      b.work status now client =
        let handled := VehicleStateMachine.step b.stateMachine
          ⟨now, status.answers now client, msg.call⟩
        ({ b with monitor := (b.monitor.step .work).1, stateMachine := handled.1 },
          ⟨[], handled.2⟩) := by
  unfold work
  cases hplace : b.monitor.place with
  | handling msg => exact .inr ⟨msg, rfl, rfl⟩
  | _ => exact .inl ⟨rfl, rfl⟩

/-- **The machine is a component of the bridge.** -/
theorem isComponent_machine (status : ClientStatus) :
    IsComponent (step status) VehicleStateMachine.step stateMachine (machineStep status) := by
  intro b a
  simp only [machineStep, record_before, record_input]
  cases a with
  | postInput input => exact .inl ⟨rfl, stateMachine_postInput b input⟩
  | work now client =>
      rcases work_cases status b now client with ⟨hhand, hwork⟩ | ⟨msg, hplace, hwork⟩
      · exact .inl ⟨by rw [tick, hhand]; rfl, by rw [step, hwork]⟩
      · exact .inr ⟨_, by rw [tick, hplace]; rfl, by rw [step, hwork]⟩
  | _ => exact .inl ⟨rfl, rfl⟩

/-- What the actions of a run do to the monitor. -/
def monitorActions (status : ClientStatus) (b : ThreadedBridge) (as : List ThreadAction) :
    List (Action BridgeMessage) :=
  (history (step status) b as).filterMap fun r ↦ r.before.monitorAction r.input

theorem monitor_history (status : ClientStatus) (b : ThreadedBridge) (as : List ThreadAction) :
    (history (step status) b as).filterMap monitorStep =
        history Monitor.step b.monitor (monitorActions status b as) ∧
      (final (step status) b as).monitor =
        final Monitor.step b.monitor (monitorActions status b as) := by
  obtain ⟨js, hhistory, hfinal⟩ := (isComponent_monitor status).history_eq b as
  have hjs : js = monitorActions status b as := by
    rw [← history_inputs Monitor.step b.monitor js, ← hhistory, List.map_filterMap,
      monitorActions]
    refine List.filterMap_congr fun r _ ↦ ?_
    rw [monitorStep, Option.map_map]
    exact Option.map_id'
  rw [← hjs]
  exact ⟨hhistory, hfinal⟩

/-- The calls the machine gets in a run, oldest first. -/
def machineCalls (status : ClientStatus) (h : List ThreadStep) : List MachineCall :=
  h.filterMap fun r ↦ (r.before.tick status r.input).map Tick.call

theorem posts_eq (b : ThreadedBridge) (a : ThreadAction) :
    b.posts a =
      (b.monitorAction a).bind fun m ↦ (b.monitor.step m).2.bind Event.message? := by
  cases a with
  | postInput input =>
      simp only [posts, monitorAction]
      split_ifs <;> simp_all [Monitor.step, Event.message?]
  | work now client =>
      rw [monitorAction, Option.bind_some, Monitor.step, Monitor.output_work]
      cases b.monitor.place.inHand <;> rfl
  | notify =>
      rw [monitorAction, Option.bind_some, Monitor.step]
      split_ifs <;> rfl
  | _ => rfl

theorem tick_call_eq (status : ClientStatus) (b : ThreadedBridge) (a : ThreadAction) :
    (b.tick status a).map Tick.call = ((b.monitorAction a).bind fun m ↦
      (b.monitor.step m).2.bind Event.handled?).map BridgeMessage.call := by
  cases a with
  | postInput input =>
      simp only [tick, monitorAction]
      split_ifs <;> rfl
  | work now client =>
      rw [monitorAction, Option.bind_some, Monitor.step, Monitor.output_work, tick]
      cases b.monitor.place.inHand <;> rfl
  | notify =>
      rw [monitorAction, Option.bind_some, Monitor.step]
      split_ifs <;> rfl
  | _ => rfl

/-- The monitor posts what the bridge posts. -/
theorem posted_monitor (h : List ThreadStep) :
    ServiceQueue.posted (h.filterMap monitorStep) = posted h := by
  rw [ServiceQueue.posted, List.filterMap_filterMap, posted]
  refine List.filterMap_congr fun r _ ↦ ?_
  rw [posts_eq, monitorStep, Option.bind_map]
  rfl

/-- The machine gets what the monitor's worker handles. -/
theorem handled_monitor (status : ClientStatus) (h : List ThreadStep) :
    (ServiceQueue.handled (h.filterMap monitorStep)).map BridgeMessage.call =
      machineCalls status h := by
  rw [ServiceQueue.handled, List.filterMap_filterMap, machineCalls, List.map_filterMap]
  refine List.filterMap_congr fun r _ ↦ ?_
  rw [tick_call_eq, monitorStep, Option.bind_map]
  rfl

/-- The machine's calls are those of its own run. -/
theorem machineCalls_eq {status : ClientStatus} {h : List ThreadStep} {s : VehicleState}
    {ticks : List Tick}
    (hticks : h.filterMap (machineStep status) = history VehicleStateMachine.step s ticks) :
    machineCalls status h = ticks.map Tick.call := by
  rw [← history_inputs VehicleStateMachine.step s ticks, ← hticks, machineCalls,
    List.map_filterMap, List.map_filterMap]
  refine List.filterMap_congr fun r _ ↦ ?_
  rw [machineStep, Option.map_map, Option.map_map]
  rfl

/-- The effects of an action are those of the machine step within it. -/
theorem effects_machineStep (status : ClientStatus) (b : ThreadedBridge) (a : ThreadAction) :
    (machineStep status (record (step status) b a)).toList.flatMap (fun q ↦ q.output) =
      (step status b a).2.effects := by
  simp only [machineStep, record_before, record_input]
  cases a with
  | postInput input =>
      rw [step, postInput]
      split_ifs <;> rfl
  | work now client =>
      rw [step]
      rcases work_cases status b now client with ⟨hhand, hwork⟩ | ⟨msg, hplace, hwork⟩
      · rw [hwork, tick, hhand]
        rfl
      · rw [hwork, tick, hplace]
        exact List.append_nil _
  | _ => rfl

/-- The calls `calls` of the machine are made in this run: they lead the machine from its
state at the outset to that at the end, and the effects of the run are theirs. -/
def MachineGets (status : ClientStatus) (b : ThreadedBridge) (as : List ThreadAction)
    (calls : List MachineCall) : Prop :=
  ∃ ticks, ticks.map Tick.call = calls ∧
    (final (step status) b as).stateMachine =
      final VehicleStateMachine.step b.stateMachine ticks ∧
    ((history (step status) b as).flatMap fun r ↦ r.output.effects) =
      (outputs VehicleStateMachine.step b.stateMachine ticks).flatten

theorem machineGets (status : ClientStatus) (b : ThreadedBridge) (as : List ThreadAction) :
    MachineGets status b as (machineCalls status (history (step status) b as)) := by
  obtain ⟨ticks, hhistory, hfinal⟩ := (isComponent_machine status).history_eq b as
  refine ⟨ticks, (machineCalls_eq hhistory).symm, hfinal, ?_⟩
  rw [outputs, ← hhistory, ← List.flatMap_def]
  exact (flatMap_component (f := BridgeOutput.effects) (g := fun effects ↦ effects)
    (effects_machineStep status) b as).symm

/-! ## Every message reaches the machine, in order -/

/-- In every interleaving, the reports and responses posted to the bridge reach the
state machine one by one, each exactly once and in the order they were posted; the
rest are still pending. -/
theorem served_in_order (status : ClientStatus) (lastJs : FrcCombinedData)
    (queued : List BridgeMessage) (notifies : ℕ) (as : List ThreadAction) :
    ∃ ticks, (run status lastJs queued notifies as).filterMap (machineStep status) =
        history VehicleStateMachine.step VehicleStateMachine.start ticks ∧
      (reached status lastJs queued notifies as).stateMachine =
        final VehicleStateMachine.step VehicleStateMachine.start ticks ∧
      (queued ++ posted (run status lastJs queued notifies as)).map BridgeMessage.call =
        ticks.map Tick.call ++
          (reached status lastJs queued notifies as).monitor.pending.map BridgeMessage.call := by
  obtain ⟨ticks, hhistory, hfinal⟩ := (isComponent_machine status).history_eq
    (startServiceLoop lastJs queued notifies) as
  refine ⟨ticks, hhistory, hfinal, ?_⟩
  obtain ⟨hmonitor, hreached⟩ :=
    monitor_history status (startServiceLoop lastJs queued notifies) as
  have hfifo := Monitor.pending_append_posted
    (startServiceLoop lastJs queued notifies).monitor
    (monitorActions status (startServiceLoop lastJs queued notifies) as)
  rw [← hmonitor, ← hreached, posted_monitor] at hfifo
  rw [← machineCalls_eq hhistory, ← handled_monitor, ← List.map_append, ← hfifo]
  rfl

/-! ## Every message is served -/

/-- The worker's steps among the actions of a run. -/
def ThreadAction.isWork : ThreadAction → Bool
  | .work _ _ => true
  | _ => false

theorem monitorActions_cons (status : ClientStatus) (b : ThreadedBridge) (a : ThreadAction)
    (as : List ThreadAction) :
    monitorActions status b (a :: as) =
      (b.monitorAction a).toList ++ monitorActions status (step status b a).1 as := by
  rw [monitorActions, history_cons, List.filterMap_cons, record_before, record_input]
  cases b.monitorAction a <;> rfl

theorem monitorActions_append (status : ClientStatus) (b : ThreadedBridge)
    (as bs : List ThreadAction) :
    monitorActions status b (as ++ bs) =
      monitorActions status b as ++ monitorActions status (final (step status) b as) bs := by
  rw [monitorActions, history_append, List.filterMap_append]
  rfl

theorem workerSteps_monitorActions (status : ClientStatus) (b : ThreadedBridge)
    (as : List ThreadAction) :
    workerSteps (monitorActions status b as) = as.countP ThreadAction.isWork := by
  induction as generalizing b with
  | nil => rfl
  | cons a as ih =>
      rw [monitorActions_cons, workerSteps, List.countP_append, ← workerSteps, ← workerSteps,
        ih, List.countP_cons, Nat.add_comm]
      congr 1
      cases a with
      | postInput input =>
          simp only [monitorAction, ThreadAction.isWork]
          split_ifs <;> first | rfl | contradiction
      | _ => rfl

/-- A run without `stopServiceLoop` does not stop the monitor. -/
theorem monitorActions_ne_stop {status : ClientStatus} {b : ThreadedBridge}
    {as : List ThreadAction} (hstop : ∀ a ∈ as, a ≠ .stopServiceLoop) :
    ∀ m ∈ monitorActions status b as, m ≠ .stop := by
  rintro m hm rfl
  obtain ⟨r, hr, haction⟩ := List.mem_filterMap.mp hm
  have hinput : r.input ∈ as := by
    rw [← history_inputs (step status) b as]
    exact List.mem_map_of_mem hr
  refine hstop r.input hinput ?_
  cases h : r.input with
  | postInput input =>
      rw [h, monitorAction] at haction
      split_ifs at haction <;> cases haction
  | stopServiceLoop => rfl
  | _ => rw [h] at haction; cases haction

/-- No wakeup is lost, and the thread stays in its loop until it is stopped. -/
theorem monitor_reached (status : ClientStatus) (lastJs : FrcCombinedData)
    (queued : List BridgeMessage) (notifies : ℕ) (as : List ThreadAction) :
    (reached status lastJs queued notifies as).monitor.Guarded ∧
      (reached status lastJs queued notifies as).monitor.InLoop := by
  have hstart : (startServiceLoop lastJs queued notifies).monitor.place = .loopTop := rfl
  rw [reached, (monitor_history ..).2]
  constructor
  · exact Monitor.guarded_final (fun hplace ↦ by rw [hstart] at hplace; cases hplace) _
  · exact Monitor.inLoop_final (fun _ ↦ by rw [hstart]; exact nofun) _

/-- What the actions `before`, one notification and the actions `after` do to the
monitor. -/
theorem monitorActions_notify (status : ClientStatus) (b : ThreadedBridge)
    (before after : List ThreadAction) :
    ∃ ms ns, monitorActions status b (before ++ .notify :: after) = ms ++ .notify :: ns ∧
      workerSteps ns = after.countP ThreadAction.isWork := by
  refine ⟨monitorActions status b before,
    monitorActions status (step status (final (step status) b before) .notify).1 after, ?_,
    workerSteps_monitorActions ..⟩
  rw [monitorActions_append, monitorActions_cons]
  rfl

/-- While the bridge runs, the first `n` pending messages have reached the machine, and
been handled by it, once a thread has notified and the service thread has then taken
`3 * n` steps, whatever else happens before, between and after. -/
theorem served_within (status : ClientStatus) (lastJs : FrcCombinedData)
    (queued : List BridgeMessage) (notifies : ℕ) (as before after : List ThreadAction) (n : ℕ)
    (hrunning : (reached status lastJs queued notifies as).monitor.running = true)
    (hn : n ≤ (reached status lastJs queued notifies as).monitor.pending.length)
    (hstop : ∀ a ∈ before ++ .notify :: after, a ≠ .stopServiceLoop)
    (hsteps : 3 * n ≤ after.countP ThreadAction.isWork) :
    let b := reached status lastJs queued notifies as
    let calls := machineCalls status (history (step status) b (before ++ .notify :: after))
    (b.monitor.pending.take n).map BridgeMessage.call <+: calls ∧
      MachineGets status b (before ++ .notify :: after) calls := by
  intro b calls
  refine ⟨?_, machineGets status b _⟩
  obtain ⟨hguarded, hloop⟩ := monitor_reached status lastJs queued notifies as
  change b.monitor.running = true at hrunning
  obtain ⟨ms, ns, hactions, hworker⟩ := monitorActions_notify status b before after
  have hne : ∀ m ∈ monitorActions status b (before ++ .notify :: after), m ≠ .stop :=
    monitorActions_ne_stop hstop
  rw [hactions] at hne
  have hcalls : calls = (ServiceQueue.handled (history Monitor.step b.monitor
      (ms ++ .notify :: ns))).map BridgeMessage.call := by
    rw [← hactions, ← (monitor_history status b _).1, handled_monitor]
  rw [hcalls]
  exact (Monitor.take_pending_prefix_handled hrunning hguarded hloop hn hne
    (hworker ▸ hsteps)).map BridgeMessage.call

/-- A response already in the queue has reached the machine after a pause, which only
notifies, and three steps of the thread. -/
theorem served_within_response :
    let b := startServiceLoop (.withButtons 0) [.jausResponse] 0
    let actions := [.postInput (.withButtons KeypadButton.pause.mask)] ++ .notify ::
      List.replicate 3 (.work 0 .favourable)
    let calls := machineCalls .steady (history (step .steady) b actions)
    [MachineCall.handleResponse] <+: calls ∧ MachineGets .steady b actions calls :=
  served_within .steady (.withButtons 0) [.jausResponse] 0 [] _ _ 1 rfl (Nat.le_refl 1)
    (by simp) (Nat.le_refl 3)

/-! ## Stopping -/

/-- Once `stopServiceLoop` has cleared the flag, its join returns: the thread has left
its loop once it was notified and has taken two steps.  Until then it serves the
message it was holding, and no other: that is all the machine gets, and the queue keeps
what is in it, and what is posted to it. -/
theorem stopServiceLoop_joins (status : ClientStatus) (lastJs : FrcCombinedData)
    (queued : List BridgeMessage) (notifies : ℕ) (as before after : List ThreadAction)
    (hstopped : (reached status lastJs queued notifies as).monitor.running = false)
    (hsteps : 2 ≤ after.countP ThreadAction.isWork) :
    let b := reached status lastJs queued notifies as
    let h := history (step status) b (before ++ .notify :: after)
    let b' := final (step status) b (before ++ .notify :: after)
    b'.monitor.place = .ended ∧
      machineCalls status h = b.monitor.place.inHand.toList.map BridgeMessage.call ∧
      MachineGets status b (before ++ .notify :: after) (machineCalls status h) ∧
      b'.monitor.queue = b.monitor.queue ++ posted h := by
  obtain ⟨hguarded, -⟩ := monitor_reached status lastJs queued notifies as
  intro b h b'
  obtain ⟨ms, ns, hactions, hworker⟩ := monitorActions_notify status b before after
  obtain ⟨hhistory, hfinal⟩ := monitor_history status b (before ++ .notify :: after)
  rw [hactions] at hhistory hfinal
  have hend : b'.monitor.place = .ended := by
    rw [hfinal]
    exact Monitor.ended_of_stopped hstopped hguarded (hworker ▸ hsteps)
  obtain ⟨hqueue, hhand⟩ := Monitor.pending_of_stopped hstopped (ms ++ .notify :: ns)
  rw [← hfinal, ← hhistory, posted_monitor] at hqueue
  rw [← hfinal, ← hhistory, hend, inHand_ended, Option.toList_none, List.append_nil] at hhand
  exact ⟨hend, by rw [← handled_monitor, hhand], machineGets status b _, hqueue⟩

/-- Stopped before its first iteration, the thread leaves a response unserved. -/
theorem stopServiceLoop_joins_unserved :
    let b := reached .steady (.withButtons 0) [.jausResponse] 0 [.stopServiceLoop]
    let h := history (step .steady) b ([] ++ .notify :: List.replicate 2 (.work 0 .favourable))
    let b' := final (step .steady) b ([] ++ .notify :: List.replicate 2 (.work 0 .favourable))
    b'.monitor.place = .ended ∧
      machineCalls .steady h = b.monitor.place.inHand.toList.map BridgeMessage.call ∧
      MachineGets .steady b ([] ++ .notify :: List.replicate 2 (.work 0 .favourable))
        (machineCalls .steady h) ∧
      b'.monitor.queue = b.monitor.queue ++ posted h :=
  stopServiceLoop_joins .steady (.withButtons 0) [.jausResponse] 0 [.stopServiceLoop] _ _ rfl
    (Nat.le_refl 2)

/-! ## The threaded bridge refines the bridge -/

/-- The bridge behind a threaded one: the message in hand is still in the queue, and
a stop waits for it. -/
def bridge (b : ThreadedBridge) : JausBridge where
  lastJs := b.lastJs
  inputQueue := b.monitor.pending
  running := b.monitor.running || b.monitor.place.inHand.isSome
  stateMachine := b.stateMachine

/-- The events that match an action. -/
def bridgeEvents (b : ThreadedBridge) : ThreadAction → List BridgeEvent
  | .postInput input => [.postInput input]
  | .postJAUSResponse => [.postJAUSResponse]
  | .stopServiceLoop => if b.monitor.place.inHand.isSome then [] else [.stopServiceLoop]
  | .notify => []
  | .wake => []
  | .work now client =>
    if b.monitor.place.inHand.isNone then []
    else if b.monitor.running then [.serve now client]
    else [.serve now client, .stopServiceLoop]

theorem bridge_postInput (b : ThreadedBridge) (input : FrcCombinedData) :
    b.bridge.postInput input = ((b.postInput input).1.bridge, (b.postInput input).2) := by
  unfold postInput JausBridge.postInput
  split_ifs <;> simp_all [bridge, Monitor.step, Monitor.pending]

/-- Behind the scenes, a step of the service thread with nothing in hand changes
nothing. -/
theorem bridge_work_of_inHand_none {b : ThreadedBridge} (hhand : b.monitor.place.inHand = none) :
    { b with monitor := (b.monitor.step .work).1 }.bridge = b.bridge := by
  rcases b.monitor.work_cases with ⟨hp, -, hs⟩ | ⟨hp | hp, -, hs⟩ | ⟨hp, -, -, hs⟩ |
    ⟨m, rest, hp, hr, hq, hs⟩ | ⟨m, hp, -⟩ | ⟨-, hs⟩
  · simp [bridge, Monitor.step, Monitor.pending, Place.inHand, hs, hp]
  · simp [bridge, Monitor.step, Monitor.pending, Place.inHand, hs, hp]
  · simp [bridge, Monitor.step, Monitor.pending, Place.inHand, hs, hp]
  · simp [bridge, Monitor.step, Monitor.pending, Place.inHand, hs, hp]
  · -- the message moves from the queue to the thread's hands
    simp [bridge, Monitor.step, Monitor.pending, Place.inHand, hs, hp, hr, hq]
  · simp [hp] at hhand
  · simp [bridge, Monitor.step, hs]

/-- An action is matched by its events. -/
theorem step_bridgeEvents (status : ClientStatus) (b : ThreadedBridge) (a : ThreadAction) :
    final (JausBridge.step status) b.bridge (b.bridgeEvents a) = (step status b a).1.bridge ∧
      (outputs (JausBridge.step status) b.bridge (b.bridgeEvents a)).flatMap
          BridgeOutput.effects = (step status b a).2.effects ∧
      (outputs (JausBridge.step status) b.bridge (b.bridgeEvents a)).flatMap
          BridgeOutput.printed = (step status b a).2.printed := by
  cases a with
  | postInput input =>
      simp [bridgeEvents, JausBridge.step, bridge_postInput, step]
  | postJAUSResponse =>
      simp [bridgeEvents, JausBridge.step, JausBridge.postJAUSResponse, step, bridge,
        Monitor.step, Monitor.pending]
  | stopServiceLoop =>
      cases hhand : b.monitor.place.inHand with
      | none =>
          simp [bridgeEvents, hhand, JausBridge.step, JausBridge.stopServiceLoop, step, bridge,
            Monitor.step, Monitor.pending]
      | some msg =>
          simp [bridgeEvents, hhand, step, bridge, Monitor.step, Monitor.pending]
  | notify =>
      simp only [bridgeEvents, step, Monitor.step]
      split_ifs <;> simp [bridge, Monitor.pending]
  | wake => simp [bridgeEvents, step, bridge, Monitor.step, Monitor.pending]
  | work now client =>
      rcases work_cases status b now client with ⟨hhand, hwork⟩ | ⟨msg, hplace, hwork⟩
      · rw [step, hwork, bridgeEvents, hhand, bridge_work_of_inHand_none hhand]
        exact ⟨rfl, rfl, rfl⟩
      · have hmonitor : (b.monitor.step .work).1 = { b.monitor with place := .loopTop } := by
          simp [Monitor.step, Monitor.work, hplace]
        cases hrunning : b.monitor.running with
        | true =>
            simp [bridgeEvents, hplace, hrunning, step, hwork, hmonitor, bridge, Monitor.pending,
              Place.inHand, JausBridge.step, JausBridge.serviceLoop]
        | false =>
            -- the stop that found the thread busy happens now
            simp [bridgeEvents, hplace, hrunning, step, hwork, hmonitor, bridge, Monitor.pending,
              Place.inHand, JausBridge.step, JausBridge.serviceLoop, JausBridge.stopServiceLoop]

theorem filterMap_event?_cons (a : ThreadAction) (as : List ThreadAction) :
    (a :: as).filterMap ThreadAction.event? =
      a.event?.toList ++ as.filterMap ThreadAction.event? := by
  rw [List.filterMap_cons]
  cases a.event? <;> rfl

/-- The matching events, but for the stops, are actions of the run in their order. -/
theorem matching_sublist (status : ClientStatus) (b : ThreadedBridge) (as : List ThreadAction) :
    ((matching bridgeEvents (history (step status) b as)).filter (· != .stopServiceLoop)).Sublist
      (as.filterMap ThreadAction.event?) := by
  induction as generalizing b with
  | nil => exact List.Sublist.slnil
  | cons a as ih =>
      have hfirst : ((b.bridgeEvents a).filter (· != .stopServiceLoop)).Sublist
          a.event?.toList := by
        cases a <;> simp only [bridgeEvents, ThreadAction.event?]
        case stopServiceLoop => split_ifs <;> simp
        case work => split_ifs <;> simp
        all_goals simp
      rw [history_cons, matching, List.flatMap_cons, ← matching, List.filter_append,
        filterMap_event?_cons]
      exact hfirst.append (ih _)

/-- The posts among them are all the posts of the run. -/
theorem matching_posts (status : ClientStatus) (b : ThreadedBridge) (as : List ThreadAction) :
    (matching bridgeEvents (history (step status) b as)).filter BridgeEvent.isPost =
      (as.filterMap ThreadAction.event?).filter BridgeEvent.isPost := by
  induction as generalizing b with
  | nil => rfl
  | cons a as ih =>
      have hfirst : (b.bridgeEvents a).filter BridgeEvent.isPost =
          a.event?.toList.filter BridgeEvent.isPost := by
        cases a <;> simp only [bridgeEvents, ThreadAction.event?]
        case stopServiceLoop => split_ifs <;> rfl
        case work => split_ifs <;> rfl
        all_goals rfl
      rw [history_cons, matching, List.flatMap_cons, ← matching, List.filter_append,
        filterMap_event?_cons, List.filter_append, ← hfirst, ← ih]
      rfl

/-- In every interleaving, the threaded bridge does what a bridge does that takes each
iteration of its loop in one step: it gets the same posts, and its machine the
answers at the same times, in the same order; it prints the same, and its machine
has the same effects. -/
theorem refines_bridge (status : ClientStatus) (lastJs : FrcCombinedData)
    (queued : List BridgeMessage) (notifies : ℕ) (as : List ThreadAction) :
    ∃ es, final (JausBridge.step status) (JausBridge.startServiceLoop lastJs queued) es =
        (reached status lastJs queued notifies as).bridge ∧
      (outputs (JausBridge.step status) (JausBridge.startServiceLoop lastJs queued) es).flatMap
          BridgeOutput.effects =
        (outputs (step status) (startServiceLoop lastJs queued notifies) as).flatMap
          BridgeOutput.effects ∧
      (outputs (JausBridge.step status) (JausBridge.startServiceLoop lastJs queued) es).flatMap
          BridgeOutput.printed =
        (outputs (step status) (startServiceLoop lastJs queued notifies) as).flatMap
          BridgeOutput.printed ∧
      es.filter BridgeEvent.isPost =
        (as.filterMap ThreadAction.event?).filter BridgeEvent.isPost ∧
      (es.filter (· != .stopServiceLoop)).Sublist (as.filterMap ThreadAction.event?) := by
  have hstart : (startServiceLoop lastJs queued notifies).bridge =
      JausBridge.startServiceLoop lastJs queued := rfl
  have hstep := fun b a ↦ (step_bridgeEvents status b a).1
  refine ⟨matching bridgeEvents (run status lastJs queued notifies as), ?_, ?_, ?_, ?_, ?_⟩
  · rw [← hstart]
    exact final_matching hstep _ as
  · rw [← hstart]
    exact outputs_matching hstep (fun b a ↦ (step_bridgeEvents status b a).2.1) _ as
  · rw [← hstart]
    exact outputs_matching hstep (fun b a ↦ (step_bridgeEvents status b a).2.2) _ as
  · exact matching_posts status _ as
  · exact matching_sublist status _ as

end ThreadedBridge

end FortAgent.Jaus
