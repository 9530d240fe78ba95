import FortAgent.Jaus.Bridge

/-!
# Monitoring of control and heartbeat

`ReadyState` watches the client in `update`, which the interface documents as a
tick of the service loop.  The service loop has no tick: it makes two kinds of
calls, and `update` is neither.  So nothing watches the client while the vehicle
is driven (`never_monitored`), and an input handled in `ReadyState` is driven
whatever the client says.  `drivesWithAuthority_iff` makes this exact: the
vehicle is driven with authority precisely in the runs in which authority is
there on its own whenever such an input comes up.
-/

namespace FortAgent.Jaus

open Joystick Transducer VehicleStateMachine

/-! ## Authority -/

/-- At `now` the heartbeat has been dead for more than a second. -/
def ClientStatus.HeartbeatLost (status : ClientStatus) (now : SteadyTime) : Prop :=
  ∃ since, since + seconds 1 < now ∧
    ∀ t, since ≤ t → t ≤ now → status.isHeartbeatAlive t = false

/-- At `now` the client reports control, and its heartbeat is not lost. -/
def ClientStatus.Authority (status : ClientStatus) (now : SteadyTime) : Prop :=
  status.hasControl now = true ∧ ¬status.HeartbeatLost now

/-- Every effort of a run is sent at a time of authority. -/
def DrivesWithAuthority (status : ClientStatus) (h : List BridgeStep) : Prop :=
  ∀ r ∈ h, ∀ now client, r.input = .serve now client →
    wrenchEfforts r.output.effects ≠ [] → status.Authority now

/-- The loop is about to hand a joystick input to a machine in `ReadyState`. -/
def JausBridge.InputAtReady (b : JausBridge) : Prop :=
  b.running = true ∧ b.stateMachine.phase = .readyState ∧
    ∃ input, b.inputQueue.head? = some (.joystickInput input)

namespace JausBridge

/-! ## One event -/

/-- The efforts sent in an event are those due for its call. -/
theorem wrenchEfforts_step (status : ClientStatus) (b : JausBridge) (e : BridgeEvent) :
    wrenchEfforts (b.step status e).2.effects =
      ((b.tick status e).map fun t ↦ dueEfforts b.stateMachine t.call).getD [] := by
  cases h : b.tick status e with
  | none =>
      rw [(step_of_tick_none h).2]
      rfl
  | some t =>
      rw [(step_of_tick_some h).2, Jaus.wrenchEfforts_step]
      rfl

/-- An effort is due exactly for an input handled in `ReadyState`. -/
theorem dueEfforts_ne_nil {s : VehicleState} {call : MachineCall} :
    dueEfforts s call ≠ [] ↔
      s.phase = .readyState ∧ ∃ input, call = .handleInput input := by
  constructor
  · intro h
    refine ⟨phase_of_dueEfforts h, ?_⟩
    cases call with
    | handleInput input => exact ⟨input, rfl⟩
    | _ => cases s <;> exact absurd rfl h
  · rintro ⟨hphase, input, rfl⟩
    cases s with
    | readyState st => exact List.cons_ne_nil _ _
    | _ => cases hphase

/-- A service iteration sends an effort exactly when an input is at `ReadyState`. -/
theorem wrenchEfforts_serve_ne_nil {status : ClientStatus} {b : JausBridge} {now : SteadyTime}
    {client : ClientAnswers} :
    wrenchEfforts (b.step status (.serve now client)).2.effects ≠ [] ↔ b.InputAtReady := by
  rw [wrenchEfforts_step, InputAtReady]
  simp only [tick]
  cases hrunning : b.running with
  | false => simp
  | true =>
      cases hqueue : b.inputQueue with
      | nil => simp
      | cons msg rest =>
          simp only [if_true, List.head?_cons, Option.map_some, Option.getD_some,
            dueEfforts_ne_nil, true_and]
          cases msg <;> simp [BridgeMessage.call]

/-- The calls of the service loop are inputs and responses. -/
theorem tick_call_ne_update {status : ClientStatus} {b : JausBridge} {e : BridgeEvent} {t : Tick}
    (h : b.tick status e = some t) : t.call ≠ .update := by
  cases e with
  | serve now client =>
      simp only [tick] at h
      split at h
      · obtain ⟨msg, -, rfl⟩ := Option.map_eq_some_iff.mp h
        exact msg.call_ne_update
      · cases h
  | _ => cases h

end JausBridge

/-! ## Runs -/

open JausBridge

/-- **Nothing is monitored.**  In no run does the bridge ask for the heartbeat,
or enter `EmergencyState`. -/
theorem never_monitored (status : ClientStatus) (lastJs : FrcCombinedData)
    (queued : List BridgeMessage) (es : List BridgeEvent) :
    ∀ r ∈ run status lastJs queued es,
      (∀ alive, .isHeartbeatAlive alive ∉ clientCalls r.output.effects) ∧
        .emergencyState ∉ enteredPhases r.output.effects := by
  refine forall_mem_history (fun past e ↦ ?_) es
  have hsettled := settled_reached status lastJs queued past
  rw [record_output]
  cases ht : (reached status lastJs queued past).tick status e with
  | none =>
      rw [(step_of_tick_none ht).2]
      exact ⟨fun _ ↦ List.not_mem_nil, List.not_mem_nil⟩
  | some t =>
      have hcall := tick_call_ne_update ht
      rw [(step_of_tick_some ht).2]
      refine ⟨fun alive halive ↦ ?_, fun hentered ↦ ?_⟩
      · -- only `update` asks for the heartbeat
        exact hcall (madeIn_of_mem_clientCalls _ t _ halive).2
      · -- and only `update` licenses leaving `ReadyState`
        obtain ⟨hlic, hrank⟩ := licenses_of_entered hsettled hentered
        cases hphase : (reached status lastJs queued past).stateMachine.phase with
        | readyState =>
            rw [hphase] at hlic
            exact hcall hlic.1
        | _ =>
            rw [hphase] at hrank
            exact absurd hrank (by decide)

/-- **Driving and authority.**  A run drives with authority if and only if
authority holds at every time at which the loop takes an input off the queue
with the machine in `ReadyState`. -/
theorem drivesWithAuthority_iff (status : ClientStatus) (lastJs : FrcCombinedData)
    (queued : List BridgeMessage) (es : List BridgeEvent) :
    DrivesWithAuthority status (run status lastJs queued es) ↔
      ∀ r ∈ run status lastJs queued es, ∀ now client, r.input = .serve now client →
        r.before.InputAtReady → status.Authority now := by
  have hsent : ∀ r ∈ run status lastJs queued es, ∀ now client, r.input = .serve now client →
      (wrenchEfforts r.output.effects ≠ [] ↔ r.before.InputAtReady) := by
    refine forall_mem_history (fun past e now client hserve ↦ ?_) es
    obtain rfl : e = .serve now client := hserve
    exact wrenchEfforts_serve_ne_nil
  constructor
  · intro h r hr now client hserve hready
    exact h r hr now client hserve ((hsent r hr now client hserve).mpr hready)
  · intro h r hr now client hserve heffort
    exact h r hr now client hserve ((hsent r hr now client hserve).mp heffort)

/-- A client that reports control at time 0 only. -/
def briefControl : ClientStatus := ⟨fun now ↦ now == 0, fun _ ↦ true⟩

/-- The machine is brought to `ReadyState`, and then the stick is deflected. -/
def driveEvents : List BridgeEvent := readyEvents ++ [.postInput .deflected]

/-- Control is lost before the deflection is handled, and the vehicle is driven
all the same. -/
theorem drives_without_control :
    ¬∀ status lastJs queued es, DrivesWithAuthority status (run status lastJs queued es) := by
  intro h
  have hauthority := h briefControl .zero [] (driveEvents ++ [.serve 1 .favourable])
    (record (JausBridge.step briefControl) (reached briefControl .zero [] driveEvents)
      (.serve 1 .favourable)) (by rw [JausBridge.run, history_append]; simp) 1 .favourable rfl
    (by decide +kernel)
  exact absurd hauthority.1 (by decide)

end FortAgent.Jaus
