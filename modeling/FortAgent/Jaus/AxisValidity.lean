import FortAgent.Jaus.Deduplication
import FortAgent.Jaus.Monitoring
import Mathlib.Algebra.Order.Ring.Rat
import Mathlib.Tactic.Linarith

/-!
# The validity of axes

Each axis of a report has a flag of its own that says whether its sample is valid.  The
bridge looks at one of the six, the left X axis, which it reads as a pause.  All six
samples are sent as efforts, whatever the other five flags say.
-/

namespace FortAgent.Jaus

open Joystick Transducer

/-! ## A wrench effort -/

/-- The efforts that a `SetWrenchEffort` message is given, in percent. -/
structure WrenchEffortRec where
  propulsiveLinearEffortX : ℚ
  propulsiveLinearEffortY : ℚ
  propulsiveLinearEffortZ : ℚ
  propulsiveRotationalEffortX : ℚ
  propulsiveRotationalEffortY : ℚ
  propulsiveRotationalEffortZ : ℚ
deriving DecidableEq, Repr

/-- The six efforts, in the order of the structure. -/
def WrenchEffortRec.efforts (record : WrenchEffortRec) : List ℚ :=
  [record.propulsiveLinearEffortX, record.propulsiveLinearEffortY, record.propulsiveLinearEffortZ,
    record.propulsiveRotationalEffortX, record.propulsiveRotationalEffortY,
    record.propulsiveRotationalEffortZ]

/-- The computation is exact here, where the source rounds to a `double`. -/
def normalizeJoysticValue (x : Int) : ℚ :=
  let minRaw : Int := -2047
  let maxRaw : Int := 2047
  let minNorm : ℚ := -100
  let maxNorm : ℚ := 100
  let scale := (maxNorm - minNorm) / (maxRaw - minRaw : Int)
  let midpointRaw := (maxRaw + minRaw : Int) / (2 : ℚ)
  let midpointNorm := (maxNorm + minNorm) / 2
  let x := max x minRaw
  let x := min x maxRaw
  midpointNorm + (x - midpointRaw) * scale

/-- The record of the message that is sent. -/
def JAUSClientImpl.sendWrenchEffort (data : FrcJoystickData) : WrenchEffortRec where
  propulsiveLinearEffortX := normalizeJoysticValue data.leftXAxis.data
  propulsiveLinearEffortY := normalizeJoysticValue data.leftYAxis.data
  propulsiveLinearEffortZ := normalizeJoysticValue data.leftZAxis.data
  propulsiveRotationalEffortX := normalizeJoysticValue data.rightXAxis.data
  propulsiveRotationalEffortY := normalizeJoysticValue data.rightYAxis.data
  propulsiveRotationalEffortZ := normalizeJoysticValue data.rightZAxis.data

/-- An effort for each axis, from the sample of that axis. -/
theorem efforts_sendWrenchEffort (data : FrcJoystickData) :
    (JAUSClientImpl.sendWrenchEffort data).efforts =
      data.axes.map fun axis ↦ normalizeJoysticValue axis.data := rfl

theorem normalizeJoysticValue_eq (x : Int) :
    normalizeJoysticValue x = (min (max x (-2047)) 2047 : Int) * (100 / 2047) := by
  simp only [normalizeJoysticValue]
  norm_num

/-- An effort is a percentage, whatever the sample. -/
theorem normalizeJoysticValue_bounds (x : Int) :
    -100 ≤ normalizeJoysticValue x ∧ normalizeJoysticValue x ≤ 100 := by
  have hlow : (-2047 : ℚ) ≤ (min (max x (-2047)) 2047 : Int) := by
    exact_mod_cast le_min (le_max_right x (-2047)) (by decide)
  have hhigh : ((min (max x (-2047)) 2047 : Int) : ℚ) ≤ 2047 := by
    exact_mod_cast min_le_right (max x (-2047)) 2047
  rw [normalizeJoysticValue_eq]
  constructor
  · linarith
  · linarith

/-! ## Valid axes -/

/-- Every sample of a report is flagged valid. -/
def AxesValid (data : FrcJoystickData) : Prop := ∀ axis ∈ data.axes, axis.dataOK = true

instance (data : FrcJoystickData) : Decidable (AxesValid data) :=
  inferInstanceAs (Decidable (∀ axis ∈ data.axes, axis.dataOK = true))

/-- Each effort that is sent for a report comes from an axis whose own sample is valid. -/
def FromValidAxes (data : FrcJoystickData) : Prop :=
  List.Forall₂ (fun effort axis ↦ effort = normalizeJoysticValue axis.data ∧ axis.dataOK = true)
    (JAUSClientImpl.sendWrenchEffort data).efforts data.axes

theorem fromValidAxes_iff (data : FrcJoystickData) : FromValidAxes data ↔ AxesValid data := by
  rw [FromValidAxes, efforts_sendWrenchEffort, List.forall₂_map_left_iff, List.forall₂_same]
  simp only [true_and]
  rfl

/-- If the report of an event is to be queued, because it differs from the last one and
is no pause, all its axes are valid. -/
def PostsValidAxes (r : BridgeStep) : Prop :=
  match r.input with
  | .postInput input =>
    input ≠ r.before.lastJs → input.isPause = false → AxesValid input.joystickData
  | _ => True

/-- The loop is about to hand this report to a machine in `ReadyState`. -/
structure JausBridge.ReadyFor (b : JausBridge) (input : FrcCombinedData) : Prop where
  running : b.running = true
  ready : b.stateMachine.phase = .readyState
  head : b.inputQueue.head? = some (.joystickInput input)

/-- If an event hands a report to a machine in `ReadyState`, all its axes are valid. -/
def HandlesValidAxes (r : BridgeStep) : Prop :=
  ∀ now client input, r.input = .serve now client → r.before.ReadyFor input →
    AxesValid input.joystickData

/-! ## Where efforts come from -/

/-- A report that an event puts on the queue is posted in it. -/
theorem posted_of_mem_pushed {status : ClientStatus} {b : JausBridge} {e : BridgeEvent}
    {input : FrcCombinedData}
    (h : .joystickInput input ∈ pushed (record (JausBridge.step status) b e)) :
    e = .postInput input ∧ input ≠ b.lastJs ∧ input.isPause = false := by
  cases e with
  | postInput input' =>
      rw [pushed_postInput] at h
      split at h
      · next hqueued =>
          obtain rfl := BridgeMessage.joystickInput.inj (List.mem_singleton.mp h)
          exact ⟨rfl, hqueued⟩
      · cases h
  | postJAUSResponse =>
      rw [pushed_postJAUSResponse] at h
      cases List.mem_singleton.mp h
  | stopServiceLoop =>
      rw [pushed_stopServiceLoop] at h
      cases h
  | serve now client =>
      rw [pushed_serve] at h
      cases h

/-- An effort that is due is that of the input handled. -/
theorem call_of_mem_dueEfforts {s : VehicleState} {call : MachineCall} {data : FrcJoystickData}
    (h : data ∈ dueEfforts s call) :
    ∃ input : FrcCombinedData, call = .handleInput input ∧ data = input.joystickData := by
  cases s with
  | readyState st =>
      cases call with
      | handleInput input => exact ⟨input, rfl, List.mem_singleton.mp h⟩
      | _ => cases h
  | _ => cases h

/-- An effort that is sent in a run is that of an input handed to the machine. -/
theorem handed_of_mem_effortsSent {status : ClientStatus} {b : JausBridge}
    {es : List BridgeEvent} {data : FrcJoystickData}
    (h : data ∈ effortsSent (history (JausBridge.step status) b es)) :
    ∃ input : FrcCombinedData,
      .handleInput input ∈ callsHanded status (history (JausBridge.step status) b es) ∧
        data = input.joystickData := by
  obtain ⟨r, hr, hsent⟩ := List.mem_flatMap.mp h
  obtain ⟨js, e, rfl⟩ := exists_record_of_mem_history hr
  rw [record_output, JausBridge.wrenchEfforts_step] at hsent
  cases htick : (final (JausBridge.step status) b js).tick status e with
  | none =>
      rw [htick] at hsent
      cases hsent
  | some t =>
      rw [htick] at hsent
      obtain ⟨input, hcall, hdata⟩ := call_of_mem_dueEfforts hsent
      refine ⟨input, List.mem_map.mpr ⟨record VehicleStateMachine.step
        (final (JausBridge.step status) b js).stateMachine t,
          List.mem_filterMap.mpr ⟨_, hr, ?_⟩, hcall⟩, hdata⟩
      simp only [JausBridge.machineStep, record_before, record_input, htick, Option.map_some]

/-- An effort that is sent in a run is that of an input which was queued at the outset,
or which was put on the queue. -/
theorem queued_of_mem_effortsSent {status : ClientStatus} {b : JausBridge}
    {es : List BridgeEvent} {data : FrcJoystickData}
    (h : data ∈ effortsSent (history (JausBridge.step status) b es)) :
    ∃ input : FrcCombinedData, data = input.joystickData ∧
      (.joystickInput input ∈ b.inputQueue ∨
        .joystickInput input ∈ queuedIn (history (JausBridge.step status) b es)) := by
  obtain ⟨input, hcall, hdata⟩ := handed_of_mem_effortsSent h
  have hcalls := (queueInvariant_run status b es).calls
  have hmem := hcalls ▸ List.mem_append_left _ hcall
  obtain ⟨msg, hmsg, heq⟩ := List.mem_map.mp hmem
  cases msg with
  | joystickInput input' =>
      obtain rfl := MachineCall.handleInput.inj heq
      exact ⟨input', hdata, List.mem_append.mp hmsg⟩
  | jausResponse => cases heq

/-- Where the reports posted are valid, so are those that are put on the queue. -/
theorem valid_of_mem_queuedIn {status : ClientStatus} {b : JausBridge} {es : List BridgeEvent}
    (hposts : ∀ r ∈ history (JausBridge.step status) b es, PostsValidAxes r)
    {input : FrcCombinedData}
    (h : .joystickInput input ∈ queuedIn (history (JausBridge.step status) b es)) :
    AxesValid input.joystickData := by
  obtain ⟨r, hr, hpushed⟩ := List.mem_flatMap.mp h
  have hvalid := hposts r hr
  obtain ⟨js, e, rfl⟩ := exists_record_of_mem_history hr
  obtain ⟨rfl, hdiffers, hpause⟩ := posted_of_mem_pushed hpushed
  exact hvalid hdiffers hpause

/-- An event sends an effort exactly if the loop hands its input to a machine in
`ReadyState`. -/
theorem mem_wrenchEfforts_step {status : ClientStatus} {b : JausBridge} {e : BridgeEvent}
    {data : FrcJoystickData} :
    data ∈ wrenchEfforts (b.step status e).2.effects ↔
      ∃ now client input, e = .serve now client ∧ b.ReadyFor input ∧
        data = input.joystickData := by
  rw [JausBridge.wrenchEfforts_step]
  constructor
  · intro h
    cases htick : b.tick status e with
    | none =>
        rw [htick] at h
        cases h
    | some t =>
        rw [htick] at h
        obtain ⟨input, hcall, rfl⟩ := call_of_mem_dueEfforts h
        have hready := phase_of_dueEfforts (List.ne_nil_of_mem h)
        cases e with
        | serve now client =>
            obtain ⟨-, hnone, -⟩ | ⟨msg, rest, hrunning, hqueue, hsome, -⟩ :=
              b.serviceLoop_cases status now client
            · rw [hnone] at htick
              cases htick
            · rw [hsome] at htick
              obtain rfl := Option.some.inj htick
              cases msg with
              | joystickInput input' =>
                  obtain rfl := MachineCall.handleInput.inj hcall
                  exact ⟨now, client, _, rfl, ⟨hrunning, hready, by rw [hqueue]; rfl⟩, rfl⟩
              | jausResponse => cases hcall
        | _ => cases htick
  · rintro ⟨now, client, input, rfl, ⟨hrunning, hready, hhead⟩, rfl⟩
    simp only [JausBridge.tick, hrunning, hhead, if_true, Option.map_some, Option.getD_some]
    cases hmachine : b.stateMachine with
    | readyState st => exact List.mem_singleton_self _
    | _ =>
        rw [hmachine] at hready
        cases hready

/-- The efforts of a run are those of the reports handed to a machine in `ReadyState`. -/
theorem forall_effortsSent_iff (status : ClientStatus) (b : JausBridge)
    (es : List BridgeEvent) :
    (∀ data ∈ effortsSent (history (JausBridge.step status) b es), AxesValid data) ↔
      ∀ r ∈ history (JausBridge.step status) b es, HandlesValidAxes r := by
  have hstep : ∀ r ∈ history (JausBridge.step status) b es,
      ((∀ data ∈ wrenchEfforts r.output.effects, AxesValid data) ↔ HandlesValidAxes r) := by
    refine forall_mem_history (fun past e ↦ ?_) es
    rw [record_output]
    constructor
    · intro h now client input he hready
      exact h _ (mem_wrenchEfforts_step.mpr ⟨now, client, input, he, hready, rfl⟩)
    · intro h data hdata
      obtain ⟨now, client, input, rfl, hready, rfl⟩ := mem_wrenchEfforts_step.mp hdata
      exact h now client input rfl hready
  constructor
  · intro h r hr
    exact (hstep r hr).mp fun data hdata ↦ h data (List.mem_flatMap.mpr ⟨r, hr, hdata⟩)
  · intro h data hdata
    obtain ⟨r, hr, hsent⟩ := List.mem_flatMap.mp hdata
    exact (hstep r hr).mpr (h r hr) data hsent

/-! ## The law -/

/-- **Valid axes.**  In a run after the loop has been started, the efforts come from valid
axes exactly if all axes are valid in every report that the loop hands to a machine in
`ReadyState`.  So it is if all axes are valid in the reports that were queued before, and
in every report that is posted, differs from the last one and is no pause. -/
theorem efforts_from_valid_axes (status : ClientStatus) (lastJs : FrcCombinedData)
    (queue : List BridgeMessage) (es : List BridgeEvent) :
    ((∀ data ∈ effortsSent (JausBridge.run status lastJs queue es), FromValidAxes data) ↔
      ∀ r ∈ JausBridge.run status lastJs queue es, HandlesValidAxes r) ∧
    ((∀ data ∈ queuedEfforts queue, AxesValid data) →
      (∀ r ∈ JausBridge.run status lastJs queue es, PostsValidAxes r) →
        ∀ r ∈ JausBridge.run status lastJs queue es, HandlesValidAxes r) := by
  have hexact : (∀ data ∈ effortsSent (JausBridge.run status lastJs queue es),
      AxesValid data) ↔ ∀ r ∈ JausBridge.run status lastJs queue es, HandlesValidAxes r :=
    forall_effortsSent_iff status _ es
  refine ⟨?_, fun hqueue hposts ↦ hexact.mp fun data hdata ↦ ?_⟩
  · simpa only [fromValidAxes_iff] using hexact
  · obtain ⟨input, rfl, hstart | hqueued⟩ := queued_of_mem_effortsSent hdata
    · exact hqueue _ (List.mem_filterMap.mpr ⟨_, hstart, rfl⟩)
    · exact valid_of_mem_queuedIn hposts hqueued

/-- A report whose right stick is all the way along X, in a sample that is flagged invalid.
The left stick is centred. -/
def invalidRightX : FrcCombinedData :=
  .withCrc 0 .centred .centred .centred ⟨0x07FF⟩ .centred .centred

/-- A vehicle is driven at full rate by a sample that is flagged invalid, though all reports
are CRC-valid. -/
theorem effort_from_invalid_axis :
    ¬∀ status lastJs queue es,
      (∀ report ∈ reports (JausBridge.run status lastJs queue es), report.crcValid = true) →
        ∀ data ∈ effortsSent (JausBridge.run status lastJs queue es), FromValidAxes data := by
  intro h
  have hreports : reports (JausBridge.run .steady .zero []
      (readyEvents ++ [.postInput invalidRightX, .serve 0 .favourable])) =
        [.withButtons KeypadButton.rDown.mask, invalidRightX] := rfl
  have hvalid : ∀ report ∈ reports (JausBridge.run .steady .zero []
      (readyEvents ++ [.postInput invalidRightX, .serve 0 .favourable])),
        report.crcValid = true := by
    intro report hreport
    rw [hreports] at hreport
    rcases List.mem_pair.mp hreport with rfl | rfl
    · exact FrcCombinedData.crcValid_withCrc ..
    · exact FrcCombinedData.crcValid_withCrc ..
  have hsent : invalidRightX.joystickData ∈ effortsSent (JausBridge.run .steady .zero []
      (readyEvents ++ [.postInput invalidRightX, .serve 0 .favourable])) := by
    decide +kernel
  have hfrom := h .steady .zero [] _ hvalid _ hsent
  rw [fromValidAxes_iff] at hfrom
  exact absurd hfrom (by decide)

end FortAgent.Jaus
