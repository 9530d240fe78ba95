import FortAgent.Jaus.Coherence

/-!
# Can the vehicle still be driven?

The operator wants to come to `ReadyState`.  He presses R-Down and releases it, and the
vehicle answers what it is asked.  Is that always enough, whatever has happened before?

It is not.  A client that waits for an answer which has already come asks no more
questions (`Deaf`), and then the machine gets no more responses than those that are
already in the queue; if they are too few to bring it to `ReadyState` it is `Starved`.
`canBecomeReady_iff` says that this is the only thing that can go wrong, and
`canBecomeReady_of_uninterrupted` that it does not go wrong if no message comes in
between the sending of a request and the setting of the flag.
-/

namespace FortAgent.Jaus

open Joystick Transducer

variable {Status : Type}

/-! ## The operator and the vehicle -/

/-- No status is reported that has not been asked for. -/
def LoopEvent.IsSolicited : LoopEvent Status → Prop
  | .incoming (.reportStatus _) => False
  | _ => True

instance : (e : LoopEvent Status) → Decidable e.IsSolicited
  | .incoming (.reportStatus _) => inferInstanceAs (Decidable False)
  | .incoming (.requestControlResponse _) => inferInstanceAs (Decidable True)
  | .incoming (.reportStatusAnswer _) => inferInstanceAs (Decidable True)
  | .postInput _ => inferInstanceAs (Decidable True)
  | .work _ _ _ => inferInstanceAs (Decidable True)

/-- Nothing is on its way, and no question will be asked. -/
def Exchange.Deaf (exchange : Exchange Status) : Prop :=
  exchange.inFlight = [] ∧ (exchange.client.requestPending = true ∨ exchange.calls ≠ [])

instance (exchange : Exchange Status) : Decidable exchange.Deaf :=
  inferInstanceAs (Decidable (_ ∧ _))

namespace ControlLoop

/-- The responses that the machine has yet to see. -/
def responses (c : ControlLoop Status) : ℕ := c.bridge.inputQueue.count .jausResponse

/-- What the client has been told, and the responses in the queue, are enough to bring
the machine to `ReadyState`, should it wait for either. -/
def Provided (READY : Status) (c : ControlLoop Status) : Prop :=
  (c.phase = .controlState → c.exchange.client.controlGranted = true ∧
    c.exchange.client.currentStatus = READY ∧ 2 ≤ c.responses) ∧
  (c.phase = .standbyState → c.exchange.client.currentStatus = READY ∧ 1 ≤ c.responses)

/-- The machine waits for responses that do not come. -/
def Starved (READY : Status) (c : ControlLoop Status) : Prop :=
  c.exchange.Deaf ∧ ¬c.Provided READY

variable [DecidableEq Status] {READY : Status}

instance (READY : Status) (c : ControlLoop Status) : Decidable (c.Provided READY) :=
  inferInstanceAs (Decidable (_ ∧ _))

instance (READY : Status) (c : ControlLoop Status) : Decidable (c.Starved READY) :=
  inferInstanceAs (Decidable (_ ∧ _))

/-- The vehicle does what it must, and no more. -/
def Cooperates (c : ControlLoop Status) (e : LoopEvent Status) : Prop :=
  c.Admits e ∧ e.IsSolicited

/-- `ReadyState` is reached by some reports of the operator, some steps of the service
thread and some answers of the vehicle. -/
def CanBecomeReady (READY : Status) (c : ControlLoop Status) : Prop :=
  CanReach (step READY) Cooperates c fun c ↦ c.phase = .readyState

/-! ## Starving -/

omit [DecidableEq Status] in
theorem provided_controlState {c : ControlLoop Status} (h : c.phase = .controlState) :
    c.Provided READY ↔ c.exchange.client.controlGranted = true ∧
      c.exchange.client.currentStatus = READY ∧ 2 ≤ c.responses := by
  simp [Provided, h]

omit [DecidableEq Status] in
theorem provided_standbyState {c : ControlLoop Status} (h : c.phase = .standbyState) :
    c.Provided READY ↔ c.exchange.client.currentStatus = READY ∧ 1 ≤ c.responses := by
  simp [Provided, h]

omit [DecidableEq Status] in
theorem provided_of_ne {c : ControlLoop Status} (hcontrol : c.phase ≠ .controlState)
    (hstandby : c.phase ≠ .standbyState) : c.Provided READY :=
  ⟨fun h ↦ absurd h hcontrol, fun h ↦ absurd h hstandby⟩

omit [DecidableEq Status] in
/-- What is provided depends on the state, on what the client has been told, and on the
responses. -/
theorem provided_congr {c d : ControlLoop Status} (hphase : d.phase = c.phase)
    (hclient : d.exchange.client.controlGranted = c.exchange.client.controlGranted ∧
      d.exchange.client.currentStatus = c.exchange.client.currentStatus)
    (hresponses : d.responses = c.responses) : d.Provided READY ↔ c.Provided READY := by
  rw [Provided, Provided, hphase, hclient.1, hclient.2, hresponses]

omit [DecidableEq Status] in
/-- Before a vehicle has been found the client is not deaf. -/
theorem Coherent.not_deaf {c : ControlLoop Status} (hI : c.Coherent)
    (h : c.phase = .initializeState) : ¬c.exchange.Deaf := by
  obtain ⟨hpending, -, hcalls, -⟩ := hI.silent h
  rintro ⟨-, h⟩
  rw [hpending, hcalls] at h
  simp at h

/-- A message that is handled is no help to a machine that is starved, and does not
starve one that is not. -/
theorem Coherent.starved_handle {c : ControlLoop Status} (hI : c.Coherent) {now : SteadyTime}
    {pdList : List Bool} {name : String} {msg : BridgeMessage} {rest : List BridgeMessage}
    (hqueue : c.bridge.inputQueue = msg :: rest) (hvalid : ∀ valid ∈ pdList, valid = true) :
    (c.handle READY now pdList name msg rest).1.Starved READY ↔ c.Starved READY := by
  have hresponses : (c.handle READY now pdList name msg rest).1.responses =
      rest.count .jausResponse := rfl
  cases msg with
  | joystickInput input =>
      have hsame : rest.count .jausResponse = c.responses := by
        rw [responses, hqueue]
        exact (List.count_cons_of_ne (by simp)).symm
      rcases handle_input_cases READY hI now hvalid name input rest with
        ⟨hphase, -, -, hexchange⟩ | ⟨hinit, -, -, hexchange, -⟩ | ⟨hphase, hexchange, -, -⟩
      · rw [Starved, hexchange, provided_congr hphase ⟨by rw [hexchange], by rw [hexchange]⟩
          (hresponses.trans hsame), Starved]
      · refine iff_of_false (fun h ↦ ?_) fun h ↦ hI.not_deaf hinit h.1
        refine hI.not_deaf hinit ?_
        have hdeaf := h.1
        rw [hexchange] at hdeaf
        cases pdList with
        | nil => exact hdeaf
        | cons valid others => exact hdeaf
      · rw [Starved, hexchange, provided_congr hphase ⟨by rw [hexchange], by rw [hexchange]⟩
          (hresponses.trans hsame), Starved]
  | jausResponse =>
      have hone : c.responses = rest.count .jausResponse + 1 := by
        rw [responses, hqueue]
        exact List.count_cons_self
      obtain ⟨hexchange, h⟩ := handle_response_cases READY hI now pdList name rest
      rw [Starved, hexchange, Starved]
      refine and_congr_right fun _ ↦ not_congr ?_
      rcases h with ⟨hold, hgranted, hnew, -⟩ | ⟨hold, hgranted, hsame, -⟩ |
        ⟨hold, hready, hnew, -⟩ | ⟨hold, hready, hsame, -⟩ | ⟨hcontrol, hstandby, hsame, -⟩
      · rw [provided_standbyState hnew, provided_controlState hold, hresponses, hone, hexchange]
        simp [hgranted]
      · have hphase := congrArg VehicleState.phase hsame
        rw [provided_controlState (hphase.trans hold), provided_controlState hold, hexchange]
        simp [hgranted]
      · rw [provided_standbyState hold, hone]
        refine iff_of_true (provided_of_ne ?_ ?_) ⟨hready, Nat.le_add_left 1 _⟩
        · rw [hnew]
          decide
        · rw [hnew]
          decide
      · have hphase := congrArg VehicleState.phase hsame
        rw [provided_standbyState (hphase.trans hold), provided_standbyState hold, hexchange]
        simp [hready]
      · have hphase := congrArg VehicleState.phase hsame
        refine iff_of_true (provided_of_ne ?_ ?_) (provided_of_ne hcontrol hstandby)
        · exact fun h ↦ hcontrol (hphase.symm.trans h)
        · exact fun h ↦ hstandby (hphase.symm.trans h)

/-- Whether a machine is starved does not depend on how far the service thread is. -/
theorem Coherent.starved_work {c : ControlLoop Status} (hI : c.Coherent) {now : SteadyTime}
    {pdList : List Bool} {name : String} (hvalid : ∀ valid ∈ pdList, valid = true) :
    (c.work READY now pdList name).1.Starved READY ↔ c.Starved READY := by
  rcases c.work_cases READY now pdList name with ⟨request, rest, hcalls, hwork⟩ |
    ⟨request, hcalls, hdue, hwork⟩ | ⟨-, -, ⟨-, hwork⟩ | ⟨msg, rest, -, hqueue, hwork⟩⟩
  · rw [hwork, Starved, Starved]
    refine and_congr ?_ Iff.rfl
    refine and_congr_right fun _ ↦ iff_of_true (.inl rfl) (.inr ?_)
    rw [hcalls]
    exact List.cons_ne_nil _ _
  · have hphase : c.phase ≠ .initializeState := fun h ↦ by
      have hnone := (hI.silent h).2.2.2
      rw [hdue] at hnone
      cases hnone
    rw [hwork, Starved, Starved]
    refine and_congr ?_ Iff.rfl
    change c.exchange.inFlight ++ (c.exchange.client.dispatch request).1.toList = [] ∧
      (c.exchange.client.requestPending = true ∨
        c.exchange.calls ++ (c.exchange.client.dispatch request).1.toList ≠ []) ↔ c.exchange.Deaf
    rw [c.exchange.client.dispatch_fst, Exchange.Deaf, hcalls]
    cases hpending : c.exchange.client.requestPending with
    | true => simp
    | false => simp [hI.serverValid hphase]
  · rw [hwork]
  · rw [hwork]
    exact hI.starved_handle hqueue hvalid

omit [DecidableEq Status] in
/-- Nor on the reports of the operator. -/
theorem starved_postInput (c : ControlLoop Status) (input : FrcCombinedData) :
    { c with bridge := (c.bridge.postInput input).1 }.Starved READY ↔ c.Starved READY := by
  refine and_congr Iff.rfl (not_congr (provided_congr ?_ ⟨rfl, rfl⟩ ?_))
  · exact congrArg VehicleState.phase (c.bridge.stateMachine_postInput input)
  · change List.count _ (c.bridge.postInput input).1.inputQueue = List.count _ _
    rw [JausBridge.inputQueue_postInput, List.count_append]
    split <;> rfl

/-- A message that comes in while no call is under way does not starve the machine. -/
theorem not_starved_incoming {c : ControlLoop Status} (hcalls : c.exchange.calls = [])
    (message : Incoming Status) : ¬(c.step READY (.incoming message)).1.Starved READY := by
  rintro ⟨⟨-, h⟩, -⟩
  have hexchange : (c.exchange.incoming message).client.requestPending = false ∧
      (c.exchange.incoming message).calls = c.exchange.calls := by
    cases message <;> exact ⟨rfl, rfl⟩
  rcases h with hpending | hne
  · exact Bool.false_ne_true (hexchange.1.symm.trans hpending)
  · exact hne (hexchange.2.trans hcalls)

/-- A machine that is starved stays so, unless a status comes in that nobody has asked
for. -/
theorem Starved.step {c : ControlLoop Status} (h : c.Starved READY) (hI : c.Coherent)
    {e : LoopEvent Status} (hadmits : c.Admits e) (hsolicited : e.IsSolicited) :
    (c.step READY e).1.Starved READY := by
  cases e with
  | postInput input => exact (c.starved_postInput input).mpr h
  | work now pdList name => exact (hI.starved_work hadmits).mpr h
  | incoming message =>
      have hnone := h.1.1
      cases message with
      | requestControlResponse accepted =>
          rw [Admits, Exchange.Admits, hnone] at hadmits
          cases hadmits
      | reportStatusAnswer status =>
          rw [Admits, Exchange.Admits, hnone] at hadmits
          cases hadmits
      | reportStatus status => exact absurd hsolicited id

/-- A machine that is starved does not come to `ReadyState`. -/
theorem Starved.not_canBecomeReady {c : ControlLoop Status} (h : c.Starved READY)
    (hI : c.Coherent) : ¬c.CanBecomeReady READY := by
  refine not_canReach (I := fun c ↦ c.Coherent ∧ c.Starved READY) ⟨hI, h⟩ ?_ ?_
  · rintro c e ⟨hI, h⟩ ⟨hadmits, hsolicited⟩
    exact ⟨hI.step hadmits, h.step hI hadmits hsolicited⟩
  · rintro c ⟨-, -, h⟩ hready
    refine h (provided_of_ne ?_ ?_)
    · rw [hready]
      decide
    · rw [hready]
      decide

/-! ## Going on -/

/-- Nothing is to be done. -/
def Quiet (c : ControlLoop Status) : Prop :=
  c.bridge.inputQueue = [] ∧ c.due = none ∧ c.exchange.calls = []

/-- The steps of the service thread that are left, at most. -/
def backlog (c : ControlLoop Status) : ℕ :=
  3 * c.bridge.inputQueue.length + 2 * c.due.toList.length + c.exchange.calls.length

/-- A later state has been reached, or nothing has been lost. -/
def Onward (c d : ControlLoop Status) : Prop :=
  c.phase.rank < d.phase.rank ∨ d.phase = c.phase ∧
    (c.bridge.stateMachine.requested = true → d.bridge.stateMachine.requested = true) ∧
    c.exchange.inFlight ⊆ d.exchange.inFlight

omit [DecidableEq Status] in
theorem Onward.refl (c : ControlLoop Status) : c.Onward c :=
  .inr ⟨rfl, id, List.Subset.refl _⟩

omit [DecidableEq Status] in
theorem Onward.rank_le {c d : ControlLoop Status} (h : c.Onward d) :
    c.phase.rank ≤ d.phase.rank := by
  rcases h with hlt | ⟨hphase, -⟩
  · exact Nat.le_of_lt hlt
  · rw [hphase]

omit [DecidableEq Status] in
theorem Onward.trans {c d e : ControlLoop Status} (hcd : c.Onward d) (hde : d.Onward e) :
    c.Onward e := by
  rcases hcd with hlt | ⟨hphase, hrequested, hinFlight⟩
  · rcases hde with hlt' | ⟨hphase', -⟩
    · exact .inl (Nat.lt_trans hlt hlt')
    · exact .inl (hphase' ▸ hlt)
  · rcases hde with hlt | ⟨hphase', hrequested', hinFlight'⟩
    · exact .inl (hphase ▸ hlt)
    · exact .inr ⟨hphase'.trans hphase, hrequested' ∘ hrequested,
        List.Subset.trans hinFlight hinFlight'⟩

theorem Coherent.onward_handle (READY : Status) {c : ControlLoop Status} (hI : c.Coherent)
    (now : SteadyTime) {pdList : List Bool} (hvalid : ∀ valid ∈ pdList, valid = true)
    (name : String) (msg : BridgeMessage) (rest : List BridgeMessage) :
    c.Onward (c.handle READY now pdList name msg rest).1 := by
  have hinFlight : (c.handle READY now pdList name msg rest).1.exchange.inFlight =
      c.exchange.inFlight := by
    rw [ControlLoop.handle]
    dsimp only
    split <;> rfl
  have hsubset : c.exchange.inFlight ⊆
      (c.handle READY now pdList name msg rest).1.exchange.inFlight := by
    rw [hinFlight]
    exact List.Subset.refl _
  cases msg with
  | joystickInput input =>
      rcases handle_input_cases READY hI now hvalid name input rest with
        ⟨hphase, hrequested, -⟩ | ⟨hinit, -, -, -, hphase⟩ | ⟨hphase, -, hrequested, -⟩
      · exact .inr ⟨hphase, hrequested.trans, hsubset⟩
      · rcases hphase with hphase | ⟨hphase, -⟩
        · refine .inr ⟨hphase.trans hinit.symm, fun h ↦ ?_, hsubset⟩
          exact absurd hinit (VehicleState.ne_initializeState_of_requested h)
        · refine .inl ?_
          rw [hinit, hphase]
          decide
      · refine .inr ⟨hphase, fun h ↦ hrequested.trans ?_, hsubset⟩
        exact hI.serverValid (VehicleState.ne_initializeState_of_requested h)
  | jausResponse =>
      obtain ⟨-, h⟩ := handle_response_cases READY hI now pdList name rest
      have hsame (h : (c.handle READY now pdList name .jausResponse rest).1.bridge.stateMachine =
          c.bridge.stateMachine) : c.Onward (c.handle READY now pdList name .jausResponse rest).1 :=
        .inr ⟨congrArg VehicleState.phase h,
          (congrArg VehicleState.requested h).trans, hsubset⟩
      rcases h with ⟨hold, -, hnew, -⟩ | ⟨-, -, h, -⟩ | ⟨hold, -, hnew, -⟩ | ⟨-, -, h, -⟩ |
        ⟨-, -, h, -⟩
      · refine .inl ?_
        rw [hold, hnew]
        decide
      · exact hsame h
      · refine .inl ?_
        rw [hold, hnew]
        decide
      · exact hsame h
      · exact hsame h

theorem Coherent.onward_work {c : ControlLoop Status} (hI : c.Coherent) {now : SteadyTime}
    {pdList : List Bool} {name : String} (hvalid : ∀ valid ∈ pdList, valid = true) :
    c.Onward (c.work READY now pdList name).1 := by
  rcases c.work_cases READY now pdList name with ⟨request, rest, -, hwork⟩ |
    ⟨request, -, -, hwork⟩ | ⟨-, -, ⟨-, hwork⟩ | ⟨msg, rest, -, -, hwork⟩⟩
  · rw [hwork]
    exact .inr ⟨rfl, id, List.Subset.refl _⟩
  · rw [hwork]
    exact .inr ⟨rfl, id, List.subset_append_left _ _⟩
  · rw [hwork]
    exact .refl c
  · rw [hwork]
    exact hI.onward_handle READY now hvalid name msg rest

/-- The service thread gets done. -/
theorem backlog_work_lt {c : ControlLoop Status} (hrunning : c.bridge.running = true)
    (hquiet : ¬c.Quiet) (now : SteadyTime) (pdList : List Bool) (name : String) :
    (c.work READY now pdList name).1.backlog < c.backlog := by
  have hle (request : Option Request) : request.toList.length ≤ 1 := by
    cases request with
    | none => exact Nat.zero_le 1
    | some request => exact Nat.le_refl 1
  rcases c.work_cases READY now pdList name with ⟨request, rest, hcalls, hwork⟩ |
    ⟨request, hcalls, hdue, hwork⟩ | ⟨hcalls, hdue, ⟨hidle, -⟩ | ⟨msg, rest, -, hqueue, hwork⟩⟩
  · rw [hwork]
    refine Nat.add_lt_add_left ?_ _
    change (c.exchange.calls.erase request).length < _
    rw [hcalls, List.erase_cons_head]
    exact Nat.lt_succ_self _
  · rw [hwork, backlog, backlog, hdue, hcalls]
    change 3 * c.bridge.inputQueue.length + 2 * 0 +
      (c.exchange.calls ++ (c.exchange.client.dispatch request).1.toList).length <
        3 * c.bridge.inputQueue.length + 2 * 1 + 0
    rw [hcalls, List.nil_append]
    have := hle (c.exchange.client.dispatch request).1
    omega
  · exfalso
    rcases hidle with hstopped | hempty
    · rw [hrunning] at hstopped
      cases hstopped
    · exact hquiet ⟨hempty, hdue, hcalls⟩
  · have hcalls' : (c.handle READY now pdList name msg rest).1.exchange.calls = [] := by
      rw [ControlLoop.handle]
      dsimp only
      split <;> exact hcalls
    have := hle (c.handle READY now pdList name msg rest).1.due
    rw [hwork, backlog, backlog, hqueue, hcalls']
    change 3 * rest.length + _ + _ < 3 * (rest.length + 1) + _ + _
    simp only [List.length_nil]
    omega

/-- The service thread can work off what there is to do. -/
theorem Coherent.canReach_quiet {c : ControlLoop Status} (hI : c.Coherent)
    (hfed : ¬c.Starved READY) :
    CanReach (ControlLoop.step READY) Cooperates c fun d ↦
      (d.Coherent ∧ ¬d.Starved READY ∧ c.Onward d) ∧ d.Quiet := by
  refine CanReach.of_measure backlog ?_ ⟨hI, hfed, .refl c⟩
  rintro d ⟨hI, hfed, honward⟩ hquiet
  have hvalid : ∀ valid ∈ [true], valid = true := by decide
  refine ⟨.work 0 [true] "", ⟨hvalid, trivial⟩, ⟨hI.step hvalid, ?_, ?_⟩, ?_⟩
  · exact fun h ↦ hfed ((hI.starved_work hvalid).mp h)
  · exact honward.trans (hI.onward_work hvalid)
  · exact backlog_work_lt hI.running hquiet 0 [true] ""

theorem work_of_queue {c : ControlLoop Status} {msg : BridgeMessage} {rest : List BridgeMessage}
    (hrunning : c.bridge.running = true) (hcalls : c.exchange.calls = []) (hdue : c.due = none)
    (hqueue : c.bridge.inputQueue = msg :: rest) (now : SteadyTime) (pdList : List Bool)
    (name : String) :
    c.work READY now pdList name = c.handle READY now pdList name msg rest := by
  rcases c.work_cases READY now pdList name with ⟨request, others, hcalls', -⟩ |
    ⟨request, -, hdue', -⟩ | ⟨-, -, ⟨hidle, -⟩ | ⟨msg', rest', -, hqueue', hwork⟩⟩
  · rw [hcalls] at hcalls'
    cases hcalls'
  · rw [hdue] at hdue'
    cases hdue'
  · rw [hrunning, hqueue] at hidle
    simp at hidle
  · obtain ⟨rfl, rfl⟩ := List.cons.inj (hqueue.symm.trans hqueue')
    exact hwork

/-- R-Down is down. -/
def press : FrcCombinedData := .withButtons KeypadButton.rDown.mask

theorem isRDown_press : isRDown press.keypadData.buttonStatus = true := by decide +kernel

/-- Whatever the last report was, there is one that the bridge takes for a release. -/
theorem exists_release (lastJs : FrcCombinedData) :
    ∃ release : FrcCombinedData, (release ≠ lastJs ∧ release.isPause = false) ∧
      isRDown release.keypadData.buttonStatus = false ∧ press ≠ release := by
  by_cases h : FrcCombinedData.withButtons 0 = lastJs
  · refine ⟨.deflected, ⟨?_, by decide +kernel⟩, by decide +kernel, by decide +kernel⟩
    rw [← h]
    decide +kernel
  · exact ⟨.withButtons 0, ⟨h, by decide +kernel⟩, by decide +kernel, by decide +kernel⟩

/-- The service thread is about to handle a press, which will be seen. -/
def Armed (c : ControlLoop Status) : Prop :=
  c.bridge.inputQueue = [.joystickInput press] ∧ c.due = none ∧ c.exchange.calls = [] ∧
    c.bridge.stateMachine.rDownPressed = some false

/-- The operator's report is put on the queue. -/
theorem Coherent.canReach_postInput {c : ControlLoop Status} (hI : c.Coherent)
    (hfed : ¬c.Starved READY) {input : FrcCombinedData} {P : ControlLoop Status → Prop}
    (hforwarded : input ≠ c.bridge.lastJs ∧ input.isPause = false)
    (h : ∀ d : ControlLoop Status, d.Coherent → ¬d.Starved READY → d.exchange = c.exchange →
      d.due = c.due → d.bridge.stateMachine = c.bridge.stateMachine → d.bridge.lastJs = input →
      d.bridge.inputQueue = c.bridge.inputQueue ++ [.joystickInput input] →
      CanReach (ControlLoop.step READY) Cooperates d P) :
    CanReach (ControlLoop.step READY) Cooperates c P := by
  refine .head (i := .postInput input) ⟨trivial, trivial⟩ (h _ (hI.postInput input)
    (mt (c.starved_postInput input).mp hfed) rfl rfl (c.bridge.stateMachine_postInput input)
    (c.bridge.lastJs_postInput input) ?_)
  refine (c.bridge.inputQueue_postInput input).trans ?_
  rw [if_pos hforwarded]

/-- The service thread handles a message. -/
theorem Coherent.canReach_handle {c : ControlLoop Status} (hI : c.Coherent)
    (hfed : ¬c.Starved READY) {msg : BridgeMessage} {rest : List BridgeMessage}
    {P : ControlLoop Status → Prop} (hcalls : c.exchange.calls = []) (hdue : c.due = none)
    (hqueue : c.bridge.inputQueue = msg :: rest)
    (h : (c.handle READY 0 [true] "" msg rest).1.Coherent →
      ¬(c.handle READY 0 [true] "" msg rest).1.Starved READY →
      CanReach (ControlLoop.step READY) Cooperates (c.handle READY 0 [true] "" msg rest).1 P) :
    CanReach (ControlLoop.step READY) Cooperates c P := by
  have hvalid : ∀ valid ∈ [true], valid = true := by decide
  refine .head (i := .work 0 [true] "") ⟨hvalid, trivial⟩ ?_
  rw [ControlLoop.step, work_of_queue hI.running hcalls hdue hqueue]
  exact h (hI.handle hcalls hdue hqueue hvalid) (mt (hI.starved_handle hqueue hvalid).mp hfed)

/-- A release, a press, and the release has been handled. -/
theorem Coherent.canReach_armed {c : ControlLoop Status} (hI : c.Coherent)
    (hfed : ¬c.Starved READY) (hquiet : c.Quiet) {b : Bool}
    (hb : c.bridge.stateMachine.rDownPressed = some b) :
    CanReach (ControlLoop.step READY) Cooperates c fun d ↦
      d.Coherent ∧ ¬d.Starved READY ∧ d.phase = c.phase ∧ d.Armed := by
  obtain ⟨release, hforwarded, hup, hne⟩ := exists_release c.bridge.lastJs
  obtain ⟨hqueue, hdue, hcalls⟩ := hquiet
  refine hI.canReach_postInput hfed hforwarded
    fun d hI hfed hexchange hdue' hmachine hlast hqueue' ↦ ?_
  have hpress : press ≠ d.bridge.lastJs ∧ press.isPause = false :=
    ⟨hlast.symm ▸ hne, by decide +kernel⟩
  refine hI.canReach_postInput hfed hpress
    fun e hI hfed hexchange' hdue'' hmachine' _ hqueue'' ↦ ?_
  rw [hmachine] at hmachine'
  rw [hqueue', hqueue] at hqueue''
  have hcalls' : e.exchange.calls = [] := by rw [hexchange', hexchange, hcalls]
  have hdetector : e.bridge.stateMachine.rDownPressed = some b := hmachine' ▸ hb
  have hrelease : NoPress b release := by
    rw [NoPress, hup]
    rfl
  obtain ⟨hseen, hphase, -⟩ := VehicleState.handleInput_noPress
    (e.exchange.client.answers READY [true] "") hdetector hrelease
  have hstep : VehicleStateMachine.step e.bridge.stateMachine
      (e.tick READY 0 [true] "" (.joystickInput release)) = _ :=
    VehicleStateMachine.step_noPress hI.settled hdetector hrelease 0 _
  refine hI.canReach_handle hfed hcalls' (by rw [hdue'', hdue', hdue]) hqueue''
    fun hI hfed ↦ .here ⟨hI, hfed, ?_⟩
  rw [Armed, phase, ControlLoop.handle, hstep]
  refine ⟨?_, rfl, rfl, hcalls', ?_⟩
  · exact hphase.trans (congrArg VehicleState.phase hmachine')
  · rw [← hup]
    exact hseen

omit [DecidableEq Status] in
/-- Before `ReadyState` the states have an edge detector. -/
theorem Coherent.exists_rDownPressed {c : ControlLoop Status} (hI : c.Coherent)
    (h : c.phase.rank < 3) : ∃ b, c.bridge.stateMachine.rDownPressed = some b := by
  have hsettled := hI.settled
  rw [phase] at h
  cases hs : c.bridge.stateMachine with
  | initializeState st => exact ⟨_, rfl⟩
  | controlState st => exact ⟨_, rfl⟩
  | standbyState st => exact ⟨_, rfl⟩
  | readyState st =>
      rw [hs] at h
      exact absurd h (Nat.lt_irrefl 3)
  | emergencyState =>
      rw [hs] at h
      exact absurd h (Nat.not_lt.mpr (Nat.le_succ 3))
  | shutdownState st =>
      rw [hs] at hsettled
      exact absurd hsettled VehicleState.not_settled_shutdownState

/-- The machine has come further than `p`. -/
def Beyond (READY : Status) (p : Phase) (c : ControlLoop Status) : Prop :=
  c.Coherent ∧ ¬c.Starved READY ∧ p.rank < c.phase.rank

/-- A press finds the vehicle. -/
theorem Coherent.canReach_control {c : ControlLoop Status} (hI : c.Coherent)
    (hfed : ¬c.Starved READY) (hquiet : c.Quiet) (hphase : c.phase = .initializeState) :
    CanReach (ControlLoop.step READY) Cooperates c (Beyond READY .initializeState) := by
  obtain ⟨b, hb⟩ := hI.exists_rDownPressed (by rw [hphase]; decide)
  refine (hI.canReach_armed hfed hquiet hb).bind ?_
  rintro d ⟨hI, hfed, hsame, hqueue, hdue, hcalls, hup⟩
  refine hI.canReach_handle hfed hcalls hdue hqueue fun hI' hfed' ↦ .here ⟨hI', hfed', ?_⟩
  obtain ⟨hfound, -⟩ := VehicleStateMachine.handleInput_press hI.settled hup
    isRDown_press 0 (d.exchange.client.answers READY [true] "")
  have hnew : (d.handle READY 0 [true] "" (.joystickInput press) []).1.phase = .controlState :=
    hfound (hsame.trans hphase) rfl
  rw [hnew]
  decide

/-- The state has asked, or it does so at the next press. -/
theorem Coherent.canReach_requested {c : ControlLoop Status} (hI : c.Coherent)
    (hfed : ¬c.Starved READY) (hquiet : c.Quiet)
    (hphase : c.phase = .controlState ∨ c.phase = .standbyState) :
    CanReach (ControlLoop.step READY) Cooperates c fun d ↦
      d.Beyond READY c.phase ∨ d.Coherent ∧ ¬d.Starved READY ∧ d.phase = c.phase ∧ d.Quiet ∧
        d.bridge.stateMachine.requested = true := by
  obtain ⟨b, hb⟩ := hI.exists_rDownPressed
    (by rcases hphase with h | h <;> rw [h] <;> decide)
  refine (hI.canReach_armed hfed hquiet hb).bind ?_
  rintro d ⟨hI, hfed, hsame, hqueue, hdue, hcalls, hup⟩
  have hserver : d.exchange.client.serverValid = true :=
    hI.serverValid (by rw [hsame]; rcases hphase with h | h <;> rw [h] <;> decide)
  obtain ⟨-, hcontrol, hstandby⟩ := VehicleStateMachine.handleInput_press hI.settled hup
    isRDown_press 0 (d.exchange.client.answers READY [true] "")
  refine hI.canReach_handle hfed hcalls hdue hqueue fun hI' hfed' ↦ ?_
  have hvalid : ∀ valid ∈ [true], valid = true := by decide
  have honward := hI.onward_handle READY 0 hvalid "" (.joystickInput press) []
  have hrequested : (d.handle READY 0 [true] "" (.joystickInput press)
      []).1.bridge.stateMachine.requested = true := by
    rcases hphase with h | h
    · exact hcontrol (hsame.trans h) (d.exchange.client.sendRequestControl_answer.trans hserver)
    · exact hstandby (hsame.trans h) hserver
  refine (hI'.canReach_quiet hfed').bind ?_
  rintro e ⟨⟨hI, hfed, honward'⟩, hquiet⟩
  rw [← hsame]
  refine .here ?_
  rcases honward' with hlt | ⟨hsame', hkept, -⟩
  · exact .inl ⟨hI, hfed, Nat.lt_of_le_of_lt honward.rank_le hlt⟩
  · rcases honward with hlt | ⟨hsame'', -⟩
    · exact .inl ⟨hI, hfed, hsame' ▸ hlt⟩
    · exact .inr ⟨hI, hfed, hsame'.trans hsame'', hquiet, hkept hrequested⟩

omit [DecidableEq Status] in
/-- A machine that has asked, and is not starved, has a request on its way. -/
theorem Coherent.inFlight_ne_nil {c : ControlLoop Status} (hI : c.Coherent)
    (hfed : ¬c.Starved READY) (hquiet : c.Quiet)
    (hrequested : c.bridge.stateMachine.requested = true) : c.exchange.inFlight ≠ [] := by
  obtain ⟨hqueue, hdue, hcalls⟩ := hquiet
  intro hnone
  have hpending : c.exchange.client.requestPending = true := by
    have hasking := hI.asked hrequested
    rw [Asking, hdue, hcalls, hnone, hqueue] at hasking
    simpa using hasking
  have hresponses : c.responses = 0 := by rw [responses, hqueue]; rfl
  refine hfed ⟨⟨hnone, .inl hpending⟩, fun hprovided ↦ ?_⟩
  rcases VehicleState.phase_of_requested hrequested with h | h
  · have hle := (hprovided.1 h).2.2
    omega
  · have hle := (hprovided.2 h).2
    omega

/-- The vehicle answers, and the machine hears of it. -/
theorem Coherent.canReach_answer {c : ControlLoop Status} (hI : c.Coherent) (hquiet : c.Quiet)
    (message : Incoming Status) {P : ControlLoop Status → Prop}
    (hadmits : c.exchange.Admits message) (hsolicited : (LoopEvent.incoming message).IsSolicited)
    (h : ∀ d : ControlLoop Status, d.Coherent → d.phase = c.phase →
      d.exchange = c.exchange.incoming message →
      (d.handle READY 0 [true] "" .jausResponse []).1.Coherent →
      ¬(d.handle READY 0 [true] "" .jausResponse []).1.Starved READY →
      CanReach (ControlLoop.step READY) Cooperates
        (d.handle READY 0 [true] "" .jausResponse []).1 P) :
    CanReach (ControlLoop.step READY) Cooperates c P := by
  obtain ⟨hqueue, hdue, hcalls⟩ := hquiet
  have hcalls' : (c.exchange.incoming message).calls = [] := by
    cases message <;> exact hcalls
  have hqueue' : (c.step READY (.incoming message)).1.bridge.inputQueue = [.jausResponse] := by
    change c.bridge.inputQueue ++ [.jausResponse] = _
    rw [hqueue]
    rfl
  refine .head (i := .incoming message) ⟨hadmits, hsolicited⟩ ?_
  exact (hI.incoming message).canReach_handle (not_starved_incoming hcalls message) hcalls' hdue
    hqueue' (h _ (hI.incoming message) rfl rfl)

/-- The vehicle accepts. -/
theorem Coherent.canReach_standby {c : ControlLoop Status} (hI : c.Coherent) (hquiet : c.Quiet)
    (hphase : c.phase = .controlState) (hinFlight : c.exchange.inFlight ≠ []) :
    CanReach (ControlLoop.step READY) Cooperates c (Beyond READY .controlState) := by
  have hmem : .requestControl ∈ c.exchange.inFlight := by
    obtain ⟨request, hrequest⟩ := List.exists_mem_of_ne_nil _ hinFlight
    exact hI.kind hphase request (List.mem_append_left _ hrequest) ▸ hrequest
  refine hI.canReach_answer hquiet (.requestControlResponse true) hmem trivial
    fun d hI hsame hexchange hI' hfed' ↦ .here ⟨hI', hfed', ?_⟩
  obtain ⟨-, h⟩ := handle_response_cases READY hI 0 [true] "" []
  have hgranted : d.exchange.client.controlGranted = true := by rw [hexchange]; rfl
  rw [hsame, hphase, hgranted] at h
  rcases h with ⟨-, -, hnew, -⟩ | ⟨-, h, -⟩ | ⟨h, -⟩ | ⟨h, -⟩ | ⟨h, -⟩
  · rw [hnew]
    decide
  · cases h
  · cases h
  · cases h
  · exact absurd rfl h

/-- The vehicle is ready. -/
theorem Coherent.canReach_ready_of_query {c : ControlLoop Status} (hI : c.Coherent)
    (hquiet : c.Quiet) (hphase : c.phase = .standbyState)
    (hmem : .queryStatus ∈ c.exchange.inFlight) :
    CanReach (ControlLoop.step READY) Cooperates c (Beyond READY .standbyState) := by
  refine hI.canReach_answer hquiet (.reportStatusAnswer READY) hmem trivial
    fun d hI hsame hexchange hI' hfed' ↦ .here ⟨hI', hfed', ?_⟩
  obtain ⟨-, h⟩ := handle_response_cases READY hI 0 [true] "" []
  have hready : d.exchange.client.currentStatus = READY := by rw [hexchange]; rfl
  rw [hsame, hphase, hready] at h
  rcases h with ⟨h, -⟩ | ⟨h, -⟩ | ⟨-, -, hnew, -⟩ | ⟨-, h, -⟩ | ⟨-, h, -⟩
  · cases h
  · cases h
  · rw [hnew]
    decide
  · exact absurd rfl h
  · exact absurd rfl h

/-- A status that is due is asked for, if nothing is pending. -/
theorem Coherent.canReach_query {c : ControlLoop Status} (hI : c.Coherent)
    (hfed : ¬c.Starved READY) (hphase : c.phase = .standbyState) (hcalls : c.exchange.calls = [])
    (hdue : c.due = some .queryStatus) (hpending : c.exchange.client.requestPending = false) :
    CanReach (ControlLoop.step READY) Cooperates c fun d ↦ d.Coherent ∧ ¬d.Starved READY ∧
      d.phase = .standbyState ∧ .queryStatus ∈ d.exchange.inFlight := by
  have hvalid : ∀ valid ∈ [true], valid = true := by decide
  refine .head (i := .work 0 [true] "") ⟨hvalid, trivial⟩ (.here ⟨hI.step hvalid,
    mt (hI.starved_work hvalid).mp hfed, ?_⟩)
  have hwork : c.work READY 0 [true] "" = ({ c with
      exchange := (c.exchange.halfStep (.dispatch .queryStatus)).1
      due := none }, []) := by
    simp [work, hcalls, hdue]
  rw [ControlLoop.step, hwork]
  refine ⟨hphase, ?_⟩
  have hserver := hI.serverValid (by rw [hphase]; decide)
  change _ ∈ c.exchange.inFlight ++ (c.exchange.client.dispatch .queryStatus).1.toList
  rw [c.exchange.client.dispatch_fst, if_pos ⟨hserver, hpending⟩]
  exact List.mem_append_right _ (List.mem_singleton_self _)

/-- Whatever the vehicle has been asked for, in the end it says that it is ready. -/
theorem Coherent.canReach_ready {c : ControlLoop Status} (hI : c.Coherent) (hquiet : c.Quiet)
    (hphase : c.phase = .standbyState) (hinFlight : c.exchange.inFlight ≠ []) :
    CanReach (ControlLoop.step READY) Cooperates c (Beyond READY .standbyState) := by
  by_cases hmem : .queryStatus ∈ c.exchange.inFlight
  · exact hI.canReach_ready_of_query hquiet hphase hmem
  have hmem : .requestControl ∈ c.exchange.inFlight := by
    obtain ⟨request, hrequest⟩ := List.exists_mem_of_ne_nil _ hinFlight
    cases request with
    | requestControl => exact hrequest
    | queryStatus => exact absurd hrequest hmem
  have hcalls := hquiet.2.2
  -- an answer to an old request for control makes the machine look, and ask again
  refine hI.canReach_answer hquiet (.requestControlResponse true) hmem trivial
    fun d hI hsame hexchange hI' hfed' ↦ ?_
  obtain ⟨hexchange', h⟩ := handle_response_cases READY hI 0 [true] "" []
  have hphase' : d.phase = .standbyState := hsame.trans hphase
  rw [hphase'] at h
  rcases h with ⟨h, -⟩ | ⟨h, -⟩ | ⟨-, -, hnew, -⟩ | ⟨-, -, hsame', hdue⟩ | ⟨-, h, -⟩
  · cases h
  · cases h
  · refine .here ⟨hI', hfed', ?_⟩
    rw [hnew]
    decide
  · have hstandby := (congrArg VehicleState.phase hsame').trans hphase'
    refine (hI'.canReach_query hfed' hstandby ?_ hdue ?_).bind ?_
    · rw [hexchange', hexchange]
      exact hcalls
    · rw [hexchange', hexchange]
      rfl
    rintro e ⟨hI, hfed, hstandby, hmem⟩
    refine (hI.canReach_quiet hfed).bind ?_
    rintro f ⟨⟨hI, hfed, hlt | ⟨hsame, -, hsubset⟩⟩, hquiet⟩
    · exact .here ⟨hI, hfed, hstandby ▸ hlt⟩
    · exact hI.canReach_ready_of_query hquiet (hsame.trans hstandby) (hsubset hmem)
  · exact absurd rfl h

/-- From each state before `ReadyState` the machine can come further. -/
theorem Coherent.canReach_beyond {c : ControlLoop Status} (hI : c.Coherent)
    (hfed : ¬c.Starved READY) (hrank : c.phase.rank < 3) :
    CanReach (ControlLoop.step READY) Cooperates c (Beyond READY c.phase) := by
  refine (hI.canReach_quiet hfed).bind ?_
  rintro d ⟨⟨hI, hfed, hlt | ⟨hsame, -⟩⟩, hquiet⟩
  · exact .here ⟨hI, hfed, hlt⟩
  rw [← hsame] at hrank ⊢
  have hwaits (hphase : d.phase = .controlState ∨ d.phase = .standbyState) :
      CanReach (ControlLoop.step READY) Cooperates d (Beyond READY d.phase) := by
    refine (hI.canReach_requested hfed hquiet hphase).bind ?_
    rintro e (hbeyond | ⟨hI, hfed, hsame, hquiet, hrequested⟩)
    · exact .here hbeyond
    · have hinFlight := hI.inFlight_ne_nil hfed hquiet hrequested
      rcases hphase with hphase | hphase
      · rw [hphase]
        exact hI.canReach_standby hquiet (hsame.trans hphase) hinFlight
      · rw [hphase]
        exact hI.canReach_ready hquiet (hsame.trans hphase) hinFlight
  cases hphase : d.phase with
  | initializeState => exact hI.canReach_control hfed hquiet hphase
  | controlState => exact hphase ▸ hwaits (.inl hphase)
  | standbyState => exact hphase ▸ hwaits (.inr hphase)
  | readyState =>
      rw [hphase] at hrank
      exact absurd hrank (by decide)
  | emergencyState =>
      rw [hphase] at hrank
      exact absurd hrank (by decide)
  | shutdownState => exact absurd hphase hI.settled.1

/-- A machine that is not starved comes to `ReadyState` in the end. -/
theorem Coherent.canBecomeReady {c : ControlLoop Status} (hI : c.Coherent)
    (hfed : ¬c.Starved READY) : c.CanBecomeReady READY := by
  induction hn : 3 - c.phase.rank using Nat.strongRecOn generalizing c with
  | _ n ih =>
    have hle := hI.rank_le
    by_cases hrank : c.phase.rank = 3
    · exact .here (Phase.rank_injective hrank)
    · refine (hI.canReach_beyond hfed (by omega)).bind ?_
      rintro d ⟨hI, hfed, hlt⟩
      exact ih _ (by omega) hI hfed rfl

end ControlLoop

/-! ## The laws -/

open ControlLoop

variable [DecidableEq Status]

theorem ControlLoop.coherent_final {READY : Status} {c : ControlLoop Status} (hI : c.Coherent)
    {es : List (LoopEvent Status)}
    (hadmits : ∀ r ∈ history (ControlLoop.step READY) c es, r.before.Admits r.input) :
    (final (ControlLoop.step READY) c es).Coherent :=
  history_invariant (ControlLoop.step READY) (C := fun _ r ↦ r.before.Admits r.input)
    (I := fun _ c ↦ c.Coherent) hI (fun _ _ _ hI hr ↦ hI.step hr) es (along_of_forall hadmits)

/-- Whatever has happened: the operator and a vehicle that answers what it is asked, and
no more, can bring the machine to `ReadyState` exactly if it is not starved. -/
theorem canBecomeReady_iff (READY INITIALIZE : Status) (lastJs : FrcCombinedData)
    (queued : List BridgeMessage) (serverValid : Bool) (es : List (LoopEvent Status))
    (hadmits : ∀ r ∈ ControlLoop.run READY lastJs queued serverValid INITIALIZE es,
      r.before.Admits r.input) :
    let c := final (ControlLoop.step READY) (.start lastJs queued serverValid INITIALIZE) es
    c.CanBecomeReady READY ↔ ¬c.Starved READY := by
  intro c
  have hI : c.Coherent := coherent_final (coherent_start ..) hadmits
  exact ⟨fun h hstarved ↦ hstarved.not_canBecomeReady hI h, hI.canBecomeReady⟩

/-- The vehicle rejects the operator before the client waits for its answer. -/
def rejectedEarly : List (LoopEvent Bool) :=
  [.postInput press, .work 0 [true] "", .postInput (.withButtons 0), .work 0 [] "",
    .postInput press, .work 0 [] "", .work 0 [] "", .incoming (.requestControlResponse false),
    .work 0 [] ""]

/-- Then the vehicle is lost to the operator. -/
theorem canBecomeReady_iff_rejectedEarly :
    ¬(final (ControlLoop.step true) (.start (.withButtons 0) [] false false)
      rejectedEarly).CanBecomeReady true := by
  have hiff := canBecomeReady_iff true false (.withButtons 0) [] false rejectedEarly
    (by decide +kernel)
  exact fun h ↦ hiff.mp h (by decide +kernel)

/-- No message comes in while a request has been sent and the flag is not set. -/
def Uninterrupted (c : ControlLoop Status) : LoopEvent Status → Prop
  | .incoming _ => c.exchange.calls = []
  | _ => True

instance (c : ControlLoop Status) : (e : LoopEvent Status) → Decidable (Uninterrupted c e)
  | .incoming _ => inferInstanceAs (Decidable (_ = _))
  | .postInput _ => inferInstanceAs (Decidable True)
  | .work _ _ _ => inferInstanceAs (Decidable True)

/-- Without interruption the machine is not starved. -/
theorem ControlLoop.Coherent.fed_step {READY : Status} {c : ControlLoop Status} (hI : c.Coherent)
    (hfed : ¬c.Starved READY) {e : LoopEvent Status} (hadmits : c.Admits e)
    (hwhole : Uninterrupted c e) : ¬(c.step READY e).1.Starved READY := by
  cases e with
  | postInput input => exact mt (c.starved_postInput input).mp hfed
  | incoming message => exact not_starved_incoming hwhole message
  | work now pdList name => exact mt (hI.starved_work hadmits).mp hfed

/-- If calls are not interrupted, the operator can always come to `ReadyState`, however
often the vehicle has rejected him, whatever it has reported, and whatever else he has
pressed. -/
theorem canBecomeReady_of_uninterrupted (READY INITIALIZE : Status) (lastJs : FrcCombinedData)
    (queued : List BridgeMessage) (serverValid : Bool) (es : List (LoopEvent Status))
    (hadmits : ∀ r ∈ ControlLoop.run READY lastJs queued serverValid INITIALIZE es,
      r.before.Admits r.input ∧ Uninterrupted r.before r.input) :
    (final (ControlLoop.step READY) (.start lastJs queued serverValid INITIALIZE)
      es).CanBecomeReady READY := by
  have hstart := coherent_start lastJs queued serverValid INITIALIZE
  obtain ⟨hI, hfed⟩ := history_invariant (ControlLoop.step READY)
    (C := fun _ r ↦ r.before.Admits r.input ∧ Uninterrupted r.before r.input)
    (I := fun _ c ↦ c.Coherent ∧ ¬c.Starved READY)
    ⟨hstart, fun h ↦ hstart.not_deaf rfl h.1⟩
    (fun _ _ _ ⟨hI, hfed⟩ ⟨hadmits, hwhole⟩ ↦
      ⟨hI.step hadmits, hI.fed_step hfed hadmits hwhole⟩)
    es (along_of_forall hadmits)
  exact hI.canBecomeReady hfed

/-- The vehicle rejects the operator as soon as the client waits for its answer. -/
theorem canBecomeReady_of_uninterrupted_rejected :
    (final (ControlLoop.step true) (.start (.withButtons 0) [] false false)
      [.postInput press, .work 0 [true] "", .postInput (.withButtons 0), .work 0 [] "",
        .postInput press, .work 0 [] "", .work 0 [] "", .work 0 [] "",
        .incoming (.requestControlResponse false)]).CanBecomeReady true :=
  canBecomeReady_of_uninterrupted true false (.withButtons 0) [] false _ (by decide +kernel)

end FortAgent.Jaus
