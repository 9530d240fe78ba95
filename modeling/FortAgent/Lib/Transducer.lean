import Mathlib.Data.List.Basic
import Mathlib.Data.List.Induction

/-!
# Deterministic transducers and their histories

A *transducer* is a step function `δ : σ → ι → σ × ο` which consumes one input,
moves to a new state and emits one output.  Whatever reads its inputs one at a
time is of this form: a byte automaton, a table under a sequence of operations,
a state machine driven by calls.

The object of study is the *history* of a run: the list of its steps, each
recorded with the states on both sides.  A statement about order ("this is
preceded by that") is a statement about positions in the history, and is proved
by an invariant relating the history *so far* to the current state.  The one
induction this needs is `history_invariant`; everything built on transducers
uses it instead of inducting over inputs again.

## Main results

* `history_append`, `final_append`: runs compose.
* `history_invariant`: an invariant of pairs (history so far, current state),
  under a condition `C` on the steps taken.
* `outputs_of_simulation`, `final_of_simulation`: a step-wise abstraction of one
  transducer by another lifts to runs.
* `final_matching`, `outputs_matching`: the same where one step is matched by any
  number of steps.
* `CanReach.of_measure`, `not_canReach`: a state is reached by a measure that goes
  down, and missed for good by a trap.
* `IsComponent.history_eq`, `flatMap_component`: the steps of a component within a run
  form a run of the component on its own, and what is seen of them is seen of the run.
-/

namespace Transducer

variable {σ ι ο : Type*}

/-- One step of a run, as an observer of both sides records it. -/
structure Step (σ ι ο : Type*) where
  /-- The state the step was taken from. -/
  before : σ
  /-- The input consumed. -/
  input : ι
  /-- The output emitted. -/
  output : ο
  /-- The state reached. -/
  after : σ

/-- The record of the step taken from `s` on `i`. -/
def record (δ : σ → ι → σ × ο) (s : σ) (i : ι) : Step σ ι ο :=
  ⟨s, i, (δ s i).2, (δ s i).1⟩

/-- The state reached from `s` after the inputs `is`. -/
def final (δ : σ → ι → σ × ο) : σ → List ι → σ
  | s, [] => s
  | s, i :: is => final δ (δ s i).1 is

/-- The steps taken from `s` on the inputs `is`, oldest first. -/
def history (δ : σ → ι → σ × ο) : σ → List ι → List (Step σ ι ο)
  | _, [] => []
  | s, i :: is => record δ s i :: history δ (δ s i).1 is

/-- The outputs emitted from `s` on the inputs `is`, oldest first. -/
def outputs (δ : σ → ι → σ × ο) (s : σ) (is : List ι) : List ο :=
  (history δ s is).map Step.output

/-- `C` holds of every step of a history, each seen together with the steps
that came before it. -/
def Along (C : List (Step σ ι ο) → Step σ ι ο → Prop) (h : List (Step σ ι ο)) : Prop :=
  ∀ past r future, h = past ++ r :: future → C past r

section Runs

variable (δ : σ → ι → σ × ο) (s : σ)

@[simp] theorem record_before (i : ι) : (record δ s i).before = s := rfl
@[simp] theorem record_input (i : ι) : (record δ s i).input = i := rfl
@[simp] theorem record_output (i : ι) : (record δ s i).output = (δ s i).2 := rfl
@[simp] theorem record_after (i : ι) : (record δ s i).after = (δ s i).1 := rfl

@[simp] theorem final_nil : final δ s [] = s := rfl
@[simp] theorem final_cons (i : ι) (is : List ι) :
    final δ s (i :: is) = final δ (δ s i).1 is := rfl

@[simp] theorem history_nil : history δ s [] = [] := rfl
@[simp] theorem history_cons (i : ι) (is : List ι) :
    history δ s (i :: is) = record δ s i :: history δ (δ s i).1 is := rfl

@[simp] theorem outputs_nil : outputs δ s [] = [] := rfl
@[simp] theorem outputs_cons (i : ι) (is : List ι) :
    outputs δ s (i :: is) = (δ s i).2 :: outputs δ (δ s i).1 is := rfl

theorem final_append (is js : List ι) :
    final δ s (is ++ js) = final δ (final δ s is) js := by
  induction is generalizing s with
  | nil => rfl
  | cons i is ih => exact ih (δ s i).1

theorem history_append (is js : List ι) :
    history δ s (is ++ js) = history δ s is ++ history δ (final δ s is) js := by
  induction is generalizing s with
  | nil => rfl
  | cons i is ih => simp only [List.cons_append, history_cons, final_cons, ih]

theorem outputs_append (is js : List ι) :
    outputs δ s (is ++ js) = outputs δ s is ++ outputs δ (final δ s is) js := by
  simp only [outputs, history_append, List.map_append]

/-- The inputs of a history are the inputs of the run. -/
theorem history_inputs (is : List ι) : (history δ s is).map Step.input = is := by
  induction is generalizing s with
  | nil => rfl
  | cons i is ih => simp only [history_cons, List.map_cons, record_input, ih]

end Runs

/-! ## Conditions along a history -/

section Conditions

variable {C : List (Step σ ι ο) → Step σ ι ο → Prop}

/-- A condition along `h ++ [r]` is the condition along `h`, and on its last step. -/
theorem along_concat {h : List (Step σ ι ο)} {r : Step σ ι ο} :
    Along C (h ++ [r]) ↔ Along C h ∧ C h r := by
  constructor
  · intro hC
    refine ⟨fun past q future e ↦ hC past q (future ++ [r]) ?_, hC h r [] rfl⟩
    rw [e, List.append_assoc, List.cons_append]
  · rintro ⟨hC, hr⟩ past q future e
    rcases List.eq_nil_or_concat future with rfl | ⟨future, q', rfl⟩
    · obtain ⟨rfl, hq⟩ := List.append_inj' e rfl
      obtain rfl : r = q := List.singleton_inj.mp hq
      exact hr
    · rw [List.concat_eq_append, ← List.cons_append, ← List.append_assoc] at e
      exact hC past q future (List.append_inj' e rfl).1

/-- A condition along a history is one along its beginning. -/
theorem Along.of_append {h h' : List (Step σ ι ο)} (hC : Along C (h ++ h')) : Along C h :=
  fun past r future e ↦ hC past r (future ++ h') (by rw [e, List.append_assoc, List.cons_append])

/-- A condition that ignores the past holds along a history when it holds of
every step. -/
theorem along_of_forall {D : Step σ ι ο → Prop} {h : List (Step σ ι ο)}
    (hD : ∀ r ∈ h, D r) : Along (fun _ r ↦ D r) h := fun past r _ e ↦
  hD r (e ▸ List.mem_append_right past (List.mem_cons_self ..))

theorem along_iff_forall {D : Step σ ι ο → Prop} {h : List (Step σ ι ο)} :
    Along (fun _ r ↦ D r) h ↔ ∀ r ∈ h, D r := by
  constructor
  · intro hD r hr
    obtain ⟨past, future, hsplit⟩ := List.append_of_mem hr
    exact hD past r future hsplit
  · exact along_of_forall

/-- `Along` with an explicit past, by recursion on the steps still to come. -/
def AlongFrom (C : List (Step σ ι ο) → Step σ ι ο → Prop) :
    List (Step σ ι ο) → List (Step σ ι ο) → Prop
  | _, [] => True
  | past, r :: rs => C past r ∧ AlongFrom C (past ++ [r]) rs

theorem alongFrom_iff {past h : List (Step σ ι ο)} :
    AlongFrom C past h ↔ ∀ qs r rs, h = qs ++ r :: rs → C (past ++ qs) r := by
  induction h generalizing past with
  | nil => exact iff_of_true trivial fun qs r rs e ↦ absurd e (by simp)
  | cons q h ih =>
      rw [AlongFrom, ih]
      constructor
      · rintro ⟨hq, hrest⟩ qs r rs e
        cases qs with
        | nil =>
            obtain ⟨rfl, -⟩ := List.cons.inj e
            rwa [List.append_nil]
        | cons q' qs =>
            obtain ⟨rfl, htail⟩ := List.cons.inj e
            simpa using hrest qs r rs htail
      · intro hall
        refine ⟨by simpa using hall [] q h rfl, fun qs r rs e ↦ ?_⟩
        simpa using hall (q :: qs) r rs (by rw [e, List.cons_append])

theorem along_iff_alongFrom {h : List (Step σ ι ο)} : Along C h ↔ AlongFrom C [] h := by
  rw [alongFrom_iff]
  simp only [List.nil_append, Along]

instance decidableAlongFrom [∀ past r, Decidable (C past r)] :
    (past h : List (Step σ ι ο)) → Decidable (AlongFrom C past h)
  | _, [] => isTrue trivial
  | past, r :: rs => @instDecidableAnd _ _ _ (decidableAlongFrom (past ++ [r]) rs)

instance decidableAlong [∀ past r, Decidable (C past r)] (h : List (Step σ ι ο)) :
    Decidable (Along C h) :=
  decidable_of_iff _ along_iff_alongFrom.symm

/-- A step of a history was taken at the end of the run that led up to it. -/
theorem history_split {δ : σ → ι → σ × ο} {s : σ} {is : List ι}
    {past future : List (Step σ ι ο)} {r : Step σ ι ο}
    (h : history δ s is = past ++ r :: future) :
    ∃ js i, past = history δ s js ∧ r = record δ (final δ s js) i := by
  induction is generalizing s past with
  | nil => exact absurd h (by simp)
  | cons i is ih =>
      cases past with
      | nil => exact ⟨[], i, rfl, (List.cons.inj h).1.symm⟩
      | cons p past =>
          obtain ⟨rfl, htail⟩ := List.cons.inj h
          obtain ⟨js, j, rfl, rfl⟩ := ih htail
          exact ⟨i :: js, j, rfl, rfl⟩

/-- The two parts of a history are histories, the second from where the first has
led to. -/
theorem history_eq_append {δ : σ → ι → σ × ο} {s : σ} {is : List ι}
    {h₁ h₂ : List (Step σ ι ο)} (h : history δ s is = h₁ ++ h₂) :
    ∃ js ks, is = js ++ ks ∧ h₁ = history δ s js ∧ h₂ = history δ (final δ s js) ks := by
  induction h₁ generalizing s is with
  | nil => exact ⟨[], is, rfl, rfl, h.symm⟩
  | cons q h₁ ih =>
      cases is with
      | nil => cases h
      | cons i is =>
          obtain ⟨rfl, htail⟩ := List.cons.inj h
          obtain ⟨js, ks, rfl, rfl, rfl⟩ := ih htail
          exact ⟨i :: js, ks, rfl, rfl, rfl⟩

/-- What the state reached by any run guarantees of its next step holds along
every history. -/
theorem along_history {δ : σ → ι → σ × ο} {s : σ}
    (h : ∀ js i, C (history δ s js) (record δ (final δ s js) i)) (is : List ι) :
    Along C (history δ s is) := by
  intro past r future e
  obtain ⟨js, i, rfl, rfl⟩ := history_split e
  exact h js i

/-- Each step of a history was taken in a state that a run leads up to. -/
theorem exists_record_of_mem_history {δ : σ → ι → σ × ο} {s : σ} {is : List ι}
    {r : Step σ ι ο} (hr : r ∈ history δ s is) :
    ∃ js i, r = record δ (final δ s js) i := by
  obtain ⟨past, future, e⟩ := List.append_of_mem hr
  obtain ⟨js, i, -, hrecord⟩ := history_split e
  exact ⟨js, i, hrecord⟩

/-- What the state reached by any run guarantees of its next step holds of every
step of every history. -/
theorem forall_mem_history {δ : σ → ι → σ × ο} {s : σ} {D : Step σ ι ο → Prop}
    (h : ∀ js i, D (record δ (final δ s js) i)) (is : List ι) :
    ∀ r ∈ history δ s is, D r := by
  intro r hr
  obtain ⟨js, i, rfl⟩ := exists_record_of_mem_history hr
  exact h js i

end Conditions

/-! ## The invariant rule -/

/-- **History invariants.**  If `I` relates the empty history to the initial
state, and every step that meets the condition `C` carries `I` from the history
so far to the history with that step added, then `I` holds at the end of every
run all of whose steps meet `C`. -/
theorem history_invariant (δ : σ → ι → σ × ο) {C : List (Step σ ι ο) → Step σ ι ο → Prop}
    {I : List (Step σ ι ο) → σ → Prop} {s : σ} (hinit : I [] s)
    (hstep : ∀ h t i, I h t → C h (record δ t i) → I (h ++ [record δ t i]) (δ t i).1)
    (is : List ι) (hC : Along C (history δ s is)) : I (history δ s is) (final δ s is) := by
  induction is using List.reverseRecOn with
  | nil => exact hinit
  | append_singleton is i ih =>
      rw [history_append, history_cons, history_nil] at hC ⊢
      rw [final_append, final_cons, final_nil]
      obtain ⟨hC, hr⟩ := along_concat.mp hC
      exact hstep _ _ i (ih hC) hr

/-- **Two conditions.**  If two conditions agree on every step from a state in which an
invariant holds, and each step that is admitted and meets the first keeps the invariant,
then they hold along the same runs of admitted steps. -/
theorem along_iff_along (δ : σ → ι → σ × ο) {A C D : List (Step σ ι ο) → Step σ ι ο → Prop}
    {I : List (Step σ ι ο) → σ → Prop} {s : σ} (hinit : I [] s)
    (hstep : ∀ h t i, I h t → A h (record δ t i) → C h (record δ t i) →
      I (h ++ [record δ t i]) (δ t i).1)
    (hiff : ∀ h t i, I h t → (C h (record δ t i) ↔ D h (record δ t i))) (is : List ι)
    (hA : Along A (history δ s is)) : Along C (history δ s is) ↔ Along D (history δ s is) := by
  induction is using List.reverseRecOn with
  | nil =>
      refine iff_of_true ?_ ?_
      · exact fun past r future e ↦ absurd e (by simp)
      · exact fun past r future e ↦ absurd e (by simp)
  | append_singleton is i ih =>
      rw [history_append, history_cons, history_nil] at hA ⊢
      obtain ⟨hA, -⟩ := along_concat.mp hA
      rw [along_concat, along_concat, ih hA]
      refine and_congr_right fun hD ↦ hiff _ _ i ?_
      have hAC : Along (fun past r ↦ A past r ∧ C past r) (history δ s is) := fun past r future e ↦
        ⟨hA past r future e, (ih hA).mpr hD past r future e⟩
      exact history_invariant δ hinit (fun h t i hI hr ↦ hstep h t i hI hr.1 hr.2) is hAC

/-- `history_invariant` when every step is allowed. -/
theorem history_invariant' (δ : σ → ι → σ × ο) {I : List (Step σ ι ο) → σ → Prop} {s : σ}
    (hinit : I [] s)
    (hstep : ∀ h t i, I h t → I (h ++ [record δ t i]) (δ t i).1) (is : List ι) :
    I (history δ s is) (final δ s is) :=
  history_invariant δ (C := fun _ _ ↦ True) hinit (fun h t i hI _ ↦ hstep h t i hI) is
    (fun _ _ _ _ ↦ trivial)

/-- An invariant of states alone. -/
theorem final_invariant (δ : σ → ι → σ × ο) {I : σ → Prop} {s : σ} (hinit : I s)
    (hstep : ∀ t i, I t → I (δ t i).1) (is : List ι) : I (final δ s is) :=
  history_invariant' δ (I := fun _ t ↦ I t) hinit (fun _ t i ↦ hstep t i) is

/-! ## Reaching a state -/

section Reaching

variable {δ : σ → ι → σ × ο} {A : σ → ι → Prop} {P Q I : σ → Prop} {s : σ}

/-- Some inputs, each of which is allowed where it comes, lead from `s` to a state
with the property `P`. -/
def CanReach (δ : σ → ι → σ × ο) (A : σ → ι → Prop) (s : σ) (P : σ → Prop) : Prop :=
  ∃ is, (∀ r ∈ history δ s is, A r.before r.input) ∧ P (final δ s is)

theorem CanReach.here (h : P s) : CanReach δ A s P := ⟨[], nofun, h⟩

theorem CanReach.head {i : ι} (hA : A s i) (h : CanReach δ A (δ s i).1 P) : CanReach δ A s P := by
  obtain ⟨is, hall, hP⟩ := h
  refine ⟨i :: is, fun r hr ↦ ?_, hP⟩
  rcases List.mem_cons.mp hr with rfl | hr
  · exact hA
  · exact hall r hr

theorem CanReach.bind (h : CanReach δ A s P) (hPQ : ∀ t, P t → CanReach δ A t Q) :
    CanReach δ A s Q := by
  obtain ⟨is, hall, hP⟩ := h
  induction is generalizing s with
  | nil => exact hPQ s hP
  | cons i is ih =>
      refine .head (hall _ (List.mem_cons_self ..)) (ih (fun r hr ↦ ?_) hP)
      exact hall r (List.mem_cons_of_mem _ hr)

/-- **Progress**: while `P` does not hold, some allowed step keeps `I` and lowers the
measure. -/
theorem CanReach.of_measure (μ : σ → ℕ)
    (h : ∀ t, I t → ¬P t → ∃ i, A t i ∧ I (δ t i).1 ∧ μ (δ t i).1 < μ t) (hI : I s) :
    CanReach δ A s fun t ↦ I t ∧ P t := by
  induction hn : μ s using Nat.strongRecOn generalizing s with
  | _ n ih =>
    by_cases hP : P s
    · exact .here ⟨hI, hP⟩
    · obtain ⟨i, hA, hI', hlt⟩ := h s hI hP
      exact .head hA (ih _ (hn ▸ hlt) hI' rfl)

/-- A trap is not left: what every allowed step keeps, and what excludes `P`, keeps a
run from reaching `P`. -/
theorem not_canReach (hI : I s) (hstep : ∀ t i, I t → A t i → I (δ t i).1)
    (hP : ∀ t, I t → ¬P t) : ¬CanReach δ A s P := by
  rintro ⟨is, hall, h⟩
  induction is generalizing s with
  | nil => exact hP s hI h
  | cons i is ih =>
      have hA : A s i := hall _ (List.mem_cons_self ..)
      exact ih (hstep s i hI hA) (fun r hr ↦ hall r (List.mem_cons_of_mem _ hr)) h

end Reaching

/-! ## Abstraction -/

section Simulation

variable {σ' ο' : Type*} {δ : σ → ι → σ × ο} {δ' : σ' → ι → σ' × ο'}
  {abs : σ → σ'} {out : ο → ο'}

/-- If each step of `δ` is a step of `δ'` between the abstracted states, the
same is true of whole runs. -/
theorem final_of_simulation (h : ∀ s i, δ' (abs s) i = (abs (δ s i).1, out (δ s i).2))
    (s : σ) (is : List ι) : final δ' (abs s) is = abs (final δ s is) := by
  induction is generalizing s with
  | nil => rfl
  | cons i is ih => rw [final_cons, final_cons, h, ih]

/-- Under a step-wise abstraction the outputs of a run are abstracted one by one. -/
theorem outputs_of_simulation (h : ∀ s i, δ' (abs s) i = (abs (δ s i).1, out (δ s i).2))
    (s : σ) (is : List ι) : outputs δ' (abs s) is = (outputs δ s is).map out := by
  induction is generalizing s with
  | nil => rfl
  | cons i is ih => rw [outputs_cons, outputs_cons, List.map_cons, h, ih]

end Simulation

/-! ## Refinement -/

section Refinement

variable {σ' ι' ο' υ : Type*} {δ : σ → ι → σ × ο} {δ' : σ' → ι' → σ' × ο'} {abs : σ → σ'}
  {events : σ → ι → List ι'}

/-- The abstract inputs that match the steps of a history. -/
def matching (events : σ → ι → List ι') (h : List (Step σ ι ο)) : List ι' :=
  h.flatMap fun r ↦ events r.before r.input

/-- If each step of `δ` is matched by a run of `δ'` between the abstracted states,
which may be of any length, so is each run. -/
theorem final_matching (h : ∀ s i, final δ' (abs s) (events s i) = abs (δ s i).1)
    (s : σ) (is : List ι) :
    final δ' (abs s) (matching events (history δ s is)) = abs (final δ s is) := by
  induction is generalizing s with
  | nil => rfl
  | cons i is ih =>
      rw [history_cons, matching, List.flatMap_cons, ← matching, final_append, record_before,
        record_input, h, ih, final_cons]

/-- What can be observed of the outputs is then the same in both. -/
theorem outputs_matching {see : ο → List υ} {see' : ο' → List υ}
    (h : ∀ s i, final δ' (abs s) (events s i) = abs (δ s i).1)
    (hsee : ∀ s i, (outputs δ' (abs s) (events s i)).flatMap see' = see (δ s i).2)
    (s : σ) (is : List ι) :
    (outputs δ' (abs s) (matching events (history δ s is))).flatMap see' =
      (outputs δ s is).flatMap see := by
  induction is generalizing s with
  | nil => rfl
  | cons i is ih =>
      rw [history_cons, matching, List.flatMap_cons, ← matching, outputs_append,
        List.flatMap_append, record_before, record_input, hsee, h, ih, outputs_cons,
        List.flatMap_cons]

end Refinement

/-! ## Components -/

section Component

variable {σ' ι' ο' : Type*} {δ : σ → ι → σ × ο} {δ' : σ' → ι' → σ' × ο'}
  {proj : σ → σ'} {sub : Step σ ι ο → Option (Step σ' ι' ο')}

/-- `δ'` is a *component* of `δ`: a step of `δ` leaves the component's state
`proj s` alone, or it contains one step of the component, which `sub` reads off. -/
def IsComponent (δ : σ → ι → σ × ο) (δ' : σ' → ι' → σ' × ο') (proj : σ → σ')
    (sub : Step σ ι ο → Option (Step σ' ι' ο')) : Prop :=
  ∀ s i, (sub (record δ s i) = none ∧ proj (δ s i).1 = proj s) ∨
    ∃ j, sub (record δ s i) = some (record δ' (proj s) j) ∧
      proj (δ s i).1 = (δ' (proj s) j).1

/-- The steps of a component within a run are a run of the component on its own,
which ends in the component's state. -/
theorem IsComponent.history_eq (h : IsComponent δ δ' proj sub) (s : σ) (is : List ι) :
    ∃ js, (history δ s is).filterMap sub = history δ' (proj s) js ∧
      proj (final δ s is) = final δ' (proj s) js := by
  induction is generalizing s with
  | nil => exact ⟨[], rfl, rfl⟩
  | cons i is ih =>
      obtain ⟨js, hhistory, hfinal⟩ := ih (δ s i).1
      rcases h s i with ⟨hsub, hproj⟩ | ⟨j, hsub, hproj⟩
      · refine ⟨js, ?_, ?_⟩
        · rw [history_cons, List.filterMap_cons_none hsub, hhistory, hproj]
        · rw [final_cons, hfinal, hproj]
      · refine ⟨j :: js, ?_, ?_⟩
        · rw [history_cons, List.filterMap_cons_some hsub, hhistory, hproj, history_cons]
        · rw [final_cons, hfinal, hproj, final_cons]

/-- What is seen of the steps of a component is what is seen of the run, if this is so of
each step. -/
theorem flatMap_component {υ : Type*} {f : ο → List υ} {g : ο' → List υ}
    (hstep : ∀ s i, (sub (record δ s i)).toList.flatMap (fun q ↦ g q.output) = f (δ s i).2)
    (s : σ) (is : List ι) :
    ((history δ s is).filterMap sub).flatMap (fun q ↦ g q.output) =
      (history δ s is).flatMap fun r ↦ f r.output := by
  rw [List.filterMap_eq_flatMap_toList, List.flatMap_assoc]
  refine List.flatMap_congr fun r hr ↦ ?_
  obtain ⟨earlier, i, rfl⟩ := exists_record_of_mem_history hr
  exact hstep _ i

end Component

end Transducer
