import FortAgent.Lib.Transducer
import Mathlib.Data.Nat.Notation
import Mathlib.Data.List.OfFn

/-!
# Ring buffers

A queue of bounded size in a fixed array: the `size` elements lie in consecutive
slots from `first` on, and go on at the start of the array when they reach its end.
The bounds on both are fields, so every ring buffer that can be built is a valid
one.

What matters to a client is the queue (`contents`); what matters to a device that
reads the array is where the elements lie (`arrayOne`).  A transducer that is fed from a
ring buffer until it is empty takes the elements in order (`drain_eq`).
-/

/-- A queue in a circular array. -/
structure RingBuffer (α : Type*) (capacity : ℕ) where
  slots : Vector α capacity
  first : ℕ
  size : ℕ
  first_lt : first < capacity
  size_le : size ≤ capacity

namespace RingBuffer

/-- The ring buffer without an element. -/
def empty {α : Type*} {capacity : ℕ} (slots : Vector α capacity) (h : 0 < capacity) :
    RingBuffer α capacity where
  slots := slots
  first := 0
  size := 0
  first_lt := h
  size_le := Nat.zero_le capacity

variable {α : Type*} {capacity : ℕ} (r : RingBuffer α capacity)

/-- The slot of the `i`-th element. -/
def slotAt (i : ℕ) : ℕ := if r.first + i < capacity then r.first + i else r.first + i - capacity

theorem slotAt_lt {i : ℕ} (h : i ≤ capacity) : r.slotAt i < capacity := by
  have hfirst := r.first_lt
  unfold slotAt
  split <;> omega

/-- Different elements have different slots. -/
theorem slotAt_inj {i j : ℕ} (hi : i < capacity) (hj : j < capacity)
    (h : r.slotAt i = r.slotAt j) : i = j := by
  have hfirst := r.first_lt
  unfold slotAt at h
  split at h <;> split at h <;> omega

/-- The `i`-th element. -/
def get (i : Fin r.size) : α :=
  r.slots.get ⟨r.slotAt i, r.slotAt_lt (Nat.le_of_lt (Nat.lt_of_lt_of_le i.isLt r.size_le))⟩

/-- The elements, oldest first. -/
def contents : List α := List.ofFn r.get

/-- No more elements fit. -/
def full : Bool := r.size == capacity

/-- The number of elements that still fit. -/
def reserve : ℕ := capacity - r.size

/-- Add an element at the end.  A full buffer loses its first element. -/
def pushBack (x : α) : RingBuffer α capacity :=
  if h : r.size < capacity then
    { r with
      slots := r.slots.set (r.slotAt r.size) x (r.slotAt_lt r.size_le)
      size := r.size + 1
      size_le := h }
  else
    { r with
      slots := r.slots.set r.first x r.first_lt
      first := r.slotAt 1
      first_lt := r.slotAt_lt (Nat.lt_of_le_of_lt (Nat.zero_le _) r.first_lt) }

/-- Add elements as long as there is room, and count them. -/
def pushMany (r : RingBuffer α capacity) : List α → RingBuffer α capacity × ℕ
  | [] => (r, 0)
  | x :: xs =>
    if r.full then (r, 0)
    else
      let (r, count) := (r.pushBack x).pushMany xs
      (r, count + 1)

/-- The first slot, and the number of elements that follow without a wrap. -/
def arrayOne : ℕ × ℕ := (r.first, min r.size (capacity - r.first))

theorem full_eq_false_iff : r.full = false ↔ r.size < capacity := by
  have hle := r.size_le
  simp only [full, beq_eq_false_iff_ne]
  omega

/-- Adding an element to a buffer that is not full. -/
theorem contents_pushBack (x : α) (h : r.size < capacity) :
    (r.pushBack x).contents = r.contents ++ [x] := by
  rw [pushBack, dif_pos h]
  unfold contents
  rw [List.ofFn_succ_last]
  have hlast : r.slotAt r.size < capacity := r.slotAt_lt r.size_le
  congr 1
  · congr 1
    funext i
    have hi : i.val < r.size := i.isLt
    -- the new element is in a slot of its own
    have hne : r.slotAt r.size ≠ r.slotAt i.val := fun heq ↦
      Nat.ne_of_gt hi (r.slotAt_inj h (Nat.lt_trans hi h) heq)
    exact Vector.getElem_set_ne hlast (r.slotAt_lt (Nat.le_of_lt (Nat.lt_trans hi h))) hne
  · congr 1
    exact Vector.getElem_set_self hlast

theorem size_pushBack (x : α) (h : r.size < capacity) : (r.pushBack x).size = r.size + 1 := by
  rw [pushBack, dif_pos h]

/-- Adding elements to a buffer adds those that fit. -/
theorem contents_pushMany (xs : List α) :
    (r.pushMany xs).1.contents = r.contents ++ xs.take r.reserve ∧
      (r.pushMany xs).2 = min r.reserve xs.length := by
  induction xs generalizing r with
  | nil => simp [pushMany]
  | cons x xs ih =>
      rw [pushMany]
      cases hfull : r.full with
      | true =>
          have hreserve : r.reserve = 0 := by
            have hsize : r.size = capacity := beq_iff_eq.mp hfull
            rw [reserve, hsize, Nat.sub_self]
          simp [hreserve]
      | false =>
          have hsize : r.size < capacity := r.full_eq_false_iff.mp hfull
          have hreserve : r.reserve = (r.pushBack x).reserve + 1 := by
            have hpush := r.size_pushBack x hsize
            unfold reserve
            omega
          obtain ⟨hcontents, hcount⟩ := ih (r.pushBack x)
          rw [hreserve, List.take_succ_cons, List.length_cons]
          simp only [Bool.false_eq_true, if_false, hcontents, hcount,
            r.contents_pushBack x hsize, List.append_assoc, List.singleton_append, true_and]
          exact (Nat.succ_min_succ _ _).symm

/-- Adding elements that fit leaves the others where they are. -/
theorem first_pushMany (xs : List α) : (r.pushMany xs).1.first = r.first := by
  induction xs generalizing r with
  | nil => rfl
  | cons x xs ih =>
      rw [pushMany]
      cases hfull : r.full with
      | true => rfl
      | false =>
          have hsize : r.size < capacity := r.full_eq_false_iff.mp hfull
          have hfirst : (r.pushBack x).first = r.first := by rw [pushBack, dif_pos hsize]
          exact (ih (r.pushBack x)).trans hfirst

theorem length_contents : r.contents.length = r.size := List.length_ofFn

theorem getElem_contents {i : ℕ} (h : i < r.contents.length) :
    r.contents[i] = r.get ⟨i, r.length_contents ▸ h⟩ := by
  simp only [contents, List.getElem_ofFn]

/-- Remove the first elements, at most all of them. -/
def eraseBegin (n : ℕ) : RingBuffer α capacity where
  slots := r.slots
  first := r.slotAt (min n r.size)
  size := r.size - n
  first_lt := r.slotAt_lt (Nat.le_trans (Nat.min_le_right ..) r.size_le)
  size_le := Nat.le_trans (Nat.sub_le ..) r.size_le

theorem contents_eraseBegin {n : ℕ} (h : n ≤ r.size) :
    (r.eraseBegin n).contents = r.contents.drop n := by
  have hfirst := r.first_lt
  have hsize := r.size_le
  apply List.ext_getElem
  · rw [List.length_drop, length_contents, length_contents]
    rfl
  · intro i hi hi'
    rw [length_contents] at hi
    have hi : i < r.size - n := hi
    have hslot : (r.eraseBegin n).slotAt i = r.slotAt (n + i) := by
      simp only [slotAt, eraseBegin, Nat.min_eq_left h]
      split <;> split <;> (try split) <;> omega
    simp only [List.getElem_drop, getElem_contents, get, hslot]
    rfl

/-- What the array holds in `n` slots from `start` on. -/
def region (start n : ℕ) : List α := (r.slots.toList.drop start).take n

/-- The slots from the first element on hold the first elements, up to the end of the
array. -/
theorem region_first {n : ℕ} (hsize : n ≤ r.size) (hend : r.first + n ≤ capacity) :
    r.region r.first n = r.contents.take n := by
  have hlength := r.length_contents
  apply List.ext_getElem
  · simp only [region, List.length_take, List.length_drop, Vector.length_toList]
    omega
  · intro i hi hi'
    have hin : i < n := Nat.lt_of_lt_of_le hi (List.length_take_le ..)
    have hslot : r.slotAt i = r.first + i := if_pos (by omega)
    simp only [region, List.getElem_take, List.getElem_drop, getElem_contents, get, hslot,
      Vector.getElem_toList]
    rfl

/-! ## Emptying -/

/-- The first element, if there is one. -/
def front? : Option α :=
  if h : 0 < r.size then some (r.get ⟨0, h⟩) else none

theorem front?_eq : r.front? = r.contents.head? := by
  unfold front?
  split
  · next hpos =>
      have hlength : 0 < r.contents.length := r.length_contents ▸ hpos
      rw [List.head?_eq_getElem?, List.getElem?_eq_getElem hlength, getElem_contents]
  · next hempty =>
      have hnil : r.contents = [] := by
        rw [← List.length_eq_zero_iff, length_contents]
        exact Nat.eq_zero_of_not_pos hempty
      rw [hnil]
      rfl

/-- Remove the first element. -/
def popFront : RingBuffer α capacity := r.eraseBegin 1

theorem size_popFront_lt {x : α} (h : r.front? = some x) : r.popFront.size < r.size := by
  unfold front? at h
  split at h
  · next hpos => exact Nat.sub_lt hpos Nat.one_pos
  · cases h

theorem contents_popFront {x : α} (h : r.front? = some x) :
    r.contents = x :: r.popFront.contents := by
  have hsize : 1 ≤ r.size := Nat.lt_of_le_of_lt (Nat.zero_le _) (r.size_popFront_lt h)
  rw [front?_eq] at h
  obtain ⟨rest, hcontents⟩ := List.head?_eq_some_iff.mp h
  rw [popFront, r.contents_eraseBegin hsize, hcontents]
  rfl

section Drain

open Transducer

variable {σ ο : Type*} (δ : σ → α → σ × ο)

/-- Feed the elements to a transducer until none is left.  Returns the buffer, the state of
the transducer and its outputs. -/
def drain (r : RingBuffer α capacity) (s : σ) : RingBuffer α capacity × σ × List ο :=
  match _hfront : r.front? with
  | none => (r, s, [])
  | some x =>
    let rest := drain r.popFront (δ s x).1
    (rest.1, rest.2.1, (δ s x).2 :: rest.2.2)
termination_by r.size
decreasing_by exact r.size_popFront_lt _hfront

/-- **Draining** runs the transducer on the queue, and leaves it empty. -/
theorem drain_eq (s : σ) :
    (r.drain δ s).1.contents = [] ∧
      (r.drain δ s).2 = (final δ s r.contents, outputs δ s r.contents) := by
  fun_induction drain δ r s with
  | case1 r s hnone =>
      have hnil : r.contents = [] := by rwa [front?_eq, List.head?_eq_none_iff] at hnone
      rw [hnil]
      exact ⟨rfl, rfl⟩
  | case2 r s x hsome rest ih =>
      obtain ⟨hempty, hrest⟩ := ih
      obtain ⟨hfinal, houtputs⟩ := Prod.ext_iff.mp hrest
      rw [r.contents_popFront hsome, final_cons, outputs_cons]
      exact ⟨hempty, Prod.ext hfinal (congrArg ((δ s x).2 :: ·) houtputs)⟩

end Drain

end RingBuffer
