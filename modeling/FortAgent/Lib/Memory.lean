import Mathlib.Data.Nat.Notation

/-!
# Bounds-checked memory

A buffer is the list of the bytes it has room for.  Reading and writing it is
partial: `none` stands for an access outside the buffer, which a program in C
leaves undefined, so a proof that a run returns `some` is a proof that it stays
inside.  `memmove` copies within one buffer and reads before it writes.

The two lemmas about `memmove` are the ones editing a packet in place needs:
opening a gap in front of a block, and closing one.
-/

namespace Memory

variable {α : Type*}

/-- `mem[i] = x`. -/
def write (mem : List α) (i : Nat) (x : α) : Option (List α) :=
  if i < mem.length then some (mem.set i x) else none

/-- The elements from `start` up to `stop`. -/
def range (mem : List α) (start stop : Nat) : Option (List α) :=
  if start ≤ stop ∧ stop ≤ mem.length then some ((mem.take stop).drop start) else none

/-- `memmove(&mem[dst], &mem[src], n)`. -/
def memmove (mem : List α) (dst src n : Nat) : Option (List α) :=
  if src + n ≤ mem.length ∧ dst + n ≤ mem.length then
    some (mem.take dst ++ (mem.drop src).take n ++ mem.drop (dst + n))
  else none

/-- `a - b` for sizes.  Below zero a size wraps around; since it then exceeds
every buffer, the difference is counted as undefined. -/
def sizeSub (a b : Nat) : Option Nat := if b ≤ a then some (a - b) else none

theorem sizeSub_of_le {a b : Nat} (h : b ≤ a) : sizeSub a b = some (a - b) := if_pos h

theorem range_eq_some_iff {mem elements : List α} {start stop : Nat} :
    range mem start stop = some elements ↔
      (start ≤ stop ∧ stop ≤ mem.length) ∧ (mem.take stop).drop start = elements := by
  rw [range, Option.ite_none_right_eq_some, Option.some_inj]

/-- Memory from one position to another, between what is in front and what is behind. -/
theorem range_append (front elements back : List α) :
    range (front ++ (elements ++ back)) front.length (front.length + elements.length) =
      some elements := by
  have hstop : front.length + elements.length ≤ (front ++ (elements ++ back)).length := by simp
  rw [range, if_pos ⟨Nat.le_add_right .., hstop⟩, ← List.append_assoc, ← List.length_append,
    List.take_left, List.drop_left]

/-- What is read of a buffer is also read with more memory behind it. -/
theorem range_append_right {mem elements : List α} {start stop : Nat} (slack : List α)
    (h : range mem start stop = some elements) :
    range (mem ++ slack) start stop = some elements := by
  obtain ⟨⟨hstart, hstop⟩, helements⟩ := range_eq_some_iff.mp h
  refine range_eq_some_iff.mpr ⟨⟨hstart, ?_⟩, ?_⟩
  · rw [List.length_append]
    exact Nat.le_add_right_of_le hstop
  · rw [List.take_append_of_le_length hstop, helements]

/-- Writing over the first byte after `front`. -/
theorem write_append (front : List α) (x y : α) (back : List α) :
    write (front ++ x :: back) front.length y = some (front ++ y :: back) := by
  simp [write]

/-- Moving `block` up opens a gap in front of it, which keeps its old content,
at the expense of as many bytes of the `slack` behind the block. -/
theorem memmove_open (front block slack : List α) {gap : Nat} (hgap : gap ≤ slack.length) :
    memmove (front ++ block ++ slack) (front.length + gap) front.length block.length =
      some (front ++ (block ++ slack).take gap ++ block ++ slack.drop gap) := by
  have hsize : front.length + gap + block.length = (front ++ block).length + gap := by
    rw [List.length_append]
    omega
  rw [memmove, if_pos (by simp only [List.length_append]; omega)]
  congr 2
  · congr 1
    · rw [List.append_assoc, List.take_length_add_append]
    · rw [List.append_assoc, List.drop_left, List.take_left]
  · rw [hsize, List.drop_length_add_append]

/-- Moving `block` down over `gap` closes it, and leaves as many bytes of the old
content behind the block. -/
theorem memmove_close (front gap block slack : List α) :
    memmove (front ++ gap ++ block ++ slack) front.length (front.length + gap.length)
        block.length =
      some (front ++ block ++ (gap ++ block).drop block.length ++ slack) := by
  rw [memmove, if_pos (by simp only [List.length_append]; omega)]
  congr 1
  rw [List.append_assoc (front ++ gap), ← List.length_append, List.drop_left, List.take_left,
    List.append_assoc, List.append_assoc, List.take_left, List.drop_length_add_append,
    ← List.append_assoc gap, List.drop_append_of_le_length (by simp)]
  simp only [List.append_assoc]

end Memory
