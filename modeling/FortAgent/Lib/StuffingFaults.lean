import FortAgent.Lib.ByteStuffing

/-!
# Errors within a frame

The receiver of a byte stuffing reports an error at a symbol that makes no sense
after `esc`, and at a symbol for which it has no room, and drops what it has
collected.  It does not drop what comes next: up to the next `stop` it goes on
collecting as if a frame had begun.

What a receiver makes of a word without a `stop` is thus described by cutting the
word after every error: `flush_eq_message_iff` says that what is delivered is the
content of the last piece, be it the whole word or not.
-/

open Transducer

namespace Stuffing

variable {α : Type*} [DecidableEq α] (c : Stuffing α) (cap : ℕ)

open Receiver (initial put)

/-- A word that ends with the first error in it: an escape of a symbol that has
none, or a symbol too many. -/
inductive ErrorWord : List α → Prop
  | unknownEscape {m : List α} {b : α} (hm : m.length ≤ cap) (hstop : b ≠ c.escStop)
      (hesc : b ≠ c.escEsc) : ErrorWord (c.escape m ++ [c.esc, b])
  | overflow {m : List α} (b : α) (hm : m.length = cap) : ErrorWord (c.escape m ++ c.stuff b)

theorem stuff_ne_nil (b : α) : c.stuff b ≠ [] := by
  unfold stuff
  split
  · exact List.cons_ne_nil _ _
  · split <;> exact List.cons_ne_nil _ _

theorem ErrorWord.ne_nil {w : List α} (h : c.ErrorWord cap w) : w ≠ [] := by
  cases h with
  | unknownEscape => exact List.append_ne_nil_of_right_ne_nil _ (List.cons_ne_nil _ _)
  | overflow b => exact List.append_ne_nil_of_right_ne_nil _ (c.stuff_ne_nil b)

theorem escape_concat (m : List α) (b : α) : c.escape (m ++ [b]) = c.escape m ++ c.stuff b := by
  rw [escape, List.flatMap_append, List.flatMap_singleton]
  rfl

/-! ## Reading forwards -/

section Forwards

variable (least : ℕ)

/-- A stuffed symbol for which there is no room leads to the initial state, and is
reported. -/
theorem overflow_stuff {p : List α} (b : α) (hp : p.length = cap) :
    final (c.receive cap least) ⟨p, false⟩ (c.stuff b) = initial ∧
      .overflow ∈ outputs (c.receive cap least) ⟨p, false⟩ (c.stuff b) := by
  have hfull : cap ≤ p.length := Nat.le_of_eq hp.symm
  by_cases hstop : b = c.stop
  · subst hstop
    simp [receive, put, c.esc_ne_stop, hfull]
  · by_cases hesc : b = c.esc
    · subst hesc
      simp [receive, put, c.esc_ne_stop, c.escEsc_ne_escStop, hfull]
    · simp [c.stuff_of_ne hstop hesc, receive, put, hstop, hesc, hfull]

/-- An error leads from the initial state back to it. -/
theorem final_errorWord {w : List α} (h : c.ErrorWord cap w) :
    final (c.receive cap least) initial w = initial := by
  cases h with
  | @unknownEscape m b hm hstop hesc =>
      obtain ⟨hfinal, -⟩ := c.final_escape cap least (p := []) m (by simpa using hm)
      rw [final_append, initial, hfinal]
      simp [receive, c.esc_ne_stop, hstop, hesc, initial]
  | @overflow m b hm =>
      obtain ⟨hfinal, -⟩ := c.final_escape cap least (p := []) m (by simp [hm])
      rw [final_append, initial, hfinal]
      exact (c.overflow_stuff cap least b hm).1

/-- An error is reported, at the latest at the end of the word. -/
theorem exists_fault_of_errorWord {w : List α} (h : c.ErrorWord cap w) :
    ∃ e ∈ outputs (c.receive cap least) initial w, e.IsFault := by
  cases h with
  | @unknownEscape m b hm hstop hesc =>
      obtain ⟨hfinal, -⟩ := c.final_escape cap least (p := []) m (by simpa using hm)
      refine ⟨.unknownEscape, ?_, trivial⟩
      rw [outputs_append, initial, hfinal]
      simp [receive, c.esc_ne_stop, hstop, hesc]
  | @overflow m b hm =>
      obtain ⟨hfinal, -⟩ := c.final_escape cap least (p := []) m (by simp [hm])
      refine ⟨.overflow, ?_, trivial⟩
      rw [outputs_append, initial, hfinal]
      exact List.mem_append_right _ (c.overflow_stuff cap least b hm).2

theorem final_errorWords {errs : List (List α)} (h : ∀ w ∈ errs, c.ErrorWord cap w) :
    final (c.receive cap least) initial errs.flatten = initial := by
  induction errs with
  | nil => rfl
  | cons w errs ih =>
      obtain ⟨hw, hrest⟩ := List.forall_mem_cons.mp h
      rw [List.flatten_cons, final_append, c.final_errorWord cap least hw, ih hrest]

/-- After any errors, escaped content is taken as it is without them. -/
theorem final_errorWords_escape {errs : List (List α)} {m : List α}
    (h : ∀ w ∈ errs, c.ErrorWord cap w) (hm : m.length ≤ cap) :
    final (c.receive cap least) initial (errs.flatten ++ c.escape m) = ⟨m, false⟩ := by
  obtain ⟨hfinal, -⟩ := c.final_escape cap least (p := []) m (by simpa using hm)
  rw [final_append, c.final_errorWords cap least h, initial, hfinal, List.nil_append]

end Forwards

/-! ## Reading backwards -/

section Backwards

variable (least : ℕ)

/-- How a receiver has come from its initial state to `r` by reading `w`: through
these errors, and what is pending since. -/
structure Explains (errs : List (List α)) (w : List α) (r : Receiver α) : Prop where
  errors : ∀ e ∈ errs, c.ErrorWord cap e
  word : w = errs.flatten ++ c.escape r.pending ++ if r.escaped then [c.esc] else []
  room : r.pending.length ≤ cap

/-- The last symbol has completed the stuffing of `b`. -/
theorem explains_put {errs : List (List α)} {w : List α} {r : Receiver α} {b : α}
    (herrors : ∀ e ∈ errs, c.ErrorWord cap e)
    (hword : w = errs.flatten ++ c.escape r.pending ++ c.stuff b)
    (hroom : r.pending.length ≤ cap) :
    ∃ errs, c.Explains cap errs w (put cap r b).1 := by
  unfold put
  split
  · next hfull =>
      have hpending : r.pending.length = cap := Nat.le_antisymm hroom hfull
      refine ⟨errs ++ [c.escape r.pending ++ c.stuff b], ?_, ?_, Nat.zero_le _⟩
      · intro e he
        rcases List.mem_append.mp he with he | he
        · exact herrors e he
        · rw [List.mem_singleton.mp he]
          exact .overflow b hpending
      · simp [hword, initial]
  · next hfree =>
      refine ⟨errs, herrors, ?_, ?_⟩
      · simp only [hword, escape_concat, Bool.false_eq_true, if_false, List.append_nil,
          List.append_assoc]
      · simp only [List.length_append, List.length_singleton]
        omega

/-- One more symbol that is not `stop`. -/
theorem explains_receive {errs : List (List α)} {w : List α} {r : Receiver α} {b : α}
    (h : c.Explains cap errs w r) (hb : b ≠ c.stop) :
    ∃ errs, c.Explains cap errs (w ++ [b]) (c.receive cap least r b).1 := by
  obtain ⟨pending, escaped⟩ := r
  obtain ⟨herrors, hword, hroom⟩ := h
  cases escaped with
  | true =>
      have hword : w ++ [b] = errs.flatten ++ c.escape pending ++ [c.esc, b] := by simp [hword]
      simp only [receive, if_true]
      split
      · next hstop =>
          refine c.explains_put cap herrors ?_ hroom
          rw [hword, hstop, stuff_stop]
      split
      · next hesc =>
          refine c.explains_put cap herrors ?_ hroom
          rw [hword, hesc, stuff_esc]
      · next hstop hesc =>
          refine ⟨errs ++ [c.escape pending ++ [c.esc, b]], ?_, ?_, Nat.zero_le _⟩
          · intro e he
            rcases List.mem_append.mp he with he | he
            · exact herrors e he
            · rw [List.mem_singleton.mp he]
              exact .unknownEscape hroom hstop hesc
          · simp [hword, initial]
  | false =>
      simp only [receive, Bool.false_eq_true, if_false, if_neg hb]
      split
      · next hesc => exact ⟨errs, herrors, by simp [hword, hesc], hroom⟩
      · next hesc =>
          refine c.explains_put cap herrors ?_ hroom
          rw [hword, c.stuff_of_ne hb hesc]
          simp

/-- Every state reached without a `stop` has an explanation. -/
theorem exists_explains {w : List α} (h : c.stop ∉ w) :
    ∃ errs, c.Explains cap errs w (final (c.receive cap least) initial w) := by
  induction w using List.reverseRecOn with
  | nil => exact ⟨[], by simp, by simp [initial], Nat.zero_le _⟩
  | append_singleton w b ih =>
      obtain ⟨hw, hb⟩ := not_or.mp (List.mem_append.not.mp h)
      obtain ⟨errs, herrs⟩ := ih hw
      rw [final_append]
      exact c.explains_receive cap least herrs fun heq ↦ hb (by simp [heq])

end Backwards

/-- **What is delivered.**  After a word without a `stop`, read in the initial
state, a `stop` delivers the content of the part of the word that follows the last
error. -/
theorem flush_eq_message_iff {least : ℕ} {w m : List α} (h : c.stop ∉ w) :
    flush least (final (c.receive cap least) initial w) = .message m ↔
      least ≤ m.length ∧ m.length ≤ cap ∧
        ∃ errs : List (List α), (∀ e ∈ errs, c.ErrorWord cap e) ∧
          w = errs.flatten ++ c.escape m := by
  constructor
  · intro hflush
    obtain ⟨errs, herrors, hword, hroom⟩ := c.exists_explains cap least h
    generalize final (c.receive cap least) initial w = r at *
    obtain ⟨pending, escaped⟩ := r
    unfold flush at hflush
    split at hflush
    · cases hflush
    · next hescaped =>
        split at hflush
        · next hleast =>
            cases hflush
            refine ⟨hleast, hroom, errs, herrors, ?_⟩
            rw [hword, if_neg hescaped, List.append_nil]
        · cases hflush
  · rintro ⟨hleast, hroom, errs, herrors, rfl⟩
    rw [c.final_errorWords_escape cap least herrors hroom]
    simp [flush, hleast]

/-- **Without an error** the whole word is the escaped form of what is delivered. -/
theorem eq_escape_of_flush {least : ℕ} {w m : List α} (h : c.stop ∉ w)
    (hflush : flush least (final (c.receive cap least) initial w) = .message m)
    (hfaultless : ∀ e ∈ outputs (c.receive cap least) initial w, ¬e.IsFault) :
    m.length ≤ cap ∧ w = c.escape m := by
  obtain ⟨-, hroom, errs, herrors, hword⟩ := (c.flush_eq_message_iff cap h).mp hflush
  refine ⟨hroom, ?_⟩
  cases errs with
  | nil => exact hword
  | cons err errs =>
      obtain ⟨e, he, hfault⟩ :=
        c.exists_fault_of_errorWord cap least (List.forall_mem_cons.mp herrors).1
      refine absurd hfault (hfaultless e ?_)
      rw [hword, List.flatten_cons, List.append_assoc, outputs_append]
      exact List.mem_append_left _ he

/-- The word, as a segment between two `stop`s, leads to the delivery of a part of
it: there is an error in it, and what follows the last one is the escaped form of
something long enough to be a message. -/
def Leaks (least : ℕ) (w : List α) : Prop :=
  ∃ (errs : List (List α)) (m : List α), errs ≠ [] ∧ (∀ e ∈ errs, c.ErrorWord cap e) ∧
    least ≤ m.length ∧ m.length ≤ cap ∧ w = errs.flatten ++ c.escape m

/-- A segment that leaks is not the escaped form of what is delivered. -/
theorem unescape_ne_of_errorWords {errs : List (List α)} {m : List α} (hne : errs ≠ [])
    (herrors : ∀ e ∈ errs, c.ErrorWord cap e) :
    c.unescape (errs.flatten ++ c.escape m) ≠ some m := by
  intro h
  have heq := c.eq_escape_of_unescape h
  have hnil : errs.flatten = [] := List.append_cancel_right (heq.trans (List.nil_append _).symm)
  obtain ⟨e, errs, rfl⟩ := List.exists_cons_of_ne_nil hne
  obtain ⟨he, -⟩ := List.forall_mem_cons.mp herrors
  rw [List.flatten_cons, List.append_eq_nil_iff] at hnil
  exact he.ne_nil c cap hnil.1

end Stuffing
