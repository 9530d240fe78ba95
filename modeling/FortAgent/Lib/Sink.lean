import Mathlib.Data.Nat.Notation
import Mathlib.Data.List.Basic

/-!
# Sinks

A *sink* takes symbols one at a time, and says of each whether it has taken it.  Its
client offers it symbol after symbol, and gives up at the first that is refused
(`offerAll`).

A sink with a limit takes its first `limit` symbols and refuses all others; a sink
without one takes everything.
-/

namespace Sink

variable {σ α ο : Type*}

/-- Offer symbols until one is refused.  Whether all have been taken is returned. -/
def offerAll (put : σ → α → σ × ο) (took : ο → Bool) : σ → List α → σ × Bool
  | s, [] => (s, true)
  | s, a :: as =>
    let offered := put s a
    if took offered.2 then offerAll put took offered.1 as else (offered.1, false)

section Offering

variable (put : σ → α → σ × ο) (took : ο → Bool) (s : σ)

@[simp] theorem offerAll_nil : offerAll put took s [] = (s, true) := rfl

theorem offerAll_cons (a : α) (as : List α) :
    offerAll put took s (a :: as) =
      if took (put s a).2 then offerAll put took (put s a).1 as else ((put s a).1, false) := rfl

theorem offerAll_singleton (a : α) :
    offerAll put took s [a] = ((put s a).1, took (put s a).2) := by
  rw [offerAll_cons]
  cases took (put s a).2 <;> rfl

/-- What comes second is offered if all that comes first has been taken. -/
theorem offerAll_append (as bs : List α) :
    offerAll put took s (as ++ bs) =
      let first := offerAll put took s as
      if first.2 then offerAll put took first.1 bs else first := by
  induction as generalizing s with
  | nil => rfl
  | cons a as ih =>
      rw [List.cons_append, offerAll_cons, offerAll_cons]
      split
      · exact ih (put s a).1
      · rfl

end Offering

/-- The sink takes the first `limit` symbols, or all if there is no limit, and refuses the
others.  `taken` are those it has taken so far. -/
structure TakesFirst (put : σ → α → σ × ο) (took : ο → Bool) (taken : σ → List α)
    (limit : Option ℕ) : Prop where
  takes : ∀ s a, (∀ k ∈ limit, (taken s).length < k) →
    took (put s a).2 = true ∧ taken (put s a).1 = taken s ++ [a]
  refuses : ∀ s a, ∀ k ∈ limit, k ≤ (taken s).length →
    took (put s a).2 = false ∧ taken (put s a).1 = taken s

section Limits

variable {put : σ → α → σ × ο} {took : ο → Bool} {taken : σ → List α}

/-- **Without a limit** all is taken. -/
theorem TakesFirst.offerAll_none (h : TakesFirst put took taken none) (s : σ) (as : List α) :
    taken (offerAll put took s as).1 = taken s ++ as ∧ (offerAll put took s as).2 = true := by
  induction as generalizing s with
  | nil => exact ⟨(List.append_nil _).symm, rfl⟩
  | cons a as ih =>
      obtain ⟨htook, htaken⟩ := h.takes s a nofun
      obtain ⟨hrest, hall⟩ := ih (put s a).1
      rw [offerAll_cons, if_pos htook, hrest, htaken, List.append_assoc]
      exact ⟨rfl, hall⟩

/-- **With a limit** all is taken that there is room for. -/
theorem TakesFirst.offerAll_some {k : ℕ} (h : TakesFirst put took taken (some k)) (s : σ)
    (as : List α) (hroom : (taken s).length ≤ k) :
    taken (offerAll put took s as).1 = taken s ++ as.take (k - (taken s).length) ∧
      ((offerAll put took s as).2 = true ↔ (taken s).length + as.length ≤ k) := by
  induction as generalizing s with
  | nil => exact ⟨by simp, iff_of_true rfl hroom⟩
  | cons a as ih =>
      rw [offerAll_cons]
      rcases Nat.lt_or_eq_of_le hroom with hlt | hfull
      · obtain ⟨htook, htaken⟩ := h.takes s a fun k' hk' ↦ by rwa [← Option.some.inj hk']
        have hlength : (taken (put s a).1).length = (taken s).length + 1 := by
          rw [htaken, List.length_append, List.length_singleton]
        obtain ⟨hrest, hall⟩ := ih (put s a).1 (by rw [hlength]; exact hlt)
        have hsucc : k - (taken s).length = k - ((taken s).length + 1) + 1 := by omega
        rw [if_pos htook, hall, hrest, hlength, htaken, hsucc, List.take_succ_cons,
          List.append_assoc, List.length_cons, Nat.add_assoc, Nat.add_comm 1]
        exact ⟨rfl, Iff.rfl⟩
      · obtain ⟨htook, htaken⟩ := h.refuses s a k rfl (Nat.le_of_eq hfull.symm)
        rw [htook, if_neg Bool.false_ne_true, htaken, hfull, Nat.sub_self, List.take_zero,
          List.append_nil, List.length_cons]
        exact ⟨rfl, iff_of_false Bool.false_ne_true (by omega)⟩

/-- What a new sink has taken, and whether that is all; without a limit there is room for
everything. -/
theorem TakesFirst.offerAll_new {limit : Option ℕ} (h : TakesFirst put took taken limit)
    {s : σ} (hnew : taken s = []) (as : List α) :
    taken (offerAll put took s as).1 = as.take (limit.getD as.length) ∧
      ((offerAll put took s as).2 = true ↔ as.length ≤ limit.getD as.length) := by
  cases limit with
  | none =>
      obtain ⟨htaken, hall⟩ := h.offerAll_none s as
      rw [htaken, hnew, Option.getD_none, List.take_length]
      exact ⟨rfl, iff_of_true hall (Nat.le_refl _)⟩
  | some k =>
      obtain ⟨htaken, hall⟩ := h.offerAll_some s as (by rw [hnew]; exact Nat.zero_le k)
      rw [htaken, hall, hnew, Option.getD_some, List.length_nil, Nat.sub_zero, Nat.zero_add]
      exact ⟨rfl, Iff.rfl⟩

end Limits

end Sink
