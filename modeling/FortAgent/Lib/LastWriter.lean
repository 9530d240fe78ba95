import Mathlib.Data.List.Induction

/-!
# Tables determined by their history

Many tables are of this kind: an operation may *put* an entry at a key, and an
operation that does not *spares* the entry there or removes it.  What spares an
entry depends on the table: overwriting its key does not, nor does emptying the
table, nor a sweep of the entries that have grown too old.

If one step is described in these terms (`Determined`), so is every run: an entry
is present exactly if some operation put it and all later ones spared it.  In
particular, the last writer wins.
-/

namespace LastWriter

variable {σ ι κ ε : Type*}

/-- What is found in the table after an operation was put there by it, or was
found before and has been spared. -/
def Determined (δ : σ → ι → σ) (lookup : σ → κ → Option ε) (Puts Spares : ι → κ → ε → Prop) :
    Prop :=
  ∀ s i k e, lookup (δ s i) k = some e ↔ Puts i k e ∨ lookup s k = some e ∧ Spares i k e

variable {δ : σ → ι → σ} {lookup : σ → κ → Option ε} {Puts Spares : ι → κ → ε → Prop}

/-- Spared entries stay. -/
theorem Determined.foldl_of_spares (h : Determined δ lookup Puts Spares) {s : σ} {is : List ι}
    {k : κ} {e : ε} (hs : lookup s k = some e) (hspares : ∀ i ∈ is, Spares i k e) :
    lookup (is.foldl δ s) k = some e := by
  induction is generalizing s with
  | nil => exact hs
  | cons i is ih =>
      obtain ⟨hi, his⟩ := List.forall_mem_cons.mp hspares
      exact ih ((h s i k e).mpr (.inr ⟨hs, hi⟩)) his

/-- **The last writer wins.**  From an empty table, an entry is present exactly
if it was put and has been spared ever since. -/
theorem Determined.foldl_eq_some_iff (h : Determined δ lookup Puts Spares) {s : σ}
    (hempty : ∀ k, lookup s k = none) {is : List ι} {k : κ} {e : ε} :
    lookup (is.foldl δ s) k = some e ↔
      ∃ before i after, is = before ++ i :: after ∧ Puts i k e ∧ ∀ j ∈ after, Spares j k e := by
  constructor
  · intro hfound
    induction is using List.reverseRecOn with
    | nil => exact absurd hfound (by simp [hempty])
    | append_singleton is i ih =>
        rw [List.foldl_append, List.foldl_cons, List.foldl_nil] at hfound
        rcases (h _ i k e).mp hfound with hput | ⟨hfound, hspared⟩
        · exact ⟨is, i, [], rfl, hput, by simp⟩
        · obtain ⟨before, j, after, rfl, hput, hspares⟩ := ih hfound
          refine ⟨before, j, after ++ [i], by simp, hput, fun j' hj' ↦ ?_⟩
          rcases List.mem_append.mp hj' with hj' | hj'
          · exact hspares j' hj'
          · rwa [List.mem_singleton.mp hj']
  · rintro ⟨before, i, after, rfl, hput, hspares⟩
    rw [List.foldl_append, List.foldl_cons]
    exact h.foldl_of_spares ((h _ i k e).mpr (.inl hput)) hspares

end LastWriter
