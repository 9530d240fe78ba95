import Mathlib.Data.Nat.Notation

/-!
# Words, bytes, the steady clock and outcomes

The source keeps its multi-byte values in `uint16_t` and moves them in and out
of byte buffers by shifts and masks.  This file fixes the two directions,
`lowByte`/`highByte` and `wordOf`, and proves them inverse, so that no later
proof unfolds a shift.  It also fixes the unit of `std::chrono::steady_clock`, and
how a call of the source can end.
-/

namespace FortAgent

/-- A reading of `std::chrono::steady_clock`, in nanoseconds. -/
abbrev SteadyTime := Nat

/-- `std::chrono::seconds(n)`, in the clock's own unit. -/
@[irreducible] def seconds (n : Nat) : SteadyTime := n * 1000000000

/-- `w & 0xff`, as a byte. -/
def lowByte (w : UInt16) : UInt8 := (w &&& 0xff).toUInt8

/-- `(w >> 8) & 0xff`, as a byte. -/
def highByte (w : UInt16) : UInt8 := ((w >>> 8) &&& 0xff).toUInt8

/-- `lo | (hi << 8)`. -/
def wordOf (lo hi : UInt8) : UInt16 := lo.toUInt16 ||| (hi.toUInt16 <<< 8)

theorem lowByte_toNat (w : UInt16) : (lowByte w).toNat = w.toNat % 256 := by
  have hmask : w.toNat &&& 255 = w.toNat % 256 := Nat.and_two_pow_sub_one_eq_mod w.toNat 8
  simp only [lowByte, UInt16.toNat_toUInt8, UInt16.toNat_and]
  simp only [UInt16.toNat_ofNat, hmask]
  omega

theorem highByte_toNat (w : UInt16) : (highByte w).toNat = w.toNat / 256 := by
  have hmask : w.toNat / 256 &&& 255 = w.toNat / 256 % 256 :=
    Nat.and_two_pow_sub_one_eq_mod (w.toNat / 256) 8
  have hw := w.toNat_lt
  simp only [highByte, UInt16.toNat_toUInt8, UInt16.toNat_and, UInt16.toNat_shiftRight]
  simp [Nat.shiftRight_eq_div_pow, hmask]
  omega

theorem wordOf_toNat (lo hi : UInt8) : (wordOf lo hi).toNat = lo.toNat + 256 * hi.toNat := by
  have hlo : lo.toNat < 2 ^ 8 := lo.toNat_lt
  have hhi : hi.toNat < 256 := hi.toNat_lt
  have hshift : hi.toNat <<< 8 = 256 * hi.toNat := by rw [Nat.shiftLeft_eq]; omega
  have hmod : 256 * hi.toNat % 65536 = 256 * hi.toNat := Nat.mod_eq_of_lt (by omega)
  simp only [wordOf, UInt16.toNat_or, UInt16.toNat_shiftLeft, UInt8.toNat_toUInt16]
  have h := Nat.two_pow_add_eq_or_of_lt hlo hi.toNat
  simp only [UInt16.toNat_ofNat, Nat.reduceMod, Nat.reducePow, hshift, hmod] at h ⊢
  rw [Nat.or_comm, ← h, Nat.add_comm]

/-- Splitting a word into its two bytes and reading it back loses nothing. -/
@[simp] theorem wordOf_lowByte_highByte (w : UInt16) : wordOf (lowByte w) (highByte w) = w := by
  apply UInt16.toNat_inj.mp
  rw [wordOf_toNat, lowByte_toNat, highByte_toNat]
  omega

@[simp] theorem lowByte_wordOf (lo hi : UInt8) : lowByte (wordOf lo hi) = lo := by
  have hlo := lo.toNat_lt
  apply UInt8.toNat_inj.mp
  rw [lowByte_toNat, wordOf_toNat]
  omega

@[simp] theorem highByte_wordOf (lo hi : UInt8) : highByte (wordOf lo hi) = hi := by
  have hlo := lo.toNat_lt
  apply UInt8.toNat_inj.mp
  rw [highByte_toNat, wordOf_toNat]
  omega

/-! ## Outcomes -/

/-- How a call has ended, if it has. -/
inductive Outcome (α : Type*)
  | returned (value : α)
  /-- By a `std::runtime_error`. -/
  | threw (what : String)
  /-- By a read outside of the memory it was given. -/
  | undefined
  /-- Not within the turns allowed. -/
  | running
deriving DecidableEq, Repr

/-- The result of a call that has returned, changed. -/
def Outcome.map {α β : Type*} (f : α → β) : Outcome α → Outcome β
  | .returned value => .returned (f value)
  | .threw what => .threw what
  | .undefined => .undefined
  | .running => .running

/-- The call has ended, and not by returning. -/
def Outcome.Failed {α : Type*} : Outcome α → Prop
  | .threw _ | .undefined => True
  | _ => False

theorem Outcome.failed_map {α β : Type*} (f : α → β) (o : Outcome α) :
    (o.map f).Failed ↔ o.Failed := by
  cases o <;> rfl

theorem Outcome.eq_returned_of_map {α β : Type*} {f : α → β} {o : Outcome α} {y : β}
    (h : o.map f = .returned y) : ∃ x, o = .returned x ∧ f x = y := by
  cases o with
  | returned x => exact ⟨x, rfl, Outcome.returned.inj h⟩
  | threw what => cases h
  | undefined => cases h
  | running => cases h

/-- The call has returned or thrown. -/
def Outcome.Ended {α : Type*} (o : Outcome α) : Prop :=
  (∃ value, o = .returned value) ∨ ∃ what, o = .threw what

theorem Outcome.not_ended_running {α : Type*} : ¬(.running : Outcome α).Ended := by
  rintro (⟨value, h⟩ | ⟨what, h⟩)
  · cases h
  · cases h

end FortAgent
