import Mathlib.Data.List.GetD
import Mathlib.Logic.Function.Iterate

/-!
# Cyclic redundancy checks

A reflected CRC of width `w` is a register that takes in a message bit by bit.  A bit is
added to the lowest place, and then the register moves down by one place; if a one falls
out, the polynomial is added.  Both are linear over `xor`.

If the polynomial has its top bit set, moving down loses nothing
(`shift_eq_zero_iff`).  A message of at most `w` bits can be added to the register all at
once, before it moves (`run_eq_iterate`).  Together this gives that a burst of errors which
is no longer than the register never leaves it zero (`run_burst_ne_zero`).
-/

namespace Crc

variable {w : ℕ} (p : BitVec w)

/-- The register moves down by one place. -/
def shift (s : BitVec w) : BitVec w := if s.getLsbD 0 then (s >>> 1) ^^^ p else s >>> 1

/-- The register takes in one bit. -/
def feed (s : BitVec w) (bit : Bool) : BitVec w := shift p (s ^^^ (BitVec.ofBool bit).setWidth w)

/-- The register takes in a message. -/
def run (s : BitVec w) (bits : List Bool) : BitVec w := bits.foldl (feed p) s

/-- The word with these bits, the lowest first. -/
def word (w : ℕ) (bits : List Bool) : BitVec w := (BitVec.ofBoolListLE bits).setWidth w

@[simp] theorem getLsbD_word (bits : List Bool) (i : ℕ) :
    (word w bits).getLsbD i = (decide (i < w) && bits.getD i false) := by
  simp [word]

@[simp] theorem run_nil (s : BitVec w) : run p s [] = s := rfl

@[simp] theorem run_cons (s : BitVec w) (bit : Bool) (bits : List Bool) :
    run p s (bit :: bits) = run p (feed p s bit) bits := rfl

@[simp] theorem run_append (s : BitVec w) (bits bits' : List Bool) :
    run p s (bits ++ bits') = run p (run p s bits) bits' := List.foldl_append

/-! ## Linearity -/

@[simp] theorem shift_zero : shift p 0#w = 0#w := by simp [shift]

theorem shift_xor (s t : BitVec w) : shift p (s ^^^ t) = shift p s ^^^ shift p t := by
  simp only [shift, BitVec.getLsbD_xor, BitVec.ushiftRight_xor_distrib]
  cases s.getLsbD 0 with
  | false =>
      cases t.getLsbD 0 with
      | false => rfl
      | true => exact BitVec.xor_assoc _ _ _
  | true =>
      cases t.getLsbD 0 with
      | false => simp only [Bool.xor_false, if_true, Bool.false_eq_true, if_false]; ac_rfl
      | true =>
          have hcancel : s >>> 1 ^^^ p ^^^ (t >>> 1 ^^^ p) = s >>> 1 ^^^ t >>> 1 ^^^ (p ^^^ p) := by
            ac_rfl
          simp only [Bool.xor_self, Bool.false_eq_true, if_false, if_true, hcancel,
            BitVec.xor_self, BitVec.xor_zero]

theorem ofBool_xor (a b : Bool) :
    BitVec.ofBool (a ^^ b) = BitVec.ofBool a ^^^ BitVec.ofBool b := by
  cases a <;> cases b <;> rfl

theorem feed_xor (s t : BitVec w) (a b : Bool) :
    feed p (s ^^^ t) (a ^^ b) = feed p s a ^^^ feed p t b := by
  simp only [feed, ← shift_xor, ofBool_xor, BitVec.setWidth_xor]
  congr 1
  ac_rfl

/-- Messages of the same length are taken in independently of each other. -/
theorem run_zipWith_xor (s t : BitVec w) {as bs : List Bool} (h : as.length = bs.length) :
    run p (s ^^^ t) (List.zipWith (· ^^ ·) as bs) = run p s as ^^^ run p t bs := by
  induction as generalizing s t bs with
  | nil =>
      obtain rfl := List.length_eq_zero_iff.mp h.symm
      rfl
  | cons a as ih =>
      cases bs with
      | nil => cases h
      | cons b bs =>
          rw [List.zipWith_cons_cons, run_cons, run_cons, run_cons, feed_xor]
          exact ih _ _ (Nat.succ.inj h)

/-! ## Nothing is lost -/

/-- A register that is zero after it has moved was zero before. -/
theorem shift_eq_zero_iff (hp : p.msb = true) {s : BitVec w} : shift p s = 0#w ↔ s = 0#w := by
  constructor
  · intro h
    rw [shift] at h
    split at h
    · have hmsb := congrArg BitVec.msb (BitVec.xor_eq_zero_iff.mp h)
      rw [BitVec.msb_ushiftRight, hp] at hmsb
      cases hmsb
    · next hlow =>
        apply BitVec.eq_of_getLsbD_eq
        intro i hi
        cases i with
        | zero => simpa using hlow
        | succ i =>
            have hbit := congrArg (BitVec.getLsbD · i) h
            simpa [BitVec.getLsbD_ushiftRight, Nat.add_comm] using hbit
  · rintro rfl
    exact shift_zero p

theorem iterate_shift_eq_zero_iff (hp : p.msb = true) (n : ℕ) {s : BitVec w} :
    (shift p)^[n] s = 0#w ↔ s = 0#w := by
  induction n with
  | zero => rfl
  | succ n ih => rw [Function.iterate_succ_apply', shift_eq_zero_iff p hp, ih]

/-! ## Taking in many bits at once -/

/-- Zeros only move the register. -/
theorem run_replicate_false (s : BitVec w) (n : ℕ) :
    run p s (List.replicate n false) = (shift p)^[n] s := by
  induction n generalizing s with
  | zero => rfl
  | succ n ih =>
      have hfeed : feed p s false = shift p s := by simp [feed]
      rw [List.replicate_succ, run_cons, ih, hfeed, Function.iterate_succ_apply]

/-- A word moves down by one place, if its lowest bit is zero and its top bit is none of
its message. -/
theorem shift_word_cons_false {bits : List Bool} (h : bits.length < w) :
    shift p (word w (false :: bits)) = word w bits := by
  have hlow : (word w (false :: bits)).getLsbD 0 = false := by simp
  rw [shift, hlow, if_neg Bool.false_ne_true]
  apply BitVec.eq_of_getLsbD_eq
  intro i hi
  rw [BitVec.getLsbD_ushiftRight, getLsbD_word, getLsbD_word, Nat.add_comm 1 i,
    List.getD_cons_succ, decide_eq_true hi]
  by_cases htop : i + 1 < w
  · rw [decide_eq_true htop]
  · rw [List.getD_eq_default _ _ (by omega), Bool.and_false, Bool.and_false]

theorem word_cons (bit : Bool) (bits : List Bool) :
    word w (bit :: bits) = (BitVec.ofBool bit).setWidth w ^^^ word w (false :: bits) := by
  apply BitVec.eq_of_getLsbD_eq
  intro i hi
  rw [BitVec.getLsbD_xor, BitVec.getLsbD_setWidth, BitVec.getLsbD_ofBool, getLsbD_word,
    getLsbD_word]
  cases i <;> simp [hi]

/-- **A short message** can be added to the register before it moves. -/
theorem run_eq_iterate (s : BitVec w) {bits : List Bool} (h : bits.length ≤ w) :
    run p s bits = (shift p)^[bits.length] (s ^^^ word w bits) := by
  induction bits generalizing s with
  | nil => simp [word, BitVec.ofBoolListLE]
  | cons bit bits ih =>
      rw [run_cons, ih _ (Nat.le_of_succ_le h), feed, ← shift_word_cons_false p h, ← shift_xor,
        List.length_cons, Function.iterate_succ_apply, word_cons bit bits, ← BitVec.xor_assoc]

/-- After a word in the length of the register, the register is zero exactly if the word
was in it. -/
theorem run_word_eq_zero_iff (hp : p.msb = true) (s : BitVec w) {bits : List Bool}
    (h : bits.length = w) : run p s bits = 0#w ↔ s = word w bits := by
  rw [run_eq_iterate p s (Nat.le_of_eq h), iterate_shift_eq_zero_iff p hp,
    BitVec.xor_eq_zero_iff]

/-! ## Bursts -/

/-- Some bits are set, and all that are set are within `n` consecutive ones. -/
def Burst (n : ℕ) (bits : List Bool) : Prop :=
  true ∈ bits ∧ ∃ start, ∀ i, bits[i]? = some true → start ≤ i ∧ i < start + n

/-- A burst is in one of two parts, or both. -/
theorem Burst.of_append {n : ℕ} {bits bits' : List Bool} (h : Burst n (bits ++ bits')) :
    Burst n bits ∨ Burst n bits' := by
  obtain ⟨hset, start, hwithin⟩ := h
  rcases List.mem_append.mp hset with hset | hset
  · refine .inl ⟨hset, start, fun i hi ↦ hwithin i ?_⟩
    rw [List.getElem?_append_left (List.getElem?_eq_some_iff.mp hi).1, hi]
  · refine .inr ⟨hset, start - bits.length, fun i hi ↦ ?_⟩
    have hshifted : (bits ++ bits')[i + bits.length]? = some true := by
      rw [List.getElem?_append_right (Nat.le_add_left _ _), Nat.add_sub_cancel, hi]
    have := hwithin _ hshifted
    omega

theorem eq_replicate_of_not_set {bits : List Bool} (h : true ∉ bits) :
    bits = List.replicate bits.length false := by
  refine List.eq_replicate_iff.mpr ⟨rfl, fun bit hbit ↦ ?_⟩
  cases bit with
  | false => rfl
  | true => exact absurd hbit h

theorem not_set_replicate_false (n : ℕ) : true ∉ List.replicate n false := by
  intro h
  cases List.eq_of_mem_replicate h

/-- A burst has zeros before and after it. -/
theorem burst_iff {n : ℕ} {bits : List Bool} :
    Burst n bits ↔ ∃ front burst back,
      bits = List.replicate front false ++ burst ++ List.replicate back false ∧
        burst.length ≤ n ∧ true ∈ burst := by
  constructor
  · rintro ⟨hset, start, hwithin⟩
    have hfront : true ∉ bits.take start := by
      intro hmem
      obtain ⟨i, hi⟩ := List.mem_iff_getElem?.mp hmem
      rw [List.getElem?_take] at hi
      split at hi
      · next hlt => exact absurd (hwithin i hi).1 (Nat.not_le.mpr hlt)
      · cases hi
    have hback : true ∉ bits.drop (start + n) := by
      intro hmem
      obtain ⟨i, hi⟩ := List.mem_iff_getElem?.mp hmem
      rw [List.getElem?_drop] at hi
      exact absurd (hwithin _ hi).2 (by omega)
    have hsplit : bits = bits.take start ++ (bits.drop start).take n ++ bits.drop (start + n) := by
      rw [List.append_assoc, ← List.drop_drop, List.take_append_drop, List.take_append_drop]
    refine ⟨(bits.take start).length, (bits.drop start).take n, (bits.drop (start + n)).length, ?_,
      List.length_take_le _ _, ?_⟩
    · rw [← eq_replicate_of_not_set hfront, ← eq_replicate_of_not_set hback]
      exact hsplit
    · rw [hsplit, List.mem_append, List.mem_append] at hset
      exact (hset.resolve_right hback).resolve_left hfront
  · rintro ⟨front, burst, back, rfl, hle, hset⟩
    refine ⟨List.mem_append_left _ (List.mem_append_right _ hset), front, fun i hi ↦ ?_⟩
    by_cases hlow : i < front
    · rw [List.append_assoc, List.getElem?_append_left (by simpa using hlow)] at hi
      exact absurd (List.mem_of_getElem? hi) (not_set_replicate_false front)
    · by_cases hhigh : i < front + burst.length
      · omega
      · rw [List.getElem?_append_right (by simpa using Nat.not_lt.mp hhigh)] at hi
        exact absurd (List.mem_of_getElem? hi) (not_set_replicate_false back)

/-- A word with a bit set is not zero. -/
theorem word_ne_zero {bits : List Bool} (hle : bits.length ≤ w) (hset : true ∈ bits) :
    word w bits ≠ 0#w := by
  intro hzero
  obtain ⟨i, hi⟩ := List.mem_iff_getElem?.mp hset
  have hlt := (List.getElem?_eq_some_iff.mp hi).1
  have hbit : (word w bits).getLsbD i = (0#w).getLsbD i := by rw [hzero]
  rw [getLsbD_word, List.getD_eq_getElem?_getD, hi, decide_eq_true (Nat.lt_of_lt_of_le hlt hle),
    BitVec.getLsbD_zero] at hbit
  cases hbit

/-- **Bursts**: no burst that is no longer than the register leaves it zero, wherever it
is in a message. -/
theorem run_burst_ne_zero (hp : p.msb = true) {bits : List Bool} (h : Burst w bits) :
    run p 0#w bits ≠ 0#w := by
  obtain ⟨front, burst, back, rfl, hle, hset⟩ := burst_iff.mp h
  have hfront : run p 0#w (List.replicate front false) = 0#w := by
    rw [run_replicate_false, (iterate_shift_eq_zero_iff p hp front).mpr rfl]
  rw [run_append, run_append, hfront, run_replicate_false, Ne, iterate_shift_eq_zero_iff p hp,
    run_eq_iterate p _ hle, iterate_shift_eq_zero_iff p hp, BitVec.zero_xor]
  exact word_ne_zero hle hset

end Crc
