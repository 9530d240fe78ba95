import FortAgent.Lib.Transducer
import Mathlib.Algebra.Group.Nat.Defs
import Mathlib.Data.Nat.Size

/-!
# Throttling of log messages

A `SpammyLogMsg` counts how often it is asked to log, and has a threshold that doubles
each time the count reaches it.  The threshold is thus the least power of two above the
count (`Counts`), and is reached exactly by the powers of two.

Both are words of 64 bits.  The threshold wraps to zero when the count reaches `2 ^ 63`,
and from then on nothing is held back.
-/

namespace FortAgent

open Transducer

/-! ## The class -/

/-- What is handed to the logger.  The count is the last argument, if it is one. -/
structure LogRecord (Level Arg : Type*) where
  level : Level
  fmt : String
  args : List Arg
  count : Option UInt64
deriving DecidableEq, Repr

/-- `size_t` has 64 bits. -/
structure SpammyLogMsg (Level : Type*) where
  logLevel : Level
  count : UInt64
  thresh : UInt64
deriving DecidableEq, Repr

/-- A call of the class. -/
inductive SpammyCall (Arg : Type*)
  | log (fmt : String) (args : List Arg)
  | clear
deriving DecidableEq, Repr

namespace SpammyLogMsg

variable {Level Arg : Type*}

/-- The constructor. -/
def new (level : Level) : SpammyLogMsg Level := ⟨level, 0, 1⟩

def log (msg : SpammyLogMsg Level) (fmt : String) (args : List Arg) :
    SpammyLogMsg Level × Option (LogRecord Level Arg) :=
  let count := msg.count + 1
  if msg.thresh ≤ count then
    ({ msg with count := count, thresh := msg.thresh * 2 },
      if count = 1 then some ⟨msg.logLevel, fmt, args, none⟩
      else some ⟨msg.logLevel, fmt ++ " (x\x7b\x7d)", args, some count⟩)
  else ({ msg with count := count }, none)

def clear (msg : SpammyLogMsg Level) : SpammyLogMsg Level := { msg with count := 0, thresh := 1 }

/-- One call, and what it logs. -/
def step (msg : SpammyLogMsg Level) :
    SpammyCall Arg → SpammyLogMsg Level × Option (LogRecord Level Arg)
  | .log fmt args => msg.log fmt args
  | .clear => (msg.clear, none)

end SpammyLogMsg

/-! ## The least power of two above a number -/

/-- The next number is the least power of two above this one if it is any. -/
theorem succ_eq_two_pow_size_iff (n : ℕ) : n + 1 = 2 ^ n.size ↔ ∃ m, n + 1 = 2 ^ m := by
  constructor
  · exact fun h ↦ ⟨n.size, h⟩
  · rintro ⟨m, hm⟩
    have hle : n.size ≤ m := Nat.size_le.mpr (by omega)
    have hpow : 2 ^ n.size ≤ 2 ^ m := Nat.pow_le_pow_right Nat.zero_lt_two hle
    have hlt := Nat.lt_size_self n
    omega

/-- The least power of two above the next number is another one only if the next number
is a power of two. -/
theorem two_pow_size_succ (n : ℕ) :
    2 ^ (n + 1).size = if n + 1 = 2 ^ n.size then 2 ^ n.size * 2 else 2 ^ n.size := by
  split
  · next hpow => rw [hpow, Nat.size_pow, Nat.pow_succ]
  · next hpow =>
      have hlt : n + 1 < 2 ^ n.size := Nat.lt_of_le_of_ne (Nat.lt_size_self n) hpow
      have hsize : (n + 1).size = n.size :=
        Nat.le_antisymm (Nat.size_le.mpr hlt) (Nat.size_le_size (Nat.le_succ n))
      rw [hsize]

/-! ## The law -/

/-- The number of `log` calls since the last `clear`, or since the construction. -/
def logsSinceClear {Arg : Type*} (calls : List (SpammyCall Arg)) : ℕ :=
  calls.foldl (fun n call ↦ match call with | .log _ _ => n + 1 | .clear => 0) 0

namespace SpammyLogMsg

variable {Level Arg : Type*}

/-- The message counts, and its threshold is the least power of two above the count. -/
structure Counts (msg : SpammyLogMsg Level) (n : ℕ) : Prop where
  count : msg.count.toNat = n
  thresh : msg.thresh.toNat = 2 ^ n.size

theorem counts_clear (msg : SpammyLogMsg Level) : msg.clear.Counts 0 := ⟨rfl, rfl⟩

/-- The threshold is reached exactly by the powers of two. -/
theorem Counts.thresh_le_iff {msg : SpammyLogMsg Level} {n : ℕ} (h : msg.Counts n)
    (hn : n < 2 ^ 63) :
    (msg.count + 1).toNat = n + 1 ∧ (msg.thresh ≤ msg.count + 1 ↔ n + 1 = 2 ^ n.size) := by
  have hcount : (msg.count + 1).toNat = n + 1 := by
    rw [UInt64.toNat_add, h.count]
    exact Nat.mod_eq_of_lt (by simp; omega)
  have hlt := Nat.lt_size_self n
  refine ⟨hcount, ?_⟩
  rw [UInt64.le_iff_toNat_le, hcount, h.thresh]
  omega

/-- A call of `log` keeps the invariant, up to where the threshold wraps. -/
theorem Counts.log {msg : SpammyLogMsg Level} {n : ℕ} (h : msg.Counts n) (hn : n + 1 < 2 ^ 63)
    (fmt : String) (args : List Arg) : (msg.log fmt args).1.Counts (n + 1) := by
  obtain ⟨hcount, hreached⟩ := h.thresh_le_iff (by omega)
  have hpow := two_pow_size_succ n
  by_cases hle : msg.thresh ≤ msg.count + 1
  · rw [if_pos (hreached.mp hle)] at hpow
    have hthresh : (msg.thresh * 2).toNat = 2 ^ (n + 1).size := by
      rw [hpow, UInt64.toNat_mul, h.thresh, ← hreached.mp hle]
      exact Nat.mod_eq_of_lt (by simp; omega)
    rw [SpammyLogMsg.log, if_pos hle]
    exact ⟨hcount, hthresh⟩
  · rw [if_neg (hreached.not.mp hle)] at hpow
    rw [SpammyLogMsg.log, if_neg hle]
    exact ⟨hcount, h.thresh.trans hpow.symm⟩

/-- What a call of `log` logs, up to where the threshold wraps. -/
theorem Counts.logged {msg : SpammyLogMsg Level} {n : ℕ} (h : msg.Counts n) (hn : n < 2 ^ 63)
    (fmt : String) (args : List Arg) :
    ((msg.log fmt args).2.isSome = true ↔ ∃ m, n + 1 = 2 ^ m) ∧
      ∀ message ∈ (msg.log fmt args).2, (∀ count ∈ message.count, count.toNat = n + 1) ∧
        (message.count = none ↔ n + 1 = 1) := by
  obtain ⟨hcount, hreached⟩ := h.thresh_le_iff hn
  have hone : msg.count + 1 = 1 ↔ n + 1 = 1 := by
    rw [← UInt64.toNat_inj, hcount]
    rfl
  rw [← succ_eq_two_pow_size_iff, ← hreached, SpammyLogMsg.log]
  by_cases hle : msg.thresh ≤ msg.count + 1
  · rw [if_pos hle]
    by_cases hfirst : msg.count + 1 = 1
    · rw [if_pos hfirst]
      refine ⟨iff_of_true rfl hle, fun message hmessage ↦ ?_⟩
      obtain rfl := Option.some.inj hmessage
      exact ⟨nofun, iff_of_true rfl (hone.mp hfirst)⟩
    · rw [if_neg hfirst]
      refine ⟨iff_of_true rfl hle, fun message hmessage ↦ ?_⟩
      obtain rfl := Option.some.inj hmessage
      refine ⟨fun count hshown ↦ ?_, iff_of_false nofun (hone.not.mp hfirst)⟩
      rw [← Option.some.inj hshown, hcount]
  · rw [if_neg hle]
    exact ⟨iff_of_false Bool.false_ne_true hle, nofun⟩

theorem logsSinceClear_concat (calls : List (SpammyCall Arg)) (call : SpammyCall Arg) :
    logsSinceClear (calls ++ [call]) =
      match call with | .log _ _ => logsSinceClear calls + 1 | .clear => 0 :=
  List.foldl_append

/-- The invariant holds after every run, up to where the threshold wraps. -/
theorem counts_run (level : Level) (calls : List (SpammyCall Arg))
    (h : logsSinceClear calls < 2 ^ 63) :
    (final step (new level) calls).Counts (logsSinceClear calls) := by
  have hrun := history_invariant'
    (step : SpammyLogMsg Level → SpammyCall Arg → _ × Option (LogRecord Level Arg))
    (I := fun past msg ↦ logsSinceClear (past.map Step.input) < 2 ^ 63 →
      msg.Counts (logsSinceClear (past.map Step.input)))
    (s := new level) (fun _ ↦ ⟨rfl, rfl⟩) (fun past msg call hI hlt ↦ ?_) calls
  · rw [history_inputs] at hrun
    exact hrun h
  · rw [List.map_append, List.map_singleton, record_input, logsSinceClear_concat] at hlt ⊢
    cases call with
    | log fmt args => exact (hI (Nat.lt_of_succ_lt hlt)).log hlt fmt args
    | clear => exact counts_clear msg

/-- **Powers of two.**  In any run, a call of `log` that is the `k`-th since the last `clear`
logs a message exactly if `k` is a power of two.  The count that is shown is `k`, and it is
shown from the second message on. -/
theorem logs_powers_of_two (level : Level) (calls : List (SpammyCall Arg)) (fmt : String)
    (args : List Arg) :
    let k := logsSinceClear calls + 1
    let logged := ((final step (new level) calls).log fmt args).2
    k ≤ 2 ^ 63 → (logged.isSome = true ↔ ∃ m, k = 2 ^ m) ∧
      ∀ message ∈ logged, (∀ count ∈ message.count, count.toNat = k) ∧
        (message.count = none ↔ k = 1) :=
  fun hk ↦ (counts_run level calls hk).logged hk fmt args

/-- The fourth call after a `clear`. -/
theorem logs_powers_of_two_fourth :
    let calls : List (SpammyCall Unit) :=
      [.log "lost" [], .clear, .log "lost" [], .log "lost" [], .log "lost" []]
    ((final step (new ()) calls).log "lost" ([] : List Unit)).2.isSome = true := by
  intro calls
  have hlogged := logs_powers_of_two () calls "lost" [] (by decide)
  exact hlogged.1.mpr ⟨2, rfl⟩

end SpammyLogMsg

end FortAgent
