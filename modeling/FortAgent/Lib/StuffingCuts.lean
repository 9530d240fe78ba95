import FortAgent.Lib.ByteStuffing

/-!
# Frames cut short

A sender that runs out of room may put only the first symbols of a frame on the
wire.  The receiver then holds the beginning of a message, which the `stop` of the
next frame makes it deliver or drop.

What the next `stop` would deliver is thus part of the account: `owed_append_salvage`
says that what a receiver delivers of a stream of cut frames, and what it owes at
its end, is what it owed at its beginning and what is salvaged of each frame.  A
frame that is whole is salvaged whole, and of any other a prefix of its message is,
or nothing; so one cut frame costs no other.
-/

open Transducer

namespace Stuffing

variable {α : Type*}

open Receiver (initial)

/-- What a `stop` would deliver now. -/
def owed (least : ℕ) (r : Receiver α) : List (List α) := messages [flush least r]

theorem owed_escaped (least : ℕ) (p : List α) : owed least ⟨p, true⟩ = [] := rfl

theorem owed_unescaped (least : ℕ) (p : List α) :
    owed least ⟨p, false⟩ = if least ≤ p.length then [p] else [] := by
  simp only [owed, flush, Bool.false_eq_true, if_false]
  split <;> rfl

section Cuts

variable [DecidableEq α] (c : Stuffing α) (cap least : ℕ)

/-- What a receiver makes of the first `k` symbols of the frame of `m`, and the `stop`
that follows. -/
def salvage (m : List α) : ℕ → List (List α)
  | 0 => []
  | k + 1 =>
    match c.unescape ((c.escape m).take k) with
    | some p => if least ≤ p.length then [p] else []
    | none => []

theorem unescape_escape_append (m w : List α) :
    c.unescape (c.escape m ++ w) = (c.unescape w).map (m ++ ·) := by
  induction m with
  | nil => simp
  | cons b m ih =>
      rw [escape_cons, List.append_assoc, unescape_stuff_append, ih, Option.map_map]
      rfl

/-- Escaped content, cut anywhere, is the content up to some symbol, escaped, and
maybe half of an escape. -/
theorem take_escape (m : List α) (k : ℕ) :
    ∃ i, (c.escape m).take k = c.escape (m.take i) ∨
      (c.escape m).take k = c.escape (m.take i) ++ [c.esc] := by
  induction m generalizing k with
  | nil => exact ⟨0, .inl (by simp)⟩
  | cons b m ih =>
      have hstuff : c.stuff b = [b] ∨ ∃ b', c.stuff b = [c.esc, b'] := by
        unfold stuff
        split_ifs
        · exact .inr ⟨_, rfl⟩
        · exact .inr ⟨_, rfl⟩
        · exact .inl rfl
      rcases hstuff with hstuff | ⟨b', hstuff⟩
      · match k with
        | 0 => exact ⟨0, .inl rfl⟩
        | k + 1 =>
            obtain ⟨i, hi⟩ := ih k
            refine ⟨i + 1, ?_⟩
            rw [escape_cons, hstuff, List.take_succ_cons, escape_cons, hstuff]
            exact hi.imp (congrArg (b :: ·)) (congrArg (b :: ·))
      · match k with
        | 0 => exact ⟨0, .inl rfl⟩
        | 1 => exact ⟨0, .inr (by rw [escape_cons, hstuff]; rfl)⟩
        | k + 2 =>
            obtain ⟨i, hi⟩ := ih k
            refine ⟨i + 1, ?_⟩
            rw [escape_cons, hstuff, List.take_succ_cons, escape_cons, hstuff]
            exact hi.imp (congrArg (c.esc :: b' :: ·)) (congrArg (c.esc :: b' :: ·))

/-- What is salvaged of a frame is a prefix of its message. -/
theorem prefix_of_mem_salvage {m p : List α} {k : ℕ} (h : p ∈ c.salvage least m k) :
    p <+: m := by
  cases k with
  | zero => exact absurd h List.not_mem_nil
  | succ k =>
      obtain ⟨i, hi | hi⟩ := c.take_escape m k
      · rw [salvage, hi, unescape_escape] at h
        dsimp only at h
        split_ifs at h
        · rw [List.mem_singleton.mp h]
          exact List.take_prefix i m
        · exact absurd h List.not_mem_nil
      · rw [salvage, hi, unescape_escape_append] at h
        simp [unescape, c.esc_ne_stop] at h

theorem length_salvage_le (m : List α) (k : ℕ) : (c.salvage least m k).length ≤ 1 := by
  unfold salvage
  repeat' split
  all_goals simp

/-- A frame without a `stop` at its end is salvaged whole. -/
theorem salvage_of_length_le {m : List α} {k : ℕ} (hk : (c.escape m).length < k)
    (hleast : least ≤ m.length) : c.salvage least m k = [m] := by
  obtain ⟨k, rfl⟩ := Nat.exists_eq_succ_of_ne_zero (Nat.ne_of_gt (Nat.zero_lt_of_lt hk))
  rw [salvage, List.take_of_length_le (Nat.le_of_lt_succ hk), unescape_escape]
  exact if_pos hleast

/-- Escaped content that is cut is taken in silence, and what is owed then is what is
salvaged. -/
theorem owed_take_escape {m : List α} (hm : m.length ≤ cap) (k : ℕ) :
    messages (outputs (c.receive cap least) initial ((c.escape m).take k)) = [] ∧
      owed least (final (c.receive cap least) initial ((c.escape m).take k)) =
        c.salvage least m (k + 1) := by
  obtain ⟨i, hi⟩ := c.take_escape m k
  obtain ⟨hfinal, hout⟩ := c.final_escape cap least (p := []) (m.take i) (by simp; omega)
  rcases hi with hi | hi
  · rw [salvage, hi, unescape_escape, initial, hfinal, hout, messages_silent, owed_unescaped]
    exact ⟨rfl, rfl⟩
  · rw [salvage, hi, unescape_escape_append, outputs_append, final_append, initial, hfinal, hout,
      messages_append, messages_silent]
    simp [receive, c.esc_ne_stop, unescape, messages, Event.delivered, owed_escaped]

/-- **One frame, cut or not.** -/
theorem owed_append_salvage_frame (hpos : 0 < least) (r : Receiver α) {m : List α}
    (hm : m.length ≤ cap) (k : ℕ) :
    messages (outputs (c.receive cap least) r ((c.frame m).take k)) ++
        owed least (final (c.receive cap least) r ((c.frame m).take k)) =
      owed least r ++ c.salvage least m k := by
  cases k with
  | zero => exact (List.append_nil _).symm
  | succ k =>
      have howed : owed least (initial : Receiver α) = [] := by
        rw [owed, flush_initial hpos]
        rfl
      rw [frame, List.cons_append, List.take_succ_cons, outputs_cons, final_cons, receive_stop,
        ← List.singleton_append, messages_append, ← owed, List.append_assoc]
      congr 1
      rcases Nat.lt_or_ge (c.escape m).length k with hk | hk
      · -- the whole frame: its last `stop` delivers what the next one would
        obtain ⟨hmessages, hsalvage⟩ := c.owed_take_escape cap least hm (c.escape m).length
        rw [List.take_length] at hmessages hsalvage
        rw [List.take_of_length_le (by simp; omega), outputs_append, final_append,
          messages_append, hmessages, outputs_cons, final_cons, receive_stop, outputs_nil,
          final_nil, ← owed, hsalvage, howed, List.nil_append, List.append_nil, salvage, salvage,
          List.take_length, List.take_of_length_le (Nat.le_of_lt hk)]
      · obtain ⟨hmessages, hsalvage⟩ := c.owed_take_escape cap least hm k
        rw [List.take_append_of_le_length hk, hmessages, hsalvage, List.nil_append]

/-- **A stream of frames, cut or not.**  What is delivered, and what the next `stop`
would deliver, is what was owed before, and what is salvaged of each frame. -/
theorem owed_append_salvage (hpos : 0 < least) (r : Receiver α) {cuts : List (List α × ℕ)}
    (hcuts : ∀ cut ∈ cuts, cut.1.length ≤ cap) :
    let stream := cuts.flatMap fun cut ↦ (c.frame cut.1).take cut.2
    messages (outputs (c.receive cap least) r stream) ++
        owed least (final (c.receive cap least) r stream) =
      owed least r ++ cuts.flatMap fun cut ↦ c.salvage least cut.1 cut.2 := by
  induction cuts generalizing r with
  | nil => exact (List.append_nil _).symm
  | cons cut cuts ih =>
      obtain ⟨hcut, hrest⟩ := List.forall_mem_cons.mp hcuts
      have hframe := c.owed_append_salvage_frame cap least hpos r hcut cut.2
      have hcuts := ih (final (c.receive cap least) r ((c.frame cut.1).take cut.2)) hrest
      simp only [List.flatMap_cons, outputs_append, final_append, messages_append] at hcuts ⊢
      rw [List.append_assoc, hcuts, ← List.append_assoc, hframe, List.append_assoc]

end Cuts

end Stuffing
