import FortAgent.Lib.Transducer

/-!
# Byte stuffing

A *stuffing* marks the boundaries of messages in a stream by a symbol `stop`, and
keeps `stop` out of their content by escapes: inside a message, `stop` is sent as
`esc escStop` and `esc` as `esc escEsc`.  A message is sent as a frame, with a
`stop` on either side of its escaped content.

The receiver collects what has been unescaped so far, up to `cap` symbols, and
delivers it at a `stop` if it has at least `least`.  Whatever state it is in, the
first `stop` puts it back into its initial state: this is how it resynchronises,
at the cost of delivering or dropping what was pending.  `outputs_frames` says what
a receiver in its initial state makes of a stream of frames, and
`outputs_frames_of_any` what one in any state does.
-/

open Transducer

/-- The four symbols of a stuffing. -/
structure Stuffing (α : Type*) where
  stop : α
  esc : α
  escStop : α
  escEsc : α
  esc_ne_stop : esc ≠ stop
  escEsc_ne_escStop : escEsc ≠ escStop
  stop_ne_escStop : stop ≠ escStop
  stop_ne_escEsc : stop ≠ escEsc

namespace Stuffing

variable {α : Type*}

/-! ## Sending -/

section Sending

variable [DecidableEq α] (c : Stuffing α)

/-- One symbol, escaped if need be. -/
def stuff (b : α) : List α :=
  if b = c.stop then [c.esc, c.escStop] else if b = c.esc then [c.esc, c.escEsc] else [b]

def escape (m : List α) : List α := m.flatMap c.stuff

/-- A message on the wire. -/
def frame (m : List α) : List α := c.stop :: c.escape m ++ [c.stop]

@[simp] theorem escape_nil : c.escape [] = [] := rfl

@[simp] theorem escape_cons (b : α) (m : List α) : c.escape (b :: m) = c.stuff b ++ c.escape m :=
  rfl

@[simp] theorem stuff_stop : c.stuff c.stop = [c.esc, c.escStop] := if_pos rfl

@[simp] theorem stuff_esc : c.stuff c.esc = [c.esc, c.escEsc] := by simp [stuff, c.esc_ne_stop]

theorem stuff_of_ne {b : α} (hstop : b ≠ c.stop) (hesc : b ≠ c.esc) : c.stuff b = [b] := by
  rw [stuff, if_neg hstop, if_neg hesc]

theorem length_stuff (b : α) :
    (c.stuff b).length = if b = c.stop ∨ b = c.esc then 2 else 1 := by
  by_cases hstop : b = c.stop
  · simp [hstop]
  · by_cases hesc : b = c.esc
    · simp [hesc]
    · rw [c.stuff_of_ne hstop hesc, if_neg (not_or.mpr ⟨hstop, hesc⟩)]
      rfl

/-- Escaping adds a symbol for each `stop` and each `esc`. -/
theorem length_escape (m : List α) :
    (c.escape m).length = m.length + m.countP fun b ↦ b = c.stop ∨ b = c.esc := by
  induction m with
  | nil => rfl
  | cons b m ih =>
      rw [escape_cons, List.length_append, length_stuff, ih, List.length_cons]
      by_cases hb : b = c.stop ∨ b = c.esc
      · rw [if_pos hb, List.countP_cons_of_pos (by simpa using hb)]
        omega
      · rw [if_neg hb, List.countP_cons_of_neg (by simpa using hb)]
        omega

theorem length_frame (m : List α) : (c.frame m).length = (c.escape m).length + 2 := by
  simp [frame]

/-- Escaping at most doubles the length. -/
theorem length_escape_le (m : List α) : (c.escape m).length ≤ 2 * m.length := by
  have hcount := m.countP_le_length (p := fun b ↦ b = c.stop ∨ b = c.esc)
  rw [length_escape]
  omega

end Sending

/-! ## Reading frames

Which words are frames, and of what, said by reading them: escaping is not
mentioned. -/

section Reading

variable [DecidableEq α] (c : Stuffing α)

/-- Undo the escapes of a word.  A `stop` has no place in it, and neither has an
`esc` that nothing or the wrong symbol follows. -/
def unescape : List α → Option (List α)
  | [] => some []
  | b :: w =>
    if b = c.stop then none
    else if b = c.esc then
      match w with
      | [] => none
      | b' :: w =>
        if b' = c.escStop then (unescape w).map (c.stop :: ·)
        else if b' = c.escEsc then (unescape w).map (c.esc :: ·)
        else none
    else (unescape w).map (b :: ·)

/-- The word is a whole frame, from `stop` to `stop`, and its content unescapes to
this message. -/
def IsFrame (w m : List α) : Prop :=
  ∃ body, w = c.stop :: body ++ [c.stop] ∧ c.unescape body = some m

theorem unescape_stuff_append (b : α) (w : List α) :
    c.unescape (c.stuff b ++ w) = (c.unescape w).map (b :: ·) := by
  by_cases hstop : b = c.stop
  · subst hstop
    simp [unescape, c.esc_ne_stop]
  · by_cases hesc : b = c.esc
    · subst hesc
      simp [unescape, c.esc_ne_stop, c.escEsc_ne_escStop]
    · rw [c.stuff_of_ne hstop hesc, List.singleton_append, unescape.eq_def]
      simp only [if_neg hstop, if_neg hesc]

/-- Escaped content unescapes to the content. -/
theorem unescape_escape (m : List α) : c.unescape (c.escape m) = some m := by
  induction m with
  | nil => rfl
  | cons b m ih => rw [escape_cons, unescape_stuff_append, ih, Option.map_some]

/-- **Escaping is canonical**: what unescapes to a message is that message
escaped. -/
theorem eq_escape_of_unescape {w m : List α} (h : c.unescape w = some m) : w = c.escape m := by
  fun_induction unescape c w generalizing m with
  | case1 => rw [← Option.some.inj h, escape_nil]
  | case2 => cases h
  | case3 => cases h
  | case4 w _ ih =>
      obtain ⟨m, hw, rfl⟩ := Option.map_eq_some_iff.mp h
      rw [escape_cons, stuff_stop, ih hw]
      rfl
  | case5 w _ _ ih =>
      obtain ⟨m, hw, rfl⟩ := Option.map_eq_some_iff.mp h
      rw [escape_cons, stuff_esc, ih hw]
      rfl
  | case6 => cases h
  | case7 b w hstop hesc ih =>
      obtain ⟨m, hw, rfl⟩ := Option.map_eq_some_iff.mp h
      rw [escape_cons, c.stuff_of_ne hstop hesc, ih hw]
      rfl

theorem isFrame_iff {w m : List α} : c.IsFrame w m ↔ w = c.frame m := by
  constructor
  · rintro ⟨body, rfl, hbody⟩
    rw [c.eq_escape_of_unescape hbody, frame]
  · rintro rfl
    exact ⟨c.escape m, rfl, c.unescape_escape m⟩

/-- Cutting a message into several frames adds two symbols for each further one. -/
theorem length_flatMap_frame (ms : List (List α)) :
    (ms.flatMap c.frame).length = (c.escape ms.flatten).length + 2 * ms.length := by
  induction ms with
  | nil => rfl
  | cons m ms ih =>
      simp only [List.flatMap_cons, List.length_append, ih, length_frame, List.flatten_cons,
        escape, List.flatMap_append, List.length_cons]
      omega

theorem flatten_of_isFrame {ws ms : List (List α)} (h : List.Forall₂ c.IsFrame ws ms) :
    ws.flatten = ms.flatMap c.frame := by
  induction h with
  | nil => rfl
  | cons hframe _ ih => rw [List.flatten_cons, List.flatMap_cons, ih, c.isFrame_iff.mp hframe]

end Reading

/-! ## Receiving -/

/-- What has been received of the current message, and whether the last symbol
was `esc`. -/
structure Receiver (α : Type*) where
  pending : List α
  escaped : Bool

/-- What the receiver reports for one symbol. -/
inductive Event (α : Type*)
  | silent
  | message (m : List α)
  | overflow
  | unknownEscape

/-- The message delivered, if one is. -/
def Event.delivered : Event α → Option (List α)
  | .message m => some m
  | _ => none

/-- The event reports an error. -/
def Event.IsFault : Event α → Prop
  | .overflow | .unknownEscape => True
  | _ => False

/-- The messages delivered, in order. -/
def messages (es : List (Event α)) : List (List α) := es.filterMap Event.delivered

theorem messages_append (es fs : List (Event α)) :
    messages (es ++ fs) = messages es ++ messages fs := List.filterMap_append

/-- Silence delivers nothing. -/
theorem messages_silent (n : ℕ) :
    messages (List.replicate n (.silent : Event α)) = [] :=
  List.filterMap_eq_nil_iff.mpr fun e he ↦ by rw [List.eq_of_mem_replicate he]; rfl

namespace Receiver

/-- Nothing is pending. -/
def initial : Receiver α := ⟨[], false⟩

/-- Take an unescaped symbol. -/
def put (cap : ℕ) (r : Receiver α) (b : α) : Receiver α × Event α :=
  if cap ≤ r.pending.length then (initial, .overflow)
  else (⟨r.pending ++ [b], false⟩, .silent)

end Receiver

open Receiver (initial put)

/-- What becomes of the pending symbols at a `stop`. -/
def flush (least : ℕ) (r : Receiver α) : Event α :=
  if r.escaped then .unknownEscape
  else if least ≤ r.pending.length then .message r.pending
  else .silent

theorem flush_initial {least : ℕ} (hpos : 0 < least) :
    flush least (initial : Receiver α) = .silent := by
  simp [flush, initial, Nat.not_le.mpr hpos]

section Receiving

variable [DecidableEq α] (c : Stuffing α) (cap least : ℕ)

/-- Take a symbol from the wire. -/
def receive (r : Receiver α) (b : α) : Receiver α × Event α :=
  if r.escaped then
    if b = c.escStop then put cap r c.stop
    else if b = c.escEsc then put cap r c.esc
    else (initial, .unknownEscape)
  else if b = c.stop then
    (initial, if least ≤ r.pending.length then .message r.pending else .silent)
  else if b = c.esc then (⟨r.pending, true⟩, .silent)
  else put cap r b

/-- **Resynchronisation**: a `stop` leads from any state to the initial one. -/
theorem receive_stop (r : Receiver α) :
    c.receive cap least r c.stop = (initial, flush least r) := by
  obtain ⟨pending, escaped⟩ := r
  cases escaped with
  | true => simp [receive, flush, c.stop_ne_escStop, c.stop_ne_escEsc]
  | false => simp [receive, flush]

/-- A message is only delivered at a `stop`. -/
theorem eq_stop_of_message {r : Receiver α} {b : α} {m : List α}
    (h : (c.receive cap least r b).2 = .message m) : b = c.stop := by
  have hput (b' : α) : (put cap r b').2 ≠ .message m := by
    unfold put
    split <;> exact nofun
  unfold receive at h
  split at h
  · split at h
    · exact absurd h (hput _)
    · split at h
      · exact absurd h (hput _)
      · cases h
  · split at h
    · next hstop => exact hstop
    · split at h
      · cases h
      · exact absurd h (hput _)

/-- A stuffed symbol is taken as the symbol itself, as long as there is room. -/
theorem final_stuff {p : List α} (b : α) (hp : p.length < cap) :
    final (c.receive cap least) ⟨p, false⟩ (c.stuff b) = ⟨p ++ [b], false⟩ ∧
      outputs (c.receive cap least) ⟨p, false⟩ (c.stuff b) =
        List.replicate (c.stuff b).length .silent := by
  have hroom : ¬cap ≤ p.length := Nat.not_le.mpr hp
  by_cases hstop : b = c.stop
  · subst hstop
    simp [receive, put, c.esc_ne_stop, hroom, List.replicate]
  · by_cases hesc : b = c.esc
    · subst hesc
      simp [receive, put, c.esc_ne_stop, c.escEsc_ne_escStop, hroom, List.replicate]
    · simp [c.stuff_of_ne hstop hesc, receive, put, hstop, hesc, hroom]

/-- Escaped content is taken as the content, in silence. -/
theorem final_escape {p : List α} (m : List α) (hp : p.length + m.length ≤ cap) :
    final (c.receive cap least) ⟨p, false⟩ (c.escape m) = ⟨p ++ m, false⟩ ∧
      outputs (c.receive cap least) ⟨p, false⟩ (c.escape m) =
        List.replicate (c.escape m).length .silent := by
  induction m generalizing p with
  | nil => simp
  | cons b m ih =>
      rw [List.length_cons] at hp
      obtain ⟨hfinal, hout⟩ := c.final_stuff cap least b (p := p) (by omega)
      obtain ⟨hfinal', hout'⟩ := ih (p := p ++ [b]) (by simp; omega)
      rw [escape_cons, final_append, outputs_append, hfinal, hout, hfinal', hout',
        List.append_assoc, List.singleton_append, List.replicate_append_replicate,
        List.length_append]
      exact ⟨rfl, rfl⟩

/-- A frame received in the initial state delivers its message, reports no error,
and leads back to that state. -/
theorem outputs_frame {m : List α} (hpos : 0 < least) (hleast : least ≤ m.length)
    (hcap : m.length ≤ cap) :
    final (c.receive cap least) initial (c.frame m) = initial ∧
      outputs (c.receive cap least) initial (c.frame m) =
        List.replicate ((c.escape m).length + 1) .silent ++ [.message m] := by
  obtain ⟨hfinal, hout⟩ := c.final_escape cap least (p := []) m (by simpa using hcap)
  have hflush : flush least ⟨m, false⟩ = .message m := by simp [flush, hleast]
  rw [frame, List.cons_append, final_cons, outputs_cons, receive_stop, flush_initial hpos, initial,
    final_append, outputs_append, hfinal, hout, List.nil_append, final_cons, final_nil,
    outputs_cons, outputs_nil, receive_stop, hflush]
  exact ⟨rfl, rfl⟩

/-- A stream of frames received in the initial state delivers its messages, in
order, and reports no error. -/
theorem outputs_frames {ms : List (List α)} (hpos : 0 < least)
    (hms : ∀ m ∈ ms, least ≤ m.length ∧ m.length ≤ cap) :
    final (c.receive cap least) initial (ms.flatMap c.frame) = initial ∧
      messages (outputs (c.receive cap least) initial (ms.flatMap c.frame)) = ms ∧
      ∀ e ∈ outputs (c.receive cap least) initial (ms.flatMap c.frame), ¬e.IsFault := by
  induction ms with
  | nil => exact ⟨rfl, rfl, fun e he ↦ absurd he List.not_mem_nil⟩
  | cons m ms ih =>
      obtain ⟨⟨hleast, hcap⟩, hrest⟩ := List.forall_mem_cons.mp hms
      obtain ⟨hfinal, hout⟩ := c.outputs_frame cap least hpos hleast hcap
      obtain ⟨hfinal', hmessages, hfaultless⟩ := ih hrest
      rw [List.flatMap_cons, final_append, outputs_append, hfinal, hout, messages_append,
        hmessages]
      refine ⟨hfinal', ?_, fun e he ↦ ?_⟩
      · rw [messages_append, messages_silent]
        rfl
      · rcases List.mem_append.mp he with he | he
        · rcases List.mem_append.mp he with he | he
          · rw [List.eq_of_mem_replicate he]
            exact id
          · rw [List.mem_singleton.mp he]
            exact id
        · exact hfaultless e he

/-- **Resynchronisation of a stream.**  Received in any state, a stream of frames
first flushes what is pending; from then on it is received as it is in the initial
state. -/
theorem outputs_frames_of_any (r : Receiver α) {ms : List (List α)} (hpos : 0 < least)
    (hne : ms ≠ []) (hms : ∀ m ∈ ms, least ≤ m.length ∧ m.length ≤ cap) :
    final (c.receive cap least) r (ms.flatMap c.frame) = initial ∧
      ∃ es, outputs (c.receive cap least) r (ms.flatMap c.frame) = flush least r :: es ∧
        messages es = ms ∧ ∀ e ∈ es, ¬e.IsFault := by
  obtain ⟨hfinal, hmessages, hfaultless⟩ := c.outputs_frames cap least hpos hms
  obtain ⟨rest, hstream⟩ : ∃ rest, ms.flatMap c.frame = c.stop :: rest := by
    obtain ⟨m, ms, rfl⟩ := List.exists_cons_of_ne_nil hne
    exact ⟨_, rfl⟩
  have hfirst (r : Receiver α) : outputs (c.receive cap least) r (c.stop :: rest) =
      flush least r :: outputs (c.receive cap least) initial rest := by
    rw [outputs_cons, receive_stop]
  rw [hstream, hfirst, flush_initial hpos] at hmessages hfaultless
  rw [hstream, final_cons, receive_stop] at hfinal ⊢
  exact ⟨hfinal, _, hfirst r, hmessages, (List.forall_mem_cons.mp hfaultless).2⟩

end Receiving

end Stuffing
