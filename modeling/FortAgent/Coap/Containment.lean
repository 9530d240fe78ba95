import FortAgent.Coap.Destination
import FortAgent.Coap.Reply
import FortAgent.Coap.UriPath

/-!
# Walks that stay inside the message

Both `parseObserveReply` and `extractUriPath` walk over the options of a message, and
compare their position with its size at the head of the loop.  The first reads one byte a
turn, so that is enough.  The second reads the extended bytes of an option as well, and
the value of an option of the path, without asking again.

`walkers_stay_inside_iff` says of which messages only bytes of the message are read: those
whose options are complete, as far as the walk looks at them.
-/

namespace FortAgent.Coap

open Memory
open CoapFormat (payloadMarker)

/-- Applied to a message, the function returns a value that does not depend on what is
behind the message in memory, be it nothing at all: only bytes of the message are read. -/
def StaysInside {α : Type*} (f : List UInt8 → Nat → Option α) (message : List UInt8) : Prop :=
  ∃ value, ∀ slack, f (message ++ slack) message.length = some value

/-! ## Replies -/

/-- Replies are read within the message, if there is a first byte. -/
theorem staysInside_parseObserveReply {message : List UInt8} (hne : message ≠ []) :
    StaysInside parseObserveReply message := by
  by_cases hmessage : ∃ m : Message, message = m.bytes
  · obtain ⟨m, rfl⟩ := hmessage
    exact ⟨_, parseObserveReply_eq m⟩
  · refine ⟨⟨none, [], []⟩, fun slack ↦ ?_⟩
    have hlooks := looksLikeCoap_of_not_message hne (fun m hm ↦ hmessage ⟨m, hm⟩) slack
    rw [parseObserveReply, hlooks]
    rfl

/-! ## Memory behind the message -/

section Slack

variable {data : List UInt8} (slack : List UInt8)

theorem getElem?_append_slack {i : Nat} {byte : UInt8} (h : data[i]? = some byte) :
    (data ++ slack)[i]? = some byte := by
  obtain ⟨hlt, -⟩ := List.getElem?_eq_some_iff.mp h
  rw [List.getElem?_append_left hlt, h]

theorem readExtended_append_slack {nibble : UInt8} {pos : Nat} {read : UInt8 × Nat}
    (h : readExtended data nibble pos = some read) :
    readExtended (data ++ slack) nibble pos = some read := by
  unfold readExtended at h ⊢
  split at h
  · next h13 =>
      obtain ⟨byte, hbyte, hread⟩ := Option.bind_eq_some_iff.mp h
      rw [if_pos h13, getElem?_append_slack slack hbyte]
      exact hread
  · next h13 =>
      rw [if_neg h13]
      split at h
      · next h14 =>
          obtain ⟨high, hhigh, h⟩ := Option.bind_eq_some_iff.mp h
          obtain ⟨low, hlow, hread⟩ := Option.bind_eq_some_iff.mp h
          rw [if_pos h14, getElem?_append_slack slack hhigh, getElem?_append_slack slack hlow]
          exact hread
      · next h14 =>
          rw [if_neg h14]
          exact h

/-- What the walk finds in the message it finds there whatever is behind. -/
theorem collectPathSegments_append_slack {size pos : Nat} {last : UInt16}
    {segments found : List (List UInt8)}
    (h : collectPathSegments data size pos last segments = some found) :
    collectPathSegments (data ++ slack) size pos last segments = some found := by
  fun_induction collectPathSegments data size pos last segments with
  | case1 => cases h
  | case2 pos last segments hpos hmarker =>
      rw [collectPathSegments]
      simp only [hpos, if_true, getElem?_append_slack slack hmarker]
      exact h
  | case3 => cases h
  | case4 => cases h
  | case5 => cases h
  | case6 pos last segments hpos head hhead hmarker delta used hdelta length used' hlength start
      stop last' hpath segment hsegment ih =>
      rw [collectPathSegments_turn last segments hpos (getElem?_append_slack slack hhead) hmarker
        (readExtended_append_slack slack hdelta) (readExtended_append_slack slack hlength),
        if_pos hpath, range_append_right slack hsegment]
      exact ih h
  | case7 pos last segments hpos head hhead hmarker delta used hdelta length used' hlength start
      stop last' hpath ih =>
      rw [collectPathSegments_turn last segments hpos (getElem?_append_slack slack hhead) hmarker
        (readExtended_append_slack slack hdelta) (readExtended_append_slack slack hlength),
        if_neg hpath]
      exact ih h
  | case8 pos last segments hpos =>
      rw [collectPathSegments, if_neg hpos]
      exact h

/-- So the walk stays inside if it finds its way when nothing is behind the message. -/
theorem staysInside_extractUriPath_iff (message : List UInt8) :
    StaysInside extractUriPath message ↔
      (extractUriPath message message.length).isSome = true := by
  rw [Option.isSome_iff_exists]
  constructor
  · rintro ⟨value, hvalue⟩
    have hnothing := hvalue []
    rw [List.append_nil] at hnothing
    exact ⟨value, hnothing⟩
  · rintro ⟨value, hvalue⟩
    refine ⟨value, fun slack ↦ ?_⟩
    unfold extractUriPath at hvalue ⊢
    split at hvalue
    · next hshort =>
        rw [if_pos hshort]
        exact hvalue
    · next hshort =>
        obtain ⟨header, hheader, hvalue⟩ := Option.bind_eq_some_iff.mp hvalue
        obtain ⟨segments, hsegments, hvalue⟩ := Option.bind_eq_some_iff.mp hvalue
        rw [if_neg hshort, getElem?_append_slack slack hheader]
        simp only [Option.bind_eq_bind, Option.bind_some,
          collectPathSegments_append_slack slack hsegments]
        exact hvalue

end Slack

/-! ## Complete options -/

/-- The bytes that extend a nibble, and the quantity of 8 bits that the walk takes them
for. -/
inductive Quantity : UInt8 → List UInt8 → UInt8 → Prop
  | direct {nibble : UInt8} (h13 : nibble ≠ 13) (h14 : nibble ≠ 14) : Quantity nibble [] nibble
  | extended (byte : UInt8) : Quantity 13 [byte] (13 + byte)
  | extendedTwice (high low : UInt8) :
      Quantity 14 [high, low] (UInt8.ofNat (269 + (high.toNat <<< 8) + low.toNat))

/-- Some bytes begin with an option: its first byte, which is no payload marker, and the
bytes that extend its two nibbles.  Its delta, its length, and the bytes behind. -/
inductive OptionHead : List UInt8 → UInt8 → UInt8 → List UInt8 → Prop
  | intro {head delta length : UInt8} {ext ext' : List UInt8} (rest : List UInt8)
      (hmarker : head ≠ payloadMarker) (hdelta : Quantity ((head &&& 0xF0) >>> 4) ext delta)
      (hlength : Quantity (head &&& 0x0F) ext' length) :
      OptionHead (head :: (ext ++ (ext' ++ rest))) delta length rest

/-- The options are complete, as far as the walk looks at them, when the last one had this
number: there are all bytes that extend them, and all of the value of a Uri-Path. -/
inductive CompleteOptions : UInt16 → List UInt8 → Prop
  | done (last : UInt16) : CompleteOptions last []
  | payload (last : UInt16) (w : List UInt8) : CompleteOptions last (payloadMarker :: w)
  | option {last : UInt16} {w rest : List UInt8} {delta length : UInt8}
      (hhead : OptionHead w delta length rest)
      (hvalue : last + delta.toUInt16 = 11 → length.toNat ≤ rest.length)
      (hrest : CompleteOptions (last + delta.toUInt16) (rest.drop length.toNat)) :
      CompleteOptions last w

/-- The options of a message are those behind the token.  Nothing of a message that is
shorter than a header is looked at. -/
def OptionsComplete : List UInt8 → Prop
  | header :: _ :: _ :: _ :: body =>
    CompleteOptions 0 (body.drop (header &&& 0x0F).toNat)
  | _ => True

/-- Reading a byte. -/
theorem drop_eq_cons_iff {data rest : List UInt8} {pos : Nat} {byte : UInt8} :
    data.drop pos = byte :: rest ↔ data[pos]? = some byte ∧ rest = data.drop (pos + 1) := by
  constructor
  · intro h
    refine ⟨?_, ?_⟩
    · rw [← List.head?_drop, h]
      rfl
    · rw [← List.drop_drop, h]
      rfl
  · rintro ⟨hbyte, rfl⟩
    obtain ⟨hlt, rfl⟩ := List.getElem?_eq_some_iff.mp hbyte
    exact List.drop_eq_getElem_cons hlt

/-- Reading a quantity. -/
theorem readExtended_eq_some_iff {data : List UInt8} {nibble quantity : UInt8} {pos used : Nat} :
    readExtended data nibble pos = some (quantity, used) ↔
      ∃ ext, Quantity nibble ext quantity ∧ used = ext.length ∧
        data.drop pos = ext ++ data.drop (pos + used) := by
  constructor
  · intro h
    unfold readExtended at h
    split at h
    · next h13 =>
        obtain ⟨byte, hbyte, ⟨⟩⟩ := Option.bind_eq_some_iff.mp h
        subst h13
        exact ⟨_, .extended byte, rfl, drop_eq_cons_iff.mpr ⟨hbyte, rfl⟩⟩
    · next h13 =>
        split at h
        · next h14 =>
            obtain ⟨high, hhigh, h⟩ := Option.bind_eq_some_iff.mp h
            obtain ⟨low, hlow, ⟨⟩⟩ := Option.bind_eq_some_iff.mp h
            subst h14
            refine ⟨_, .extendedTwice high low, rfl, drop_eq_cons_iff.mpr ⟨hhigh, ?_⟩⟩
            exact (drop_eq_cons_iff.mpr ⟨hlow, rfl⟩).symm
        · next h14 =>
            cases h
            exact ⟨_, .direct h13 h14, rfl, rfl⟩
  · rintro ⟨ext, hquantity, rfl, hdrop⟩
    cases hquantity with
    | direct h13 h14 => rw [readExtended, if_neg h13, if_neg h14]; rfl
    | extended byte =>
        obtain ⟨hbyte, -⟩ := drop_eq_cons_iff.mp hdrop
        rw [readExtended, if_pos rfl, hbyte]
        rfl
    | extendedTwice high low =>
        obtain ⟨hhigh, hrest⟩ := drop_eq_cons_iff.mp hdrop
        obtain ⟨hlow, -⟩ := drop_eq_cons_iff.mp hrest.symm
        rw [readExtended, if_neg (by decide), if_pos rfl, hhigh, hlow]
        rfl

/-- Reading the head of an option: the four reads of a turn, before that of the value. -/
theorem optionHead_drop_iff {data rest : List UInt8} {pos : Nat} {delta length : UInt8} :
    OptionHead (data.drop pos) delta length rest ↔
      ∃ head used used', data[pos]? = some head ∧ head ≠ payloadMarker ∧
        readExtended data ((head &&& 0xF0) >>> 4) (pos + 1) = some (delta, used) ∧
        readExtended data (head &&& 0x0F) (pos + 1 + used) = some (length, used') ∧
        rest = data.drop (pos + 1 + used + used') := by
  constructor
  · intro h
    generalize hw : data.drop pos = w at h
    obtain @⟨head, _, _, ext, ext', _, hmarker, hdelta, hlength⟩ := h
    obtain ⟨hhead, hbehind⟩ := drop_eq_cons_iff.mp hw
    have hbehind' : ext' ++ rest = data.drop (pos + 1 + ext.length) := by
      rw [← List.drop_drop, ← hbehind, List.drop_left]
    have hrest : rest = data.drop (pos + 1 + ext.length + ext'.length) := by
      rw [← List.drop_drop, ← hbehind', List.drop_left]
    refine ⟨head, ext.length, ext'.length, hhead, hmarker, ?_, ?_, hrest⟩
    · exact readExtended_eq_some_iff.mpr ⟨ext, hdelta, rfl, by rw [← hbehind, hbehind']⟩
    · exact readExtended_eq_some_iff.mpr ⟨ext', hlength, rfl, by rw [← hbehind', hrest]⟩
  · rintro ⟨head, used, used', hhead, hmarker, hdelta, hlength, rfl⟩
    obtain ⟨ext, hdelta, -, hext⟩ := readExtended_eq_some_iff.mp hdelta
    obtain ⟨ext', hlength, -, hext'⟩ := readExtended_eq_some_iff.mp hlength
    rw [drop_eq_cons_iff.mpr ⟨hhead, rfl⟩, hext, hext']
    exact .intro _ hmarker hdelta hlength

/-- The bytes of extension that are read are in the message. -/
theorem add_le_of_readExtended {data : List UInt8} {nibble quantity : UInt8} {pos used : Nat}
    (h : readExtended data nibble pos = some (quantity, used)) (hpos : pos ≤ data.length) :
    pos + used ≤ data.length := by
  obtain ⟨ext, -, rfl, hdrop⟩ := readExtended_eq_some_iff.mp h
  have hlength := congrArg List.length hdrop
  rw [List.length_append, List.length_drop, List.length_drop] at hlength
  omega

/-! ## The walk -/

/-- A walk that finds its way goes over complete options. -/
theorem completeOptions_of_collectPathSegments {message : List UInt8} {pos : Nat} {last : UInt16}
    {segments found : List (List UInt8)}
    (h : collectPathSegments message message.length pos last segments = some found) :
    CompleteOptions last (message.drop pos) := by
  -- one case for each way a turn can go; those in which a read leaves the message find nothing
  fun_induction collectPathSegments message message.length pos last segments with
  | case1 => cases h
  | case2 pos last segments hpos hmarker =>
      rw [drop_eq_cons_iff.mpr ⟨hmarker, rfl⟩]
      exact .payload last _
  | case3 => cases h
  | case4 => cases h
  | case5 => cases h
  | case6 pos last segments hpos head hhead hmarker delta used hdelta length used' hlength start
      stop last' hpath segment hsegment ih =>
      have hoption : OptionHead (message.drop pos) delta length (message.drop start) :=
        optionHead_drop_iff.mpr ⟨head, used, used', hhead, hmarker, hdelta, hlength, rfl⟩
      have hinside : stop ≤ message.length := (range_eq_some_iff.mp hsegment).1.2
      refine .option hoption (fun _ ↦ ?_) ?_
      · rw [List.length_drop]
        exact Nat.le_sub_of_add_le' hinside
      · rw [List.drop_drop]
        exact ih h
  | case7 pos last segments hpos head hhead hmarker delta used hdelta length used' hlength start
      stop last' hpath ih =>
      have hoption : OptionHead (message.drop pos) delta length (message.drop start) :=
        optionHead_drop_iff.mpr ⟨head, used, used', hhead, hmarker, hdelta, hlength, rfl⟩
      refine .option hoption (fun hnumber ↦ absurd hnumber hpath) ?_
      rw [List.drop_drop]
      exact ih h
  | case8 pos last segments hpos =>
      rw [List.drop_eq_nil_of_le (Nat.not_lt.mp hpos)]
      exact .done last

/-- Over complete options the walk finds its way. -/
theorem collectPathSegments_of_completeOptions {message w : List UInt8} {last : UInt16}
    (hcomplete : CompleteOptions last w) {pos : Nat} (hw : message.drop pos = w)
    (segments : List (List UInt8)) :
    ∃ found, collectPathSegments message message.length pos last segments = some found := by
  induction hcomplete generalizing pos segments with
  | done last =>
      have hend : ¬pos < message.length := Nat.not_lt.mpr (List.drop_eq_nil_iff.mp hw)
      exact ⟨segments, by rw [collectPathSegments, if_neg hend]⟩
  | payload last w =>
      obtain ⟨hmarker, -⟩ := drop_eq_cons_iff.mp hw
      obtain ⟨hpos, -⟩ := List.getElem?_eq_some_iff.mp hmarker
      refine ⟨segments, ?_⟩
      rw [collectPathSegments]
      simp only [hpos, if_true, hmarker]
      rfl
  | @option last w rest delta length hoption hvalue hrest ih =>
      subst hw
      obtain ⟨head, used, used', hhead, hmarker, hdelta, hlength, rfl⟩ :=
        optionHead_drop_iff.mp hoption
      obtain ⟨hpos, -⟩ := List.getElem?_eq_some_iff.mp hhead
      have hstart : pos + 1 + used + used' ≤ message.length :=
        add_le_of_readExtended hlength (add_le_of_readExtended hdelta hpos)
      rw [collectPathSegments_turn last segments hpos hhead hmarker hdelta hlength]
      -- only the value of an option of the path is looked at
      split
      · next hpath =>
          have hinside := hvalue hpath
          rw [List.length_drop, Nat.le_sub_iff_add_le' hstart] at hinside
          rw [range, if_pos ⟨Nat.le_add_right .., hinside⟩]
          exact ih List.drop_drop.symm _
      · exact ih List.drop_drop.symm _

/-- The walk begins behind the token. -/
theorem isSome_extractUriPath_iff (message : List UInt8) :
    (extractUriPath message message.length).isSome = true ↔ OptionsComplete message := by
  match message with
  | [] | [_] | [_, _] | [_, _, _] => simp [extractUriPath, OptionsComplete]
  | header :: b₁ :: b₂ :: b₃ :: body =>
      let message := header :: b₁ :: b₂ :: b₃ :: body
      let tokenLength := (header &&& 0x0F).toNat
      have hlong : ¬message.length < 4 := by simp [message]
      have hbody : message.drop (4 + tokenLength) = body.drop tokenLength :=
        List.drop_drop.symm
      have hwalk : extractUriPath message message.length =
          (collectPathSegments message message.length (4 + tokenLength) 0 []).map
            (List.intercalate [0x2F]) := by
        rw [extractUriPath, if_neg hlong, Option.map_eq_bind]
        rfl
      change (extractUriPath message message.length).isSome = true ↔
        CompleteOptions 0 (body.drop tokenLength)
      rw [hwalk, Option.isSome_map, Option.isSome_iff_exists]
      constructor
      · rintro ⟨segments, hsegments⟩
        rw [← hbody]
        exact completeOptions_of_collectPathSegments hsegments
      · intro hcomplete
        exact collectPathSegments_of_completeOptions hcomplete hbody []

/-- **Which messages only are read within their bounds.** -/
theorem walkers_stay_inside_iff (message : List UInt8) :
    ((message ≠ [] → StaysInside parseObserveReply message) ∧
        StaysInside extractUriPath message) ↔ OptionsComplete message := by
  rw [staysInside_extractUriPath_iff, isSome_extractUriPath_iff]
  exact and_iff_right staysInside_parseObserveReply

/-- The last option of this message announces a name of five bytes, of which there are
two. -/
theorem not_walkers_stay_inside : ¬∀ message,
    (message ≠ [] → StaysInside parseObserveReply message) ∧
      StaysInside extractUriPath message := by
  intro h
  let message : List UInt8 := [0x40, 0x01, 0x12, 0x34, 0xB5, 0x73, 0x74]
  have hwalk : collectPathSegments message 7 4 0 [] = none := by
    rw [collectPathSegments]
    rfl
  have hpath : extractUriPath message message.length = none := by
    change (collectPathSegments message 7 4 0 []).bind _ = none
    rw [hwalk, Option.bind_none]
  have hinside := (staysInside_extractUriPath_iff message).mp (h message).2
  rw [hpath] at hinside
  cases hinside

end FortAgent.Coap
