import FortAgent.Joystick.Battery
import FortAgent.Lib.Cbor
import Mathlib.Data.Int.Basic
import Mathlib.Data.UInt

/-!
# What is assumed of tinycbor

The library is outside the repository.  Two things of its documentation matter to
`decode_battery_payload`.  On any payload, a function that moves the iterator either moves
it past an item, or returns an error and leaves it where it is (`Tinycbor.Moves`).  On a
well-formed map, the functions do what their names say (`Tinycbor.Reader`).

`referenceCbor` is an implementation with these two properties.
-/

namespace FortAgent.Joystick

open Cbor (WellFormed Width head string readHead skip breakByte)

namespace Tinycbor

variable {Double : Type}

/-! ## Moving the iterator -/

/-- The functions that move the iterator leave fewer items, or leave it where it is. -/
structure Moves (cbor : Tinycbor Double) (left : cbor.Value → ℕ) : Prop where
  afterTextString (mapIt : cbor.Value) :
    cbor.afterTextString mapIt = mapIt ∨ left (cbor.afterTextString mapIt) < left mapIt
  advance (mapIt : cbor.Value) :
    cbor.advance mapIt = mapIt ∨ left (cbor.advance mapIt) < left mapIt

/-! ## Well-formed maps -/

/-- The bytes of a map of these items, keys and values in turn. -/
inductive IsMapOf (items : List (List UInt8)) : List UInt8 → Prop
  | definite {width : Width} {entries : ℕ} (hentries : entries < width.bound)
      (hlength : items.length = 2 * entries) :
      IsMapOf items (head 5 width entries ++ items.flatten)
  | untilBreak {entries : ℕ} (hlength : items.length = 2 * entries) :
      IsMapOf items (Cbor.indefinite 5 :: (items.flatten ++ [breakByte]))

theorem IsMapOf.wellFormed {items : List (List UInt8)} {payload : List UInt8}
    (h : IsMapOf items payload) (hitems : ∀ item ∈ items, WellFormed item) :
    WellFormed payload := by
  cases h with
  | definite hentries hlength => exact .map hentries hlength hitems
  | untilBreak hlength => exact .mapUntilBreak hlength hitems

/-- An integer. -/
inductive IsInt : ℤ → List UInt8 → Prop
  | nonneg {width : Width} {n : ℕ} (hn : n < width.bound) : IsInt n (head 0 width n)
  | neg {width : Width} {n : ℕ} (hn : n < width.bound) : IsInt (-1 - n) (head 1 width n)

/-- The values of `int`. -/
def InRange (i : ℤ) : Prop := -2147483648 ≤ i ∧ i < 2147483648

/-- A floating-point number of 64 bits. -/
def doubleItem (bits : UInt64) : List UInt8 := head 7 .eight bits.toNat

/-- What a buffer holds after a text has been copied to it.  A text that is longer than the
buffer is not copied, and one that is as long gets no NUL. -/
def copied (text buffer : List UInt8) : List UInt8 :=
  if text.length < buffer.length then text ++ 0 :: buffer.drop (text.length + 1)
  else if text.length = buffer.length then text
  else buffer

/-- The documented behaviour on a well-formed map.  A number is read where it is in the
range of `int`, and a floating-point number where it has 64 bits; the library leaves
undefined what happens at an item of another type, and nothing is assumed about it. -/
structure Reader (cbor : Tinycbor Double) where
  /-- The iterator is in a map, and these are the items from it to the end. -/
  At : cbor.Value → List (List UInt8) → Prop
  ofBits : UInt64 → Double
  init {items : List (List UInt8)} {payload : List UInt8} (hmap : IsMapOf items payload)
    (hitems : ∀ item ∈ items, WellFormed item) :
    ∃ it, cbor.parserInit payload = some it ∧ cbor.isMap it = true ∧
      At (cbor.enterContainer it) items
  atEnd {mapIt : cbor.Value} {items : List (List UInt8)} (h : At mapIt items) :
    cbor.atEnd mapIt = items.isEmpty
  isTextString {mapIt : cbor.Value} {width : Width} {text : List UInt8}
    {items : List (List UInt8)} (htext : text.length < width.bound)
    (h : At mapIt (string 3 width text :: items)) : cbor.isTextString mapIt = true
  copyTextString {mapIt : cbor.Value} {width : Width} {text : List UInt8}
    {items : List (List UInt8)} (htext : text.length < width.bound)
    (h : At mapIt (string 3 width text :: items)) (buffer : List UInt8) :
    cbor.copyTextString mapIt buffer = copied text buffer
  afterTextString {mapIt : cbor.Value} {width : Width} {text : List UInt8}
    {items : List (List UInt8)} (htext : text.length < width.bound)
    (h : At mapIt (string 3 width text :: items)) : At (cbor.afterTextString mapIt) items
  getInt {mapIt : cbor.Value} {i : ℤ} {item : List UInt8} {items : List (List UInt8)}
    (hint : IsInt i item) (hrange : InRange i) (h : At mapIt (item :: items)) :
    cbor.getInt mapIt = i
  getDouble {mapIt : cbor.Value} {bits : UInt64} {items : List (List UInt8)}
    (h : At mapIt (doubleItem bits :: items)) : cbor.getDouble mapIt = ofBits bits
  advance {mapIt : cbor.Value} {item : List UInt8} {items : List (List UInt8)}
    (h : At mapIt (item :: items)) : At (cbor.advance mapIt) items

end Tinycbor

/-! ## An implementation -/

/-- Bytes to be read, and the number of items in them, or none if there is a break. -/
structure Position where
  rest : List UInt8
  left : Option ℕ
deriving DecidableEq, Repr

namespace Position

/-- Move past an item, or stay. -/
def advance (p : Position) : Position :=
  match skip p.rest.length p.rest with
  | some rest => ⟨rest, p.left.map (· - 1)⟩
  | none => p

def major (p : Position) : Option ℕ := (readHead p.rest).map Prod.fst

def atEnd (p : Position) : Bool :=
  match p.left with
  | some n => n == 0
  | none => p.rest.head? == some breakByte

/-- The text of a definite length at the front. -/
def text (p : Position) : Option (List UInt8) :=
  match readHead p.rest with
  | some (3, some n, rest) => if n ≤ rest.length then some (rest.take n) else none
  | _ => none

def intAt (bytes : List UInt8) : ℤ :=
  match readHead bytes with
  | some (major, some n, _) =>
    if major = 0 then Int.bmod n 4294967296
    else if major = 1 then Int.bmod (-1 - n) 4294967296
    else 0
  | _ => 0

def doubleAt (bytes : List UInt8) : UInt64 :=
  match readHead bytes with
  | some (major, some n, _) => if major = 7 then UInt64.ofNat n else 0
  | _ => 0

end Position

/-- A tinycbor whose doubles are their bits. -/
def referenceCbor : Tinycbor UInt64 where
  Value := Position
  parserInit payload := (readHead payload).map fun _ ↦ ⟨payload, some 1⟩
  isMap p := p.major == some 5
  enterContainer p :=
    match readHead p.rest with
    | some (_, arg, rest) => ⟨rest, arg.map (2 * ·)⟩
    | none => p
  atEnd := Position.atEnd
  isTextString p := p.major == some 3
  copyTextString p buffer := p.text.elim buffer (Tinycbor.copied · buffer)
  afterTextString := Position.advance
  getInt p := Position.intAt p.rest
  getDouble p := Position.doubleAt p.rest
  advance := Position.advance

namespace referenceCbor

open Tinycbor

theorem advance_eq_or_lt (p : Position) :
    p.advance = p ∨ p.advance.rest.length < p.rest.length := by
  unfold Position.advance
  cases h : skip p.rest.length p.rest with
  | none => exact .inl rfl
  | some rest => exact .inr (Cbor.length_of_skip h)

/-- The iterator leaves fewer bytes, if it moves. -/
theorem moves : referenceCbor.Moves fun p : Position ↦ p.rest.length :=
  ⟨advance_eq_or_lt, advance_eq_or_lt⟩

/-- The items from a position to the end of a map. -/
structure At (p : Position) (items : List (List UInt8)) : Prop where
  wellFormed : ∀ item ∈ items, WellFormed item
  rest : (p.left = some items.length ∧ ∃ more, p.rest = items.flatten ++ more) ∨
    (p.left = none ∧ ∃ more, p.rest = items.flatten ++ breakByte :: more)

theorem At.exists_rest {p : Position} {item : List UInt8} {items : List (List UInt8)}
    (h : At p (item :: items)) : ∃ more, p.rest = item ++ more := by
  obtain ⟨-, more, hrest⟩ | ⟨-, more, hrest⟩ := h.rest
  · exact ⟨_, by rw [hrest, List.flatten_cons, List.append_assoc]⟩
  · exact ⟨_, by rw [hrest, List.flatten_cons, List.append_assoc]⟩

theorem At.advance {p : Position} {item : List UInt8} {items : List (List UInt8)}
    (h : At p (item :: items)) : At p.advance items := by
  obtain ⟨hitem, hitems⟩ := List.forall_mem_cons.mp h.wellFormed
  have hskip (more : List UInt8) : skip (item ++ more).length (item ++ more) = some more :=
    Cbor.skip_append hitem (by simp) more
  refine ⟨hitems, ?_⟩
  obtain ⟨hleft, more, hrest⟩ | ⟨hleft, more, hrest⟩ := h.rest
  · rw [List.flatten_cons, List.append_assoc] at hrest
    rw [Position.advance, hrest, hskip, hleft]
    exact .inl ⟨rfl, more, rfl⟩
  · rw [List.flatten_cons, List.append_assoc] at hrest
    rw [Position.advance, hrest, hskip, hleft]
    exact .inr ⟨rfl, more, rfl⟩

/-- Major type and argument of the item at the front. -/
theorem At.readHead_eq {p : Position} {item : List UInt8} {items : List (List UInt8)}
    (h : At p (item :: items)) :
    ∃ major arg rest more, readHead item = some (major, arg, rest) ∧
      readHead p.rest = some (major, arg, rest ++ more) := by
  obtain ⟨major, arg, rest, hread, -⟩ :=
    (h.wellFormed item List.mem_cons_self).exists_readHead
  obtain ⟨more, hrest⟩ := h.exists_rest
  exact ⟨major, arg, rest, more, hread, by rw [hrest, Cbor.readHead_append hread]⟩

theorem At.atEnd {p : Position} {items : List (List UInt8)} (h : At p items) :
    p.atEnd = items.isEmpty := by
  obtain ⟨hleft, -⟩ | ⟨hleft, more, hrest⟩ := h.rest
  · rw [Position.atEnd, hleft]
    cases items <;> rfl
  · rw [Position.atEnd, hleft, hrest]
    cases items with
    | nil => rfl
    | cons item items =>
        obtain ⟨byte, bytes, rfl, hne⟩ := (h.wellFormed _ List.mem_cons_self).exists_cons
        simpa using hne

/-- The text at the front, where there is one. -/
theorem At.text {p : Position} {width : Width} {content : List UInt8}
    {items : List (List UInt8)} (hcontent : content.length < width.bound)
    (h : At p (string 3 width content :: items)) :
    p.major = some 3 ∧ p.text = some content := by
  obtain ⟨more, hrest⟩ := h.exists_rest
  have hread : readHead p.rest = some (3, some content.length, content ++ more) := by
    rw [hrest, string, List.append_assoc, Cbor.readHead_head (by decide) hcontent]
  constructor
  · rw [Position.major, hread]
    rfl
  · simp [Position.text, hread]

theorem At.enterContainer {items : List (List UInt8)} {payload : List UInt8}
    (hmap : IsMapOf items payload) (hitems : ∀ item ∈ items, WellFormed item) :
    ∃ it, referenceCbor.parserInit payload = some it ∧ referenceCbor.isMap it = true ∧
      At (referenceCbor.enterContainer it) items := by
  cases hmap with
  | @definite width entries hentries hlength =>
      have hread : readHead (head 5 width entries ++ items.flatten) = _ :=
        Cbor.readHead_head (by decide) hentries items.flatten
      refine ⟨⟨head 5 width entries ++ items.flatten, some 1⟩, by simp [referenceCbor, hread], ?_,
        hitems, .inl ⟨?_, [], ?_⟩⟩
      · simp [referenceCbor, Position.major, hread]
      · simp [referenceCbor, hread, hlength]
      · simp [referenceCbor, hread]
  | @untilBreak entries hlength =>
      have hread : readHead (Cbor.indefinite 5 :: (items.flatten ++ [breakByte])) = _ :=
        Cbor.readHead_indefinite (by decide) (items.flatten ++ [breakByte])
      refine ⟨⟨Cbor.indefinite 5 :: (items.flatten ++ [breakByte]), some 1⟩,
        by simp [referenceCbor, hread], ?_, hitems, .inr ⟨?_, [], ?_⟩⟩
      · simp [referenceCbor, Position.major, hread]
      · simp [referenceCbor, hread]
      · simp [referenceCbor, hread]

theorem bmod_of_inRange {i : ℤ} (h : InRange i) : Int.bmod i 4294967296 = i := by
  obtain ⟨hlow, hhigh⟩ := h
  exact Int.bmod_eq_of_le (by omega) (by omega)

theorem intAt_int {i : ℤ} {item : List UInt8} (h : IsInt i item) (hrange : InRange i) :
    Position.intAt item = i := by
  cases h with
  | @nonneg width n hn =>
      have hread : readHead (head 0 width n ++ []) = _ := Cbor.readHead_head (by decide) hn []
      rw [List.append_nil] at hread
      simp only [Position.intAt, hread, if_true, bmod_of_inRange hrange]
  | @neg width n hn =>
      have hread : readHead (head 1 width n ++ []) = _ := Cbor.readHead_head (by decide) hn []
      rw [List.append_nil] at hread
      simp only [Position.intAt, hread, if_true, Nat.one_ne_zero, if_false,
        bmod_of_inRange hrange]

/-- The implementation behaves as documented. -/
def reader : Reader referenceCbor where
  At := At
  ofBits bits := bits
  init := At.enterContainer
  atEnd := At.atEnd
  isTextString htext h := by simp [referenceCbor, (h.text htext).1]
  copyTextString htext h buffer := by simp [referenceCbor, (h.text htext).2]
  afterTextString _ := At.advance
  getInt hint hrange h := by
    obtain ⟨major, arg, rest, more, hitem, hrest⟩ := h.readHead_eq
    rw [← intAt_int hint hrange]
    simp only [referenceCbor, Position.intAt, hitem, hrest]
    cases arg <;> rfl
  getDouble {p bits items} h := by
    obtain ⟨more, hrest⟩ := h.exists_rest
    have hread : readHead (head 7 .eight bits.toNat ++ more) = _ :=
      Cbor.readHead_head (by decide) bits.toNat_lt more
    simp [referenceCbor, Position.doubleAt, hrest, doubleItem, hread]
  advance := At.advance

end referenceCbor

end FortAgent.Joystick
