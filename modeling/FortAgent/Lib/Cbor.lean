import Mathlib.Data.List.Basic
import Mathlib.Data.Nat.Notation
import Mathlib.Tactic.Ring

/-!
# CBOR

Data items of CBOR as strings of bytes.  An item begins with a head: a major type, and an
argument that is in the head's first byte or in one, two, four or eight bytes behind it.
Strings, arrays and maps of a definite length have it as their argument; those of an
indefinite length end in a break.

`WellFormed` is the grammar of items, with heads of any width and not only the shortest
(`Width.shortest`).  `skip` reads past an item: past every well-formed one, whatever
follows it (`skip_append`).
-/

namespace Cbor

/-! ## Numbers in network order -/

/-- The last `size` bytes of a number, the highest first. -/
def bigEndian : ℕ → ℕ → List UInt8
  | 0, _ => []
  | size + 1, value => UInt8.ofNat (value / 256 ^ size) :: bigEndian size value

def ofBigEndian (bytes : List UInt8) : ℕ :=
  bytes.foldl (fun value byte ↦ 256 * value + byte.toNat) 0

@[simp] theorem length_bigEndian (size value : ℕ) : (bigEndian size value).length = size := by
  induction size with
  | zero => rfl
  | succ size ih => rw [bigEndian, List.length_cons, ih]

theorem ofBigEndian_bigEndian {size value : ℕ} (h : value < 256 ^ size) :
    ofBigEndian (bigEndian size value) = value := by
  have hfold : ∀ start, (bigEndian size value).foldl
      (fun value byte ↦ 256 * value + byte.toNat) start =
        256 ^ size * start + value % 256 ^ size := by
    clear h
    induction size with
    | zero => intro start; simp [bigEndian, Nat.mod_one]
    | succ size ih =>
        intro start
        have hmod : value % 256 ^ (size + 1) =
            value % 256 ^ size + 256 ^ size * (value / 256 ^ size % 256) := Nat.mod_pow_succ
        rw [bigEndian, List.foldl_cons, ih, UInt8.toNat_ofNat', hmod]
        ring
  rw [ofBigEndian, hfold, Nat.mul_zero, Nat.zero_add, Nat.mod_eq_of_lt h]

/-! ## Heads -/

/-- Where the argument of a head is: in its first byte, or in a number of bytes behind. -/
inductive Width
  | direct | one | two | four | eight
deriving DecidableEq, Repr

namespace Width

/-- The number of bytes behind the first. -/
def size : Width → ℕ
  | direct => 0
  | one => 1
  | two => 2
  | four => 4
  | eight => 8

/-- The low five bits of the first byte. -/
def info (width : Width) (arg : ℕ) : ℕ :=
  match width with
  | direct => arg
  | one => 24
  | two => 25
  | four => 26
  | eight => 27

/-- The first argument that a head of this width cannot have. -/
def bound : Width → ℕ
  | direct => 24
  | one => 256
  | two => 65536
  | four => 4294967296
  | eight => 18446744073709551616

/-- The width that an encoder chooses. -/
def shortest (arg : ℕ) : Width :=
  if arg < 24 then direct
  else if arg < 256 then one
  else if arg < 65536 then two
  else if arg < 4294967296 then four
  else eight

/-- A smaller argument has no longer head. -/
theorem size_shortest_mono {arg arg' : ℕ} (h : arg ≤ arg') :
    (shortest arg).size ≤ (shortest arg').size := by
  unfold shortest
  split_ifs <;> simp only [size] <;> omega

end Width

/-- The head of an item. -/
def head (major : ℕ) (width : Width) (arg : ℕ) : List UInt8 :=
  UInt8.ofNat (32 * major + width.info arg) :: bigEndian width.size arg

/-- The first byte of an item of indefinite length. -/
def indefinite (major : ℕ) : UInt8 := UInt8.ofNat (32 * major + 31)

/-- The break behind the last part of an item of indefinite length. -/
def breakByte : UInt8 := 0xFF

/-- The major type and the argument at the front, if there is a head, and what is behind
it.  An item of indefinite length has no argument. -/
def readHead : List UInt8 → Option (ℕ × Option ℕ × List UInt8)
  | [] => none
  | byte :: rest =>
    let major := byte.toNat / 32
    let info := byte.toNat % 32
    if info < 24 then some (major, some info, rest)
    else if info < 28 then
      let size := 2 ^ (info - 24)
      if size ≤ rest.length then
        some (major, some (ofBigEndian (rest.take size)), rest.drop size)
      else none
    else if info = 31 then some (major, none, rest)
    else none

@[simp] theorem length_head (major : ℕ) (width : Width) (arg : ℕ) :
    (head major width arg).length = width.size + 1 := by
  rw [head, List.length_cons, length_bigEndian]

theorem toNat_firstByte {major info : ℕ} (hmajor : major < 8) (hinfo : info < 32) :
    (UInt8.ofNat (32 * major + info)).toNat = 32 * major + info := by
  rw [UInt8.toNat_ofNat', Nat.mod_eq_of_lt (by omega)]

theorem readHead_direct {byte : UInt8} (hinfo : byte.toNat % 32 < 24) (rest : List UInt8) :
    readHead (byte :: rest) = some (byte.toNat / 32, some (byte.toNat % 32), rest) := by
  rw [readHead]
  exact if_pos hinfo

theorem readHead_behind {byte : UInt8} {k : ℕ} (hinfo : byte.toNat % 32 = 24 + k) (hk : k < 4)
    {arg : List UInt8} (harg : arg.length = 2 ^ k) (rest : List UInt8) :
    readHead (byte :: (arg ++ rest)) =
      some (byte.toNat / 32, some (ofBigEndian arg), rest) := by
  have hsize : 2 ^ k ≤ (arg ++ rest).length := by simp [harg]
  rw [readHead]
  simp only [hinfo, Nat.add_sub_cancel_left]
  rw [if_neg (by omega), if_pos (by omega), if_pos hsize, List.take_left' harg,
    List.drop_left' harg]

/-- A head is read back, whatever follows it. -/
theorem readHead_head {major arg : ℕ} {width : Width} (hmajor : major < 8)
    (harg : arg < width.bound) (rest : List UInt8) :
    readHead (head major width arg ++ rest) = some (major, some arg, rest) := by
  have hinfo : width.info arg < 28 := by
    cases width <;> simp only [Width.info, Width.bound] at harg ⊢ <;> omega
  have hfirst := toNat_firstByte hmajor (Nat.lt_trans hinfo (by decide))
  have hhigh : (32 * major + width.info arg) / 32 = major := by omega
  have hlow : (32 * major + width.info arg) % 32 = width.info arg := by omega
  have hbehind {k : ℕ} (hk : k < 4) (hinfo : width.info arg = 24 + k)
      (hsize : width.size = 2 ^ k) (hbound : arg < 256 ^ 2 ^ k) :
      readHead (head major width arg ++ rest) = some (major, some arg, rest) := by
    rw [head, List.cons_append, readHead_behind (by rw [hfirst, hlow, hinfo]) hk
      ((length_bigEndian _ _).trans hsize), hfirst, hhigh, hsize, ofBigEndian_bigEndian hbound]
  cases width with
  | direct =>
      have hdirect : (UInt8.ofNat (32 * major + Width.direct.info arg)).toNat % 32 < 24 := by
        rw [hfirst, hlow]
        exact harg
      rw [head, List.cons_append, readHead_direct hdirect, hfirst, hhigh, hlow]
      rfl
  | one => exact hbehind (k := 0) (by decide) rfl rfl harg
  | two => exact hbehind (k := 1) (by decide) rfl rfl harg
  | four => exact hbehind (k := 2) (by decide) rfl rfl harg
  | eight => exact hbehind (k := 3) (by decide) rfl rfl harg

theorem readHead_indefinite {major : ℕ} (hmajor : major < 8) (rest : List UInt8) :
    readHead (indefinite major :: rest) = some (major, none, rest) := by
  have hhigh : (32 * major + 31) / 32 = major := by omega
  have hlow : (32 * major + 31) % 32 = 31 := by omega
  rw [indefinite, readHead, toNat_firstByte hmajor (by omega)]
  simp only [hhigh, hlow]
  rfl

/-- What is read does not depend on what follows. -/
theorem readHead_append {bytes rest : List UInt8} {major : ℕ} {arg : Option ℕ}
    (h : readHead bytes = some (major, arg, rest)) (more : List UInt8) :
    readHead (bytes ++ more) = some (major, arg, rest ++ more) := by
  cases bytes with
  | nil => cases h
  | cons byte bytes =>
      simp only [readHead] at h
      rw [List.cons_append, readHead]
      split_ifs at h with hdirect hbehind hsize hindefinite
      · cases h
        exact if_pos hdirect
      · cases h
        have hsize' := Nat.le_trans hsize (Nat.le_add_right bytes.length more.length)
        rw [← List.length_append] at hsize'
        simp only [if_neg hdirect, if_pos hbehind, if_pos hsize',
          List.take_append_of_le_length hsize, List.drop_append_of_le_length hsize]
      · cases h
        simp only [if_neg hdirect, if_neg hbehind, if_pos hindefinite]

/-- A head that is read has at least one byte. -/
theorem length_of_readHead {bytes rest : List UInt8} {major : ℕ} {arg : Option ℕ}
    (h : readHead bytes = some (major, arg, rest)) : rest.length < bytes.length := by
  cases bytes with
  | nil => cases h
  | cons byte bytes =>
      simp only [readHead] at h
      split_ifs at h
      · cases h
        exact Nat.lt_succ_self _
      · cases h
        rw [List.length_drop, List.length_cons]
        exact Nat.lt_succ_of_le (Nat.sub_le _ _)
      · cases h
        exact Nat.lt_succ_self _

/-! ## Items -/

/-- A string of a definite length. -/
def string (major : ℕ) (width : Width) (content : List UInt8) : List UInt8 :=
  head major width content.length ++ content

/-- The head that an encoder writes. -/
def shortHead (major arg : ℕ) : List UInt8 := head major (.shortest arg) arg

/-- The length of that head. -/
def headLength (arg : ℕ) : ℕ := (Width.shortest arg).size + 1

/-- The string that an encoder writes. -/
def shortString (major : ℕ) (content : List UInt8) : List UInt8 :=
  shortHead major content.length ++ content

/-- The integer that an encoder writes. -/
def shortInt (i : ℤ) : List UInt8 :=
  if 0 ≤ i then shortHead 0 i.toNat else shortHead 1 (-1 - i).toNat

@[simp] theorem length_shortHead (major arg : ℕ) :
    (shortHead major arg).length = headLength arg := length_head ..

@[simp] theorem length_shortString (major : ℕ) (content : List UInt8) :
    (shortString major content).length = headLength content.length + content.length := by
  rw [shortString, List.length_append, length_shortHead]

theorem headLength_mono {arg arg' : ℕ} (h : arg ≤ arg') : headLength arg ≤ headLength arg' :=
  Nat.succ_le_succ (Width.size_shortest_mono h)

theorem headLength_le_nine (arg : ℕ) : headLength arg ≤ 9 := by
  have hsize : ∀ width : Width, width.size ≤ 8 := by
    intro width
    cases width <;> decide
  exact Nat.succ_le_succ (hsize _)

theorem length_shortInt_le_nine (i : ℤ) : (shortInt i).length ≤ 9 := by
  unfold shortInt
  split
  · rw [length_shortHead]
    exact headLength_le_nine _
  · rw [length_shortHead]
    exact headLength_le_nine _

/-- The grammar of items.  Major types: 0 and 1 integers, 2 and 3 strings, 4 arrays, 5 maps,
6 tags, 7 simple values and floating-point numbers. -/
inductive WellFormed : List UInt8 → Prop
  | int {major arg : ℕ} {width : Width} (hmajor : major ≤ 1) (harg : arg < width.bound) :
      WellFormed (head major width arg)
  | string {major : ℕ} {width : Width} {content : List UInt8} (hmajor : major = 2 ∨ major = 3)
      (hlength : content.length < width.bound) : WellFormed (string major width content)
  | chunks {major : ℕ} {chunks : List (List UInt8)} (hmajor : major = 2 ∨ major = 3)
      (hchunks : ∀ chunk ∈ chunks, ∃ width content,
        content.length < width.bound ∧ chunk = Cbor.string major width content) :
      WellFormed (indefinite major :: (chunks.flatten ++ [breakByte]))
  | array {width : Width} {items : List (List UInt8)} (hlength : items.length < width.bound)
      (hitems : ∀ item ∈ items, WellFormed item) :
      WellFormed (head 4 width items.length ++ items.flatten)
  | arrayUntilBreak {items : List (List UInt8)} (hitems : ∀ item ∈ items, WellFormed item) :
      WellFormed (indefinite 4 :: (items.flatten ++ [breakByte]))
  | map {width : Width} {entries : ℕ} {items : List (List UInt8)} (hentries : entries < width.bound)
      (hlength : items.length = 2 * entries) (hitems : ∀ item ∈ items, WellFormed item) :
      WellFormed (head 5 width entries ++ items.flatten)
  | mapUntilBreak {entries : ℕ} {items : List (List UInt8)}
      (hlength : items.length = 2 * entries) (hitems : ∀ item ∈ items, WellFormed item) :
      WellFormed (indefinite 5 :: (items.flatten ++ [breakByte]))
  | tag {width : Width} {arg : ℕ} {item : List UInt8} (harg : arg < width.bound)
      (hitem : WellFormed item) : WellFormed (head 6 width arg ++ item)
  | simple {width : Width} {arg : ℕ} (harg : arg < width.bound)
      (hone : width = .one → 32 ≤ arg) : WellFormed (head 7 width arg)

/-- Every item has a head, and does not begin with a break. -/
theorem WellFormed.exists_readHead {item : List UInt8} (h : WellFormed item) :
    ∃ major arg rest, readHead item = some (major, arg, rest) ∧ (arg = none → major < 7) := by
  have hhead {major arg : ℕ} {width : Width} (rest : List UInt8) (hmajor : major < 8)
      (harg : arg < width.bound) : ∃ major' arg' rest',
        readHead (head major width arg ++ rest) = some (major', arg', rest') ∧
          (arg' = none → major' < 7) :=
    ⟨_, _, _, readHead_head hmajor harg rest, fun h ↦ (Option.some_ne_none _ h).elim⟩
  have hindefinite {major : ℕ} (rest : List UInt8) (hmajor : major < 7) : ∃ major' arg' rest',
      readHead (indefinite major :: rest) = some (major', arg', rest') ∧
        (arg' = none → major' < 7) :=
    ⟨_, _, _, readHead_indefinite (Nat.lt_succ_of_lt hmajor) rest, fun _ ↦ hmajor⟩
  cases h with
  | int hmajor harg => simpa using hhead [] (Nat.lt_of_le_of_lt hmajor (by decide)) harg
  | string hmajor hlength => exact hhead _ (by omega) hlength
  | chunks hmajor hchunks => exact hindefinite _ (by omega)
  | array hlength _ => exact hhead _ (by decide) hlength
  | arrayUntilBreak _ => exact hindefinite _ (by decide)
  | map hentries _ _ => exact hhead _ (by decide) hentries
  | mapUntilBreak _ _ => exact hindefinite _ (by decide)
  | tag harg _ => exact hhead _ (by decide) harg
  | simple harg _ => simpa using hhead [] (by decide) harg

/-- A break is no item, and neither is anything that begins with one. -/
theorem WellFormed.exists_cons {item : List UInt8} (h : WellFormed item) :
    ∃ byte bytes, item = byte :: bytes ∧ byte ≠ breakByte := by
  obtain ⟨major, arg, rest, hread, hmajor⟩ := h.exists_readHead
  cases item with
  | nil => cases hread
  | cons byte bytes =>
      refine ⟨byte, bytes, rfl, ?_⟩
      rintro rfl
      have hbreak : readHead (breakByte :: bytes) = some (7, none, bytes) := rfl
      rw [hbreak] at hread
      cases hread
      exact absurd (hmajor rfl) (by decide)

/-! ## Reading past an item -/

section Skip

variable (item : List UInt8 → Option (List UInt8))

/-- Read past a number of items. -/
def skipMany : ℕ → List UInt8 → Option (List UInt8)
  | 0, bytes => some bytes
  | n + 1, bytes => (item bytes).bind (skipMany n)

/-- Read past items until there is a break, and past the break. -/
def skipUntilBreak : ℕ → List UInt8 → Option (List UInt8)
  | 0, _ => none
  | _ + 1, [] => none
  | fuel + 1, byte :: bytes =>
    if byte = breakByte then some bytes
    else (item (byte :: bytes)).bind (skipUntilBreak fuel)

/-- Read past what is behind a head. -/
def skipBody (major : ℕ) (arg : Option ℕ) (bytes : List UInt8) : Option (List UInt8) :=
  match arg with
  | none =>
    if major = 2 ∨ major = 3 ∨ major = 4 ∨ major = 5 then
      skipUntilBreak item (bytes.length + 1) bytes
    else none
  | some n =>
    if major = 2 ∨ major = 3 then
      if n ≤ bytes.length then some (bytes.drop n) else none
    else if major = 4 then skipMany item n bytes
    else if major = 5 then skipMany item (2 * n) bytes
    else if major = 6 then item bytes
    else some bytes

end Skip

/-- Read past an item, if it is nested at most `fuel` deep. -/
def skip : ℕ → List UInt8 → Option (List UInt8)
  | 0, _ => none
  | fuel + 1, bytes =>
    (readHead bytes).bind fun (major, arg, rest) ↦ skipBody (skip fuel) major arg rest

theorem skip_of_readHead {fuel : ℕ} {bytes rest : List UInt8} {major : ℕ} {arg : Option ℕ}
    (h : readHead bytes = some (major, arg, rest)) :
    skip (fuel + 1) bytes = skipBody (skip fuel) major arg rest := by
  rw [skip, h, Option.bind_some]

section Skip

variable {item : List UInt8 → Option (List UInt8)}

theorem skipMany_flatten {items : List (List UInt8)}
    (h : ∀ bytes ∈ items, ∀ rest, item (bytes ++ rest) = some rest) (rest : List UInt8) :
    skipMany item items.length (items.flatten ++ rest) = some rest := by
  induction items with
  | nil => rfl
  | cons bytes items ih =>
      obtain ⟨hbytes, hitems⟩ := List.forall_mem_cons.mp h
      rw [List.length_cons, skipMany, List.flatten_cons, List.append_assoc, hbytes,
        Option.bind_some, ih hitems]

theorem skipUntilBreak_flatten {items : List (List UInt8)} {fuel : ℕ}
    (hfuel : items.flatten.length < fuel)
    (hnobreak : ∀ bytes ∈ items, ∃ byte bytes', bytes = byte :: bytes' ∧ byte ≠ breakByte)
    (h : ∀ bytes ∈ items, ∀ rest, item (bytes ++ rest) = some rest) (rest : List UInt8) :
    skipUntilBreak item fuel (items.flatten ++ breakByte :: rest) = some rest := by
  induction items generalizing fuel with
  | nil =>
      cases fuel with
      | zero => cases hfuel
      | succ fuel => exact if_pos rfl
  | cons bytes items ih =>
      obtain ⟨hbytes, hitems⟩ := List.forall_mem_cons.mp h
      obtain ⟨⟨byte, bytes', rfl, hne⟩, hnobreak'⟩ := List.forall_mem_cons.mp hnobreak
      cases fuel with
      | zero => cases hfuel
      | succ fuel =>
          have hfuel' : items.flatten.length < fuel := by
            rw [List.flatten_cons, List.length_append, List.length_cons] at hfuel
            omega
          have hitem := hbytes (items.flatten ++ breakByte :: rest)
          rw [List.cons_append] at hitem
          rw [List.flatten_cons, List.append_assoc, List.cons_append, skipUntilBreak, if_neg hne,
            hitem, Option.bind_some, ih hfuel' hnobreak' hitems]

theorem length_of_skipMany
    (h : ∀ bytes rest, item bytes = some rest → rest.length ≤ bytes.length) {n : ℕ}
    {bytes rest : List UInt8} (hskip : skipMany item n bytes = some rest) :
    rest.length ≤ bytes.length := by
  induction n generalizing bytes with
  | zero =>
      obtain rfl := Option.some.inj hskip
      exact Nat.le_refl _
  | succ n ih =>
      obtain ⟨bytes', hitem, hmany⟩ := Option.bind_eq_some_iff.mp hskip
      exact Nat.le_trans (ih hmany) (h _ _ hitem)

theorem length_of_skipUntilBreak
    (h : ∀ bytes rest, item bytes = some rest → rest.length ≤ bytes.length) {fuel : ℕ}
    {bytes rest : List UInt8} (hskip : skipUntilBreak item fuel bytes = some rest) :
    rest.length ≤ bytes.length := by
  induction fuel generalizing bytes with
  | zero => cases hskip
  | succ fuel ih =>
      cases bytes with
      | nil => cases hskip
      | cons byte bytes =>
          rw [skipUntilBreak] at hskip
          split at hskip
          · obtain rfl := Option.some.inj hskip
            exact Nat.le_succ _
          · obtain ⟨bytes', hitem, hmany⟩ := Option.bind_eq_some_iff.mp hskip
            exact Nat.le_trans (ih hmany) (h _ _ hitem)

end Skip

/-- What is left is shorter. -/
theorem length_of_skip {fuel : ℕ} {bytes rest : List UInt8} (h : skip fuel bytes = some rest) :
    rest.length < bytes.length := by
  induction fuel generalizing bytes rest with
  | zero => cases h
  | succ fuel ih =>
      obtain ⟨⟨major, arg, behind⟩, hread, hbody⟩ := Option.bind_eq_some_iff.mp h
      refine Nat.lt_of_le_of_lt ?_ (length_of_readHead hread)
      have hitem : ∀ bytes rest, skip fuel bytes = some rest → rest.length ≤ bytes.length :=
        fun _ _ hskip ↦ Nat.le_of_lt (ih hskip)
      dsimp only [skipBody] at hbody
      split at hbody
      · split_ifs at hbody
        exact length_of_skipUntilBreak hitem hbody
      · split_ifs at hbody
        · obtain rfl := Option.some.inj hbody
          rw [List.length_drop]
          exact Nat.sub_le _ _
        · exact length_of_skipMany hitem hbody
        · exact length_of_skipMany hitem hbody
        · exact hitem _ _ hbody
        · obtain rfl := Option.some.inj hbody
          exact Nat.le_refl _

theorem length_le_flatten {items : List (List UInt8)} {item : List UInt8} (h : item ∈ items) :
    item.length ≤ items.flatten.length :=
  (List.sublist_flatten_of_mem h).length_le

theorem skip_string {major : ℕ} {width : Width} {content : List UInt8}
    (hmajor : major = 2 ∨ major = 3) (hlength : content.length < width.bound) (fuel : ℕ)
    (rest : List UInt8) : skip (fuel + 1) (string major width content ++ rest) = some rest := by
  rw [string, List.append_assoc, skip_of_readHead (readHead_head (by omega) hlength _), skipBody,
    if_pos hmajor, if_pos (by simp), List.drop_left]

/-- What is behind the first byte of an item of indefinite length. -/
theorem skip_indefinite {major : ℕ} (hmajor : major = 2 ∨ major = 3 ∨ major = 4 ∨ major = 5)
    {items : List (List UInt8)} {fuel : ℕ}
    (hnobreak : ∀ bytes ∈ items, ∃ byte bytes', bytes = byte :: bytes' ∧ byte ≠ breakByte)
    (h : ∀ bytes ∈ items, ∀ rest, skip fuel (bytes ++ rest) = some rest) (rest : List UInt8) :
    skip (fuel + 1) (indefinite major :: (items.flatten ++ [breakByte]) ++ rest) = some rest := by
  have hlength : items.flatten.length < (items.flatten ++ breakByte :: rest).length + 1 := by
    rw [List.length_append]
    omega
  rw [List.cons_append, List.append_assoc, List.singleton_append,
    skip_of_readHead (readHead_indefinite (by omega) _), skipBody, if_pos hmajor,
    skipUntilBreak_flatten hlength hnobreak h]

theorem exists_eq_succ {byte : UInt8} {bytes : List UInt8} {fuel : ℕ}
    (h : (byte :: bytes).length ≤ fuel) : ∃ fuel', fuel = fuel' + 1 ∧ bytes.length ≤ fuel' := by
  cases fuel with
  | zero => cases h
  | succ fuel => exact ⟨fuel, rfl, Nat.le_of_succ_le_succ h⟩

/-- **Reading past an item** leaves what follows it. -/
theorem skip_append {bytes : List UInt8} (h : WellFormed bytes) {fuel : ℕ}
    (hfuel : bytes.length ≤ fuel) (rest : List UInt8) :
    skip fuel (bytes ++ rest) = some rest := by
  have hparts {items : List (List UInt8)} {fuel : ℕ} (hle : items.flatten.length ≤ fuel)
      (ih : ∀ item ∈ items, ∀ {fuel : ℕ}, item.length ≤ fuel → ∀ rest,
        skip fuel (item ++ rest) = some rest) :
      ∀ item ∈ items, ∀ rest, skip fuel (item ++ rest) = some rest :=
    fun item hmem ↦ ih item hmem (Nat.le_trans (length_le_flatten hmem) hle)
  induction h generalizing fuel rest with
  | int hmajor harg =>
      obtain ⟨fuel, rfl, -⟩ := exists_eq_succ hfuel
      rw [skip_of_readHead (readHead_head (by omega) harg rest), skipBody]
      rw [if_neg (by omega), if_neg (by omega), if_neg (by omega), if_neg (by omega)]
  | string hmajor hlength =>
      obtain ⟨fuel, rfl, -⟩ := exists_eq_succ hfuel
      exact skip_string hmajor hlength fuel rest
  | @chunks major chunks hmajor hchunks =>
      obtain ⟨fuel, rfl, hle⟩ := exists_eq_succ hfuel
      rw [List.length_append] at hle
      refine skip_indefinite (by omega) (fun chunk hmem ↦ ?_) (fun chunk hmem rest ↦ ?_) rest
      · obtain ⟨width, content, hlength, rfl⟩ := hchunks chunk hmem
        exact (WellFormed.string hmajor hlength).exists_cons
      · have hfuel' := Nat.le_trans (length_le_flatten hmem) (Nat.le_of_add_right_le hle)
        obtain ⟨width, content, hlength, rfl⟩ := hchunks chunk hmem
        obtain ⟨fuel, rfl, -⟩ := exists_eq_succ hfuel'
        exact skip_string hmajor hlength fuel rest
  | array hlength hitems ih =>
      obtain ⟨fuel, rfl, -⟩ := exists_eq_succ hfuel
      rw [List.length_append, length_head] at hfuel
      rw [List.append_assoc, skip_of_readHead (readHead_head (by decide) hlength _)]
      exact skipMany_flatten (hparts (by omega) ih) rest
  | arrayUntilBreak hitems ih =>
      obtain ⟨fuel, rfl, hle⟩ := exists_eq_succ hfuel
      rw [List.length_append] at hle
      exact skip_indefinite (by decide) (fun item hmem ↦ (hitems item hmem).exists_cons)
        (hparts (Nat.le_of_add_right_le hle) ih) rest
  | map hentries hlength hitems ih =>
      obtain ⟨fuel, rfl, -⟩ := exists_eq_succ hfuel
      rw [List.length_append, length_head] at hfuel
      rw [List.append_assoc, skip_of_readHead (readHead_head (by decide) hentries _), skipBody,
        if_neg (by decide), if_neg (by decide), if_pos (by decide), ← hlength]
      exact skipMany_flatten (hparts (by omega) ih) rest
  | mapUntilBreak hlength hitems ih =>
      obtain ⟨fuel, rfl, hle⟩ := exists_eq_succ hfuel
      rw [List.length_append] at hle
      exact skip_indefinite (by decide) (fun item hmem ↦ (hitems item hmem).exists_cons)
        (hparts (Nat.le_of_add_right_le hle) ih) rest
  | tag harg hitem ih =>
      obtain ⟨fuel, rfl, -⟩ := exists_eq_succ hfuel
      rw [List.length_append, length_head] at hfuel
      rw [List.append_assoc, skip_of_readHead (readHead_head (by decide) harg _)]
      exact ih (by omega) rest
  | simple harg hone =>
      obtain ⟨fuel, rfl, -⟩ := exists_eq_succ hfuel
      rw [skip_of_readHead (readHead_head (by decide) harg rest)]
      rfl

end Cbor
