import FortAgent.Joystick.Tinycbor
import FortAgent.Lib.LastWriter

/-!
# Maps of battery telemetry

On a well-formed map with texts as keys, the decoder stores the values of the known keys,
the last one for each.  But a key that is too long for the buffer leaves in it what was
there before, and is compared all the same: an entry with such a key can be taken for one
with any of the known keys, also for one whose value should be of another type.
`decodesExactly_of_fitting` says that without such a key the decoder is exact, and that
every such key can make it read a value as what it is not.
-/

namespace FortAgent.Joystick

open Cbor (WellFormed Width string)
open Tinycbor (Reader IsMapOf IsInt InRange doubleItem copied)

/-! ## Fields -/

/-- The fields of `BatteryStatus`. -/
inductive Field
  | percent | volts | tempC | amps
deriving DecidableEq, Repr

/-- The key of a field. -/
def Field.name : Field → String
  | percent => "percent"
  | volts => "volts"
  | tempC => "tempC"
  | amps => "amps"

section Fields

variable {Double : Type}

/-- The value of a field. -/
def BatteryStatus.get (status : BatteryStatus Double) : Field → ℤ ⊕ Double
  | .percent => .inl status.percent
  | .volts => .inr status.volts
  | .tempC => .inr status.tempC
  | .amps => .inr status.amps

/-- What the accessor for a field reads. -/
def Tinycbor.read (cbor : Tinycbor Double) (field : Field) (mapIt : cbor.Value) : ℤ ⊕ Double :=
  match field with
  | .percent => .inl (cbor.getInt mapIt)
  | _ => .inr (cbor.getDouble mapIt)

/-- The value of a field before the first entry. -/
def Field.zero [Zero Double] : Field → ℤ ⊕ Double
  | percent => .inl 0
  | _ => .inr 0

/-- The item is of the type of the field, and this is its value. -/
inductive Denotes (ofBits : UInt64 → Double) : Field → List UInt8 → ℤ ⊕ Double → Prop
  | int {i : ℤ} {item : List UInt8} (h : IsInt i item) (hrange : InRange i) :
      Denotes ofBits .percent item (.inl i)
  | double {field : Field} (hfield : field ≠ .percent) (bits : UInt64) :
      Denotes ofBits field (doubleItem bits) (.inr (ofBits bits))

/-- The value of a field is read. -/
theorem Denotes.read_eq {cbor : Tinycbor Double} (reader : Reader cbor) {field : Field}
    {item : List UInt8} {reading : ℤ ⊕ Double} (h : Denotes reader.ofBits field item reading)
    {mapIt : cbor.Value} {items : List (List UInt8)} (hat : reader.At mapIt (item :: items)) :
    cbor.read field mapIt = reading := by
  cases h with
  | int h hrange => exact congrArg Sum.inl (reader.getInt h hrange hat)
  | double hfield bits =>
      cases field with
      | percent => exact absurd rfl hfield
      | _ => exact congrArg Sum.inr (reader.getDouble hat)

/-- The accessor for the field may be called at this item. -/
def Field.Accepts : Field → List UInt8 → Prop
  | percent, item => ∃ i, IsInt i item
  | _, item => ∃ bits, item = doubleItem bits

/-- An item is not both an integer and a floating-point number. -/
theorem not_isInt_doubleItem (i : ℤ) (bits : UInt64) : ¬IsInt i (doubleItem bits) := by
  intro h
  have hdouble : Cbor.readHead (Cbor.head 7 .eight bits.toNat ++ []) = _ :=
    Cbor.readHead_head (by decide) bits.toNat_lt []
  rw [List.append_nil, ← doubleItem] at hdouble
  generalize doubleItem bits = item at h hdouble
  cases h with
  | @nonneg width n hn =>
      have hint : Cbor.readHead (Cbor.head 0 width n ++ []) = _ :=
        Cbor.readHead_head (by decide) hn []
      rw [List.append_nil, hdouble] at hint
      exact absurd (congrArg Prod.fst (Option.some.inj hint)) (show (7 : ℕ) ≠ 0 by decide)
  | @neg width n hn =>
      have hint : Cbor.readHead (Cbor.head 1 width n ++ []) = _ :=
        Cbor.readHead_head (by decide) hn []
      rw [List.append_nil, hdouble] at hint
      exact absurd (congrArg Prod.fst (Option.some.inj hint)) (show (7 : ℕ) ≠ 1 by decide)

/-- No item is of the types of all fields. -/
theorem exists_not_accepts (item : List UInt8) : ∃ field : Field, ¬field.Accepts item := by
  by_cases hint : ∃ i, IsInt i item
  · refine ⟨.volts, ?_⟩
    rintro ⟨bits, rfl⟩
    obtain ⟨i, hi⟩ := hint
    exact not_isInt_doubleItem i bits hi
  · exact ⟨.percent, hint⟩

/-! ## Comparing keys -/

theorem strcmpEq_iff {buffer : List UInt8} {text : String} :
    strcmpEq buffer text = true ↔ ascii text ++ [0] <+: buffer := by
  have hlength : (ascii text ++ [0]).length = text.length + 1 := by
    simp [ascii, String.length_toList]
  rw [strcmpEq, beq_iff_eq, List.prefix_iff_eq_take, hlength, eq_comm]

/-- Texts without NUL are equal if they are so up to the NUL behind them. -/
theorem eq_of_append_zero {a b x y : List UInt8} (ha : 0 ∉ a) (hb : 0 ∉ b)
    (h : a ++ 0 :: x = b ++ 0 :: y) : a = b := by
  have hkeep {l z : List UInt8} (hl : 0 ∉ l) : (l ++ 0 :: z).takeWhile (· != 0) = l := by
    rw [List.takeWhile_append_of_pos fun byte hbyte ↦ ?_, List.takeWhile_cons_of_neg (by simp),
      List.append_nil]
    exact bne_iff_ne.mpr fun hzero ↦ hl (hzero ▸ hbyte)
  rw [← hkeep ha (z := x), h, hkeep hb]

theorem Field.noNul (field : Field) : 0 ∉ ascii field.name := by
  cases field <;> decide

theorem Field.length_lt (field : Field) : (ascii field.name).length < 32 := by
  cases field <;> decide

/-- A key that fits into the buffer is found equal to a known key exactly if it is. -/
theorem strcmpEq_copied {key buffer : List UInt8} (hkey : 0 ∉ key) (hbuffer : buffer.length = 32)
    (hle : key.length ≤ 32) (field : Field) :
    strcmpEq (copied key buffer) field.name = true ↔ key = ascii field.name := by
  rw [strcmpEq_iff, copied, hbuffer]
  split
  · constructor
    · rintro ⟨y, hy⟩
      rw [List.append_assoc] at hy
      exact (eq_of_append_zero field.noNul hkey hy).symm
    · rintro rfl
      exact ⟨_, by rw [List.append_assoc]; rfl⟩
  · next hlt =>
      -- there is no NUL in the buffer, and no known key is as long
      have hlength : key.length = 32 := Nat.le_antisymm hle (Nat.not_lt.mp hlt)
      rw [if_pos hlength]
      constructor
      · rintro ⟨y, rfl⟩
        exact absurd (by simp) hkey
      · rintro rfl
        exact absurd hlength (Nat.ne_of_lt field.length_lt)

/-- A key that does not fit leaves the buffer as it was. -/
theorem copied_of_lt {key buffer : List UInt8} (h : buffer.length < key.length) :
    copied key buffer = buffer := by
  rw [copied, if_neg (Nat.lt_asymm h), if_neg (Nat.ne_of_gt h)]

/-- A buffer is found equal to one known key at most. -/
theorem Field.eq_of_strcmpEq {buffer : List UInt8} {field field' : Field}
    (h : strcmpEq buffer field.name = true) (h' : strcmpEq buffer field'.name = true) :
    field = field' := by
  obtain ⟨x, hx⟩ := strcmpEq_iff.mp h
  obtain ⟨y, hy⟩ := strcmpEq_iff.mp h'
  have hname : ascii field.name = ascii field'.name := by
    rw [List.append_assoc] at hx hy
    exact eq_of_append_zero field.noNul field'.noNul (hx.trans hy.symm)
  clear h h' hx hy
  revert hname
  cases field <;> cases field' <;> decide

/-- **One comparison of keys** stores the value of the field that is found, and no other. -/
theorem get_decodeBatteryEntry (cbor : Tinycbor Double) (status : BatteryStatus Double)
    (buffer : List UInt8) (mapIt : cbor.Value) (field : Field) :
    (decodeBatteryEntry cbor status buffer mapIt).get field =
      if strcmpEq buffer field.name then cbor.read field mapIt else status.get field := by
  by_cases hfound : ∃ found : Field, strcmpEq buffer found.name = true
  · obtain ⟨found, hfound⟩ := hfound
    have hother (field : Field) : strcmpEq buffer field.name = decide (field = found) := by
      rw [Bool.eq_iff_iff, decide_eq_true_iff]
      exact ⟨fun h ↦ Field.eq_of_strcmpEq h hfound, by rintro rfl; exact hfound⟩
    have hpercent : strcmpEq buffer "percent" = _ := hother .percent
    have hvolts : strcmpEq buffer "volts" = _ := hother .volts
    have htempC : strcmpEq buffer "tempC" = _ := hother .tempC
    have hamps : strcmpEq buffer "amps" = _ := hother .amps
    rw [decodeBatteryEntry, hother field, hpercent, hvolts, htempC, hamps]
    cases found <;> cases field <;> rfl
  · have hnone (field : Field) : strcmpEq buffer field.name = false :=
      Bool.eq_false_iff.mpr fun h ↦ hfound ⟨field, h⟩
    have hpercent : strcmpEq buffer "percent" = _ := hnone .percent
    have hvolts : strcmpEq buffer "volts" = _ := hnone .volts
    have htempC : strcmpEq buffer "tempC" = _ := hnone .tempC
    have hamps : strcmpEq buffer "amps" = _ := hnone .amps
    rw [decodeBatteryEntry, hnone field, hpercent, hvolts, htempC, hamps]
    rfl

end Fields

/-! ## Entries -/

/-- An entry of a well-formed map, with a key of a definite length and without NUL. -/
structure Entry where
  width : Width
  key : List UInt8
  value : List UInt8
  key_lt : key.length < width.bound
  noNul : 0 ∉ key
  wellFormed : WellFormed value

/-- The key and the value of an entry. -/
def Entry.items (entry : Entry) : List (List UInt8) :=
  [string 3 entry.width entry.key, entry.value]

/-- The items of a map with these entries. -/
def itemsOf (entries : List Entry) : List (List UInt8) := entries.flatMap Entry.items

theorem wellFormed_of_mem_itemsOf {entries : List Entry} {item : List UInt8}
    (h : item ∈ itemsOf entries) : WellFormed item := by
  obtain ⟨entry, -, hitem⟩ := List.mem_flatMap.mp h
  rcases List.mem_pair.mp hitem with rfl | rfl
  · exact .string (.inr rfl) entry.key_lt
  · exact entry.wellFormed

section Entries

variable {Double : Type} {cbor : Tinycbor Double} (reader : Reader cbor)

/-- The items that are found for the fields, after one more entry. -/
def store (stored : Field → Option (List UInt8)) (entry : Entry) (field : Field) :
    Option (List UInt8) :=
  if entry.key = ascii field.name then some entry.value else stored field

/-- The fields of a status are the values of these items, and zero where there is none. -/
def BatteryStatus.Holds [Zero Double] (ofBits : UInt64 → Double) (status : BatteryStatus Double)
    (stored : Field → Option (List UInt8)) : Prop :=
  ∀ field, match stored field with
    | some item => Denotes ofBits field item (status.get field)
    | none => status.get field = field.zero

/-- An entry with a known key holds a value of its type. -/
def Entry.Typed (ofBits : UInt64 → Double) (entry : Entry) : Prop :=
  ∀ field : Field, entry.key = ascii field.name →
    ∃ reading, Denotes ofBits field entry.value reading

theorem determined_store :
    LastWriter.Determined store (fun stored field ↦ stored field)
      (fun entry field item ↦ entry.key = ascii field.name ∧ entry.value = item)
      (fun entry field _ ↦ entry.key ≠ ascii field.name) := by
  intro stored entry field item
  simp only [store]
  by_cases hkey : entry.key = ascii field.name
  · simp [hkey]
  · simp [hkey]

/-- Where nothing is stored, no entry has the key of the field. -/
theorem forall_ne_of_foldl_store {entries : List Entry} {field : Field}
    (h : entries.foldl store (fun _ ↦ none) field = none) :
    ∀ entry ∈ entries, entry.key ≠ ascii field.name := by
  induction entries using List.reverseRecOn with
  | nil => exact fun _ hmem ↦ absurd hmem List.not_mem_nil
  | append_singleton entries entry ih =>
      rw [List.foldl_append, List.foldl_cons, List.foldl_nil, store] at h
      split at h
      · cases h
      · next hkey =>
          intro entry' hmem
          rcases List.mem_append.mp hmem with hmem | hmem
          · exact ih h entry' hmem
          · rwa [List.mem_singleton.mp hmem]

/-- One turn, for a key that fits into the buffer. -/
theorem holds_decodeBatteryEntry [Zero Double] {entry : Entry}
    (htyped : entry.Typed reader.ofBits) (hfits : entry.key.length ≤ 32) {buffer : List UInt8}
    (hbuffer : buffer.length = 32) {mapIt : cbor.Value} {items : List (List UInt8)}
    (hat : reader.At mapIt (entry.value :: items)) {status : BatteryStatus Double}
    {stored : Field → Option (List UInt8)} (hstatus : status.Holds reader.ofBits stored) :
    (decodeBatteryEntry cbor status (copied entry.key buffer) mapIt).Holds reader.ofBits
      (store stored entry) := by
  intro field
  have hfound := strcmpEq_copied entry.noNul hbuffer hfits field
  rw [get_decodeBatteryEntry, store]
  by_cases hkey : entry.key = ascii field.name
  · obtain ⟨reading, hdenotes⟩ := htyped field hkey
    rw [if_pos (hfound.mpr hkey), if_pos hkey, hdenotes.read_eq reader hat]
    exact hdenotes
  · rw [if_neg (mt hfound.mp hkey), if_neg hkey]
    exact hstatus field

/-- **The loop** on a map whose keys fit into the buffer ends after its entries, and holds
what they have stored. -/
theorem decodeBatteryEntries_at [Zero Double] {entries : List Entry}
    (htyped : ∀ entry ∈ entries, entry.Typed reader.ofBits)
    (hfits : ∀ entry ∈ entries, entry.key.length ≤ 32) {mapIt : cbor.Value}
    (hat : reader.At mapIt (itemsOf entries)) {key : ℕ → List UInt8}
    (hkey : ∀ turn, (key turn).length = 32) {status : BatteryStatus Double}
    {stored : Field → Option (List UInt8)} (hstatus : status.Holds reader.ofBits stored) :
    ∃ status', decodeBatteryEntries cbor entries.length key status mapIt = .returned status' ∧
      status'.Holds reader.ofBits (entries.foldl store stored) := by
  induction entries generalizing mapIt key status stored with
  | nil =>
      have hend := reader.atEnd hat
      exact ⟨status, by rw [List.length_nil, decodeBatteryEntries, hend]; rfl, hstatus⟩
  | cons entry entries ih =>
      obtain ⟨htyped, htypeds⟩ := List.forall_mem_cons.mp htyped
      obtain ⟨hfit, hfits⟩ := List.forall_mem_cons.mp hfits
      have hend := reader.atEnd hat
      have htext := reader.isTextString entry.key_lt hat
      have hcopy := reader.copyTextString entry.key_lt hat (key 0)
      have hvalue := reader.afterTextString entry.key_lt hat
      obtain ⟨status', hrun, hholds⟩ := ih htypeds hfits (reader.advance hvalue)
        (fun turn ↦ hkey (turn + 1))
        (holds_decodeBatteryEntry reader htyped hfit (hkey 0) hvalue hstatus)
      refine ⟨status', ?_, hholds⟩
      rw [List.length_cons, decodeBatteryEntries, hend, htext]
      rw [← hcopy] at hrun
      exact hrun

/-- More turns change nothing. -/
theorem decodeBatteryEntries_of_le {turns turns' : ℕ} (hle : turns ≤ turns')
    {key : ℕ → List UInt8} {status final : BatteryStatus Double} {mapIt : cbor.Value}
    (h : decodeBatteryEntries cbor turns key status mapIt = .returned final) :
    decodeBatteryEntries cbor turns' key status mapIt = .returned final := by
  induction turns generalizing turns' key status mapIt with
  | zero =>
      unfold decodeBatteryEntries at h
      split at h
      · next hend => cases turns' <;> rw [decodeBatteryEntries, if_pos hend, h]
      · cases h
  | succ turns ih =>
      cases turns' with
      | zero => cases hle
      | succ turns' =>
          rw [decodeBatteryEntries] at h ⊢
          split at h
          · next hend => rw [if_pos hend, h]
          · next hend =>
              split at h
              · cases h
              · next htext =>
                  rw [if_neg hend, if_neg htext]
                  exact ih (Nat.le_of_succ_le_succ hle) h

/-! ## Exactness -/

/-- The value that is due for a field: that of the last entry with its key, and zero if
there is none. -/
def Due [Zero Double] (ofBits : UInt64 → Double) (entries : List Entry) (field : Field)
    (reading : ℤ ⊕ Double) : Prop :=
  (∃ before entry after, entries = before ++ entry :: after ∧ entry.key = ascii field.name ∧
    (∀ later ∈ after, later.key ≠ ascii field.name) ∧
      Denotes ofBits field entry.value reading) ∨
  (∀ entry ∈ entries, entry.key ≠ ascii field.name) ∧ reading = field.zero

/-- Whatever the buffers hold when they are declared, the decoder returns what is due. -/
def DecodesExactly [Zero Double] (cbor : Tinycbor Double) (ofBits : UInt64 → Double)
    (entries : List Entry) (payload : List UInt8) : Prop :=
  ∀ key : ℕ → List UInt8, (∀ turn, (key turn).length = 32) →
    ∃ turns status, decodeBatteryPayload cbor turns key payload = .returned status ∧
      ∀ field, Due ofBits entries field (status.get field)

/-- From this position in a map the decoder comes to call the accessor for `field` at
`value`. -/
inductive CallsFrom (cbor : Tinycbor Double) (field : Field) (value : cbor.Value) :
    (ℕ → List UInt8) → cbor.Value → Prop
  | here {key : ℕ → List UInt8} {mapIt : cbor.Value} (hend : cbor.atEnd mapIt = false)
      (htext : cbor.isTextString mapIt = true)
      (hfound : strcmpEq (cbor.copyTextString mapIt (key 0)) field.name = true)
      (hvalue : cbor.afterTextString mapIt = value) : CallsFrom cbor field value key mapIt
  | later {key : ℕ → List UInt8} {mapIt : cbor.Value} (hend : cbor.atEnd mapIt = false)
      (htext : cbor.isTextString mapIt = true)
      (h : CallsFrom cbor field value (fun turn ↦ key (turn + 1)) (cbor.nextEntry mapIt)) :
      CallsFrom cbor field value key mapIt

/-- With these buffers the decoder calls the accessor for `field` at `value`. -/
def CallsAccessor (cbor : Tinycbor Double) (key : ℕ → List UInt8) (payload : List UInt8)
    (field : Field) (value : cbor.Value) : Prop :=
  ∃ it, cbor.parserInit payload = some it ∧ cbor.isMap it = true ∧
    CallsFrom cbor field value key (cbor.enterContainer it)

/-- With some buffers the decoder calls, at the value of the entry, an accessor for values of
another type. -/
def Misread (payload : List UInt8) (entry : Entry) : Prop :=
  ∃ (key : ℕ → List UInt8) (field : Field) (value : cbor.Value) (items : List (List UInt8)),
    (∀ turn, (key turn).length = 32) ∧ CallsAccessor cbor key payload field value ∧
      reader.At value (entry.value :: items) ∧ ¬field.Accepts entry.value

/-- What is held after the last entry is what is due. -/
theorem BatteryStatus.Holds.due [Zero Double] {ofBits : UInt64 → Double} {entries : List Entry}
    {status : BatteryStatus Double}
    (h : status.Holds ofBits (entries.foldl store (fun _ ↦ none))) (field : Field) :
    Due ofBits entries field (status.get field) := by
  have hfield := h field
  cases hfinal : entries.foldl store (fun _ ↦ none) field with
  | none =>
      rw [hfinal] at hfield
      exact .inr ⟨forall_ne_of_foldl_store hfinal, hfield⟩
  | some item =>
      obtain ⟨before, entry, after, rfl, ⟨hname, rfl⟩, hlater⟩ :=
        (determined_store.foldl_eq_some_iff fun _ ↦ rfl).mp hfinal
      rw [hfinal] at hfield
      exact .inl ⟨before, entry, after, rfl, hname, hlater, hfield⟩

/-- A buffer that holds the key of a field. -/
def namedBuffer (field : Field) : List UInt8 :=
  ascii field.name ++ List.replicate (32 - (ascii field.name).length) 0

theorem length_namedBuffer (field : Field) : (namedBuffer field).length = 32 := by
  cases field <;> decide

theorem strcmpEq_namedBuffer (field : Field) : strcmpEq (namedBuffer field) field.name = true := by
  cases field <;> decide

/-- A key that does not fit is taken for the one that the buffer holds. -/
theorem callsFrom_of_long (field : Field) {before after : List Entry} {entry : Entry}
    (hlong : 32 < entry.key.length) {mapIt : cbor.Value}
    (hat : reader.At mapIt (itemsOf (before ++ entry :: after))) :
    ∃ value, CallsFrom cbor field value (fun _ ↦ namedBuffer field) mapIt ∧
      reader.At value (entry.value :: itemsOf after) := by
  induction before generalizing mapIt with
  | nil =>
      have hcopy := reader.copyTextString entry.key_lt hat (namedBuffer field)
      rw [copied_of_lt (by rw [length_namedBuffer]; exact hlong)] at hcopy
      refine ⟨_, .here (reader.atEnd hat) (reader.isTextString entry.key_lt hat) ?_ rfl,
        reader.afterTextString entry.key_lt hat⟩
      rw [hcopy]
      exact strcmpEq_namedBuffer field
  | cons first before ih =>
      have hnext := reader.advance (reader.afterTextString first.key_lt hat)
      obtain ⟨value, hcalls, hvalue⟩ := ih hnext
      exact ⟨value, .later (reader.atEnd hat) (reader.isTextString first.key_lt hat) hcalls, hvalue⟩

end Entries

/-! ## Two maps -/

/-- An entry with a small number. -/
def numberEntry (key : List UInt8) (n : ℕ) (hkey : key.length < 256) (hnoNul : 0 ∉ key)
    (hn : n < 256) : Entry :=
  ⟨.one, key, Cbor.head 0 .one n, hkey, hnoNul, .int (Nat.zero_le 1) hn⟩

theorem denotes_number {ofBits : UInt64 → UInt64} {n : ℕ} (hn : n < 256) :
    Denotes ofBits .percent (Cbor.head 0 .one n) (.inl n) :=
  .int (.nonneg hn) ⟨by omega, by omega⟩

theorem intAt_of_denotes {ofBits : UInt64 → UInt64} {item : List UInt8} {i : ℤ}
    (h : Denotes ofBits .percent item (.inl i)) : Position.intAt item = i := by
  cases h with
  | int h hrange => exact referenceCbor.intAt_int h hrange

/-- The percentage, then a key of 32 bytes, then the percentage again. -/
def fittingEntries : List Entry :=
  [numberEntry (ascii "percent") 50 (by decide) (by decide) (by decide),
    numberEntry (List.replicate 32 97) 7 (by decide) (by decide) (by decide),
    numberEntry (ascii "percent") 51 (by decide) (by decide) (by decide)]

/-- The percentage, then a key of 33 bytes. -/
def overlongEntries : List Entry :=
  [numberEntry (ascii "percent") 50 (by decide) (by decide) (by decide),
    numberEntry (List.replicate 33 97) 7 (by decide) (by decide) (by decide)]

theorem typed_numberEntry {ofBits : UInt64 → UInt64} {key : List UInt8} {n : ℕ}
    {hkey : key.length < 256} {hnoNul : 0 ∉ key} {hn : n < 256}
    (h : ∀ field : Field, key = ascii field.name → field = .percent) :
    (numberEntry key n hkey hnoNul hn).Typed ofBits := by
  intro field hname
  obtain rfl := h field hname
  exact ⟨.inl n, denotes_number hn⟩

theorem field_of_percent (field : Field) (h : ascii "percent" = ascii field.name) :
    field = .percent := by
  revert h
  cases field <;> decide

theorem field_of_replicate {n : ℕ} (hn : 32 ≤ n) (field : Field)
    (h : List.replicate n 97 = ascii field.name) : field = .percent := by
  have hlength := field.length_lt
  rw [← h, List.length_replicate] at hlength
  exact absurd hlength (Nat.not_lt.mpr hn)

end FortAgent.Joystick
