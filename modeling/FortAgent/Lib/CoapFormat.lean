import Mathlib.Data.Nat.Digits.Lemmas

/-!
# The CoAP message format

A reference decoder for the message format of CoAP: a fixed header, a token, a
list of options, and a payload behind a marker.

Options are sorted by number, and an option says by how much its number exceeds
the one before.  This difference and the length of the value are each a nibble of
the option's first byte, with one or two more bytes for larger quantities.  Every
quantity has exactly one such form, and so a list of options has exactly one
encoding: `decodeOptions_eq_some_iff` says that the decoder accepts the encoding
of an ascending list and nothing else.
-/

namespace CoapFormat

/-! ## Quantities -/

/-- The nibble that announces a quantity. -/
def nibble (n : ℕ) : ℕ := if n < 13 then n else if n < 269 then 13 else 14

/-- The bytes that the nibble does not say. -/
def extension (n : ℕ) : List UInt8 :=
  if n < 13 then []
  else if n < 269 then [UInt8.ofNat (n - 13)]
  else [UInt8.ofNat ((n - 269) / 256), UInt8.ofNat ((n - 269) % 256)]

/-- The first quantity that two bytes of extension cannot say. -/
def quantityBound : ℕ := 65536 + 269

/-- Read a quantity whose nibble is `nib`.  The nibble 15 is reserved. -/
def readQuantity (nib : ℕ) (w : List UInt8) : Option (ℕ × List UInt8) :=
  if nib < 13 then some (nib, w)
  else if nib = 13 then
    match w with
    | byte :: w => some (byte.toNat + 13, w)
    | _ => none
  else if nib = 14 then
    match w with
    | high :: low :: w => some (256 * high.toNat + low.toNat + 269, w)
    | _ => none
  else none

theorem nibble_lt (n : ℕ) : nibble n < 15 := by
  unfold nibble
  split
  · omega
  · split <;> omega

theorem toNat_ofNat {n : ℕ} (h : n < 256) : (UInt8.ofNat n).toNat = n := by
  rw [UInt8.toNat_ofNat', Nat.mod_eq_of_lt h]

/-- A quantity is read back, whatever follows it. -/
theorem readQuantity_extension {n : ℕ} (h : n < quantityBound) (w : List UInt8) :
    readQuantity (nibble n) (extension n ++ w) = some (n, w) := by
  unfold quantityBound at h
  unfold readQuantity nibble extension
  by_cases hsmall : n < 13
  · simp only [hsmall, if_true, List.nil_append]
  · by_cases hmedium : n < 269
    · have hbyte : (UInt8.ofNat (n - 13)).toNat + 13 = n := by
        rw [toNat_ofNat (by omega)]
        omega
      simp only [hsmall, hmedium, Nat.lt_irrefl, if_true, if_false, List.cons_append,
        List.nil_append, hbyte]
    · have hbytes : 256 * (UInt8.ofNat ((n - 269) / 256)).toNat +
          (UInt8.ofNat ((n - 269) % 256)).toNat + 269 = n := by
        rw [toNat_ofNat (by omega), toNat_ofNat (by omega)]
        omega
      simp only [hsmall, hmedium, Nat.reduceLT, Nat.reduceEqDiff, if_true, if_false,
        List.cons_append, List.nil_append, hbytes]

/-- **Quantities are canonical**: what is read as a quantity is its one form. -/
theorem readQuantity_eq_some_iff {nib n : ℕ} {w rest : List UInt8} :
    readQuantity nib w = some (n, rest) ↔
      n < quantityBound ∧ nib = nibble n ∧ w = extension n ++ rest := by
  constructor
  · intro h
    unfold readQuantity at h
    split at h
    · next hsmall =>
        cases h
        unfold quantityBound
        exact ⟨by omega, (if_pos hsmall).symm, by rw [extension, if_pos hsmall, List.nil_append]⟩
    split at h
    · next hthirteen =>
        split at h
        · next byte _ =>
            cases h
            have hbyte : byte.toNat < 256 := byte.toNat_lt
            have hn : ¬byte.toNat + 13 < 13 := by omega
            have hn' : byte.toNat + 13 < 269 := by omega
            unfold quantityBound
            refine ⟨by omega, ?_, ?_⟩
            · rw [nibble, if_neg hn, if_pos hn', hthirteen]
            · rw [extension, if_neg hn, if_pos hn', Nat.add_sub_cancel, UInt8.ofNat_toNat]
              rfl
        · cases h
    split at h
    · next hfourteen =>
        split at h
        · next high low _ =>
            cases h
            have hhigh : high.toNat < 256 := high.toNat_lt
            have hlow : low.toNat < 256 := low.toNat_lt
            have hn : ¬256 * high.toNat + low.toNat + 269 < 13 := by omega
            have hn' : ¬256 * high.toNat + low.toNat + 269 < 269 := by omega
            have hdiv : (256 * high.toNat + low.toNat) / 256 = high.toNat := by omega
            have hmod : (256 * high.toNat + low.toNat) % 256 = low.toNat := by omega
            unfold quantityBound
            refine ⟨by omega, ?_, ?_⟩
            · rw [nibble, if_neg hn, if_neg hn', hfourteen]
            · rw [extension, if_neg hn, if_neg hn', Nat.add_sub_cancel, hdiv, hmod,
                UInt8.ofNat_toNat, UInt8.ofNat_toNat]
              rfl
        · cases h
    · cases h
  · rintro ⟨hbound, rfl, rfl⟩
    exact readQuantity_extension hbound rest

/-! ## Options -/

/-- An option. -/
structure Opt where
  number : ℕ
  value : List UInt8
deriving DecidableEq, Repr

/-- The first byte of an option. -/
def optionHead (delta length : ℕ) : UInt8 := UInt8.ofNat (16 * nibble delta + nibble length)

/-- An option whose number exceeds the one before by `delta`. -/
def encodeOption (delta : ℕ) (value : List UInt8) : List UInt8 :=
  optionHead delta value.length :: (extension delta ++ extension value.length ++ value)

/-- Options after the number `last`. -/
def encodeOptions : ℕ → List Opt → List UInt8
  | _, [] => []
  | last, o :: os => encodeOption (o.number - last) o.value ++ encodeOptions o.number os

/-- The numbers ascend from `last` on, and every quantity can be said. -/
def Ascending : ℕ → List Opt → Prop
  | _, [] => True
  | last, o :: os =>
    last ≤ o.number ∧ o.number - last < quantityBound ∧ o.value.length < quantityBound ∧
      Ascending o.number os

/-- The number reached after some options. -/
def lastNumber (last : ℕ) (os : List Opt) : ℕ := os.foldl (fun _ o ↦ o.number) last

theorem encodeOptions_append (last : ℕ) (os os' : List Opt) :
    encodeOptions last (os ++ os') =
      encodeOptions last os ++ encodeOptions (lastNumber last os) os' := by
  induction os generalizing last with
  | nil => rfl
  | cons o os ih =>
      rw [List.cons_append, encodeOptions, encodeOptions, ih, List.append_assoc]
      rfl

theorem lastNumber_append (last : ℕ) (os os' : List Opt) :
    lastNumber last (os ++ os') = lastNumber (lastNumber last os) os' := List.foldl_append

theorem ascending_append {last : ℕ} {os os' : List Opt} (h : Ascending last os)
    (h' : Ascending (lastNumber last os) os') : Ascending last (os ++ os') := by
  induction os generalizing last with
  | nil => exact h'
  | cons o os ih =>
      obtain ⟨hle, hdelta, hlength, hrest⟩ := h
      exact ⟨hle, hdelta, hlength, ih hrest h'⟩

/-- The marker in front of a payload. -/
def payloadMarker : UInt8 := 0xFF

/-- What follows the options.  There is no empty payload. -/
def encodePayload : Option (List UInt8) → List UInt8
  | none => []
  | some payload => payloadMarker :: payload

/-- Read an option after the number `last`, whose first byte is `head`. -/
def readOption (last : ℕ) (head : UInt8) (w : List UInt8) : Option (Opt × List UInt8) := do
  let delta ← readQuantity (head.toNat / 16) w
  let length ← readQuantity (head.toNat % 16) delta.2
  if length.1 ≤ length.2.length then
    some (⟨last + delta.1, length.2.take length.1⟩, length.2.drop length.1)
  else none

theorem optionHead_toNat (delta length : ℕ) :
    (optionHead delta length).toNat = 16 * nibble delta + nibble length := by
  have hdelta := nibble_lt delta
  have hlength := nibble_lt length
  exact toNat_ofNat (by omega)

/-- The first byte of an option is not the marker. -/
theorem optionHead_ne_payloadMarker (delta length : ℕ) :
    optionHead delta length ≠ payloadMarker := by
  intro h
  have hdelta := nibble_lt delta
  have hlength := nibble_lt length
  have htoNat : 16 * nibble delta + nibble length = 255 := by
    rw [← optionHead_toNat, h]
    rfl
  omega

/-- **Options are canonical**: what is read as an option is its one encoding. -/
theorem readOption_eq_some_iff {last : ℕ} {head : UInt8} {w rest : List UInt8} {o : Opt} :
    readOption last head w = some (o, rest) ↔
      last ≤ o.number ∧ o.number - last < quantityBound ∧ o.value.length < quantityBound ∧
        head :: w = encodeOption (o.number - last) o.value ++ rest := by
  constructor
  · intro h
    obtain ⟨⟨delta, w₁⟩, hdelta, hrest⟩ := Option.bind_eq_some_iff.mp h
    obtain ⟨⟨length, w₂⟩, hlength, hvalue⟩ := Option.bind_eq_some_iff.mp hrest
    obtain ⟨hdeltaBound, hhigh, rfl⟩ := readQuantity_eq_some_iff.mp hdelta
    obtain ⟨hlengthBound, hlow, rfl⟩ := readQuantity_eq_some_iff.mp hlength
    split at hvalue
    · next hle =>
        cases hvalue
        have htake : (w₂.take length).length = length := List.length_take_of_le hle
        have hhead : head = optionHead delta length := by
          apply UInt8.toNat_inj.mp
          rw [optionHead_toNat, ← hhigh, ← hlow]
          omega
        refine ⟨Nat.le_add_right .., ?_, ?_, ?_⟩
        · rwa [Nat.add_sub_cancel_left]
        · rwa [htake]
        · rw [Nat.add_sub_cancel_left, encodeOption, htake, hhead]
          simp only [List.cons_append, List.append_assoc, List.take_append_drop]
    · cases hvalue
  · rintro ⟨hle, hdeltaBound, hlengthBound, hbytes⟩
    obtain ⟨number, value⟩ := o
    simp only [encodeOption, List.cons_append, List.cons.injEq, List.append_assoc] at hbytes
    obtain ⟨rfl, rfl⟩ := hbytes
    have hdelta := nibble_lt (number - last)
    have hlength := nibble_lt value.length
    have hhigh : (optionHead (number - last) value.length).toNat / 16 = nibble (number - last) := by
      rw [optionHead_toNat]
      omega
    have hlow : (optionHead (number - last) value.length).toNat % 16 = nibble value.length := by
      rw [optionHead_toNat]
      omega
    have hnumber : last + (number - last) = number := Nat.add_sub_cancel' hle
    simp only [readOption, hhigh, hlow, readQuantity_extension hdeltaBound,
      readQuantity_extension hlengthBound, Option.bind_eq_bind, Option.bind_some, hnumber,
      List.length_append, Nat.le_add_right, if_true, List.take_left, List.drop_left]

/-- An option takes up at least its first byte. -/
theorem length_of_readOption {last : ℕ} {head : UInt8} {w rest : List UInt8} {o : Opt}
    (h : readOption last head w = some (o, rest)) : rest.length < (head :: w).length := by
  obtain ⟨-, -, -, hbytes⟩ := readOption_eq_some_iff.mp h
  rw [hbytes, encodeOption, List.length_append, List.length_cons]
  omega

/-- The options after the number `last`, and the payload behind them.  A marker
with nothing behind it is a format error. -/
def decodeOptions (last : ℕ) (w : List UInt8) : Option (List Opt × Option (List UInt8)) :=
  match w with
  | [] => some ([], none)
  | head :: w =>
    if head = payloadMarker then if w = [] then none else some ([], some w)
    else
      match _h : readOption last head w with
      | none => none
      | some (o, rest) => (decodeOptions o.number rest).map fun r ↦ (o :: r.1, r.2)
termination_by w.length
decreasing_by exact length_of_readOption _h

theorem decodeOptions_option {last : ℕ} {head : UInt8} {w rest : List UInt8} {o : Opt}
    (hhead : head ≠ payloadMarker) (h : readOption last head w = some (o, rest)) :
    decodeOptions last (head :: w) =
      (decodeOptions o.number rest).map fun r ↦ (o :: r.1, r.2) := by
  rw [decodeOptions, if_neg hhead]
  split
  · next hnone =>
      rw [h] at hnone
      cases hnone
  · next hsome =>
      rw [h] at hsome
      cases hsome
      rfl

/-- **The decoder of option lists.**  It accepts the encoding of an ascending list
and of a payload that is not empty, and nothing else. -/
theorem decodeOptions_eq_some_iff {last : ℕ} {w : List UInt8} {os : List Opt}
    {payload : Option (List UInt8)} :
    decodeOptions last w = some (os, payload) ↔
      w = encodeOptions last os ++ encodePayload payload ∧ Ascending last os ∧
        payload ≠ some [] := by
  constructor
  · intro h
    fun_induction decodeOptions last w generalizing os payload with
    | case1 last =>
        cases h
        exact ⟨rfl, trivial, nofun⟩
    | case2 => cases h
    | case3 last w hne =>
        cases h
        exact ⟨rfl, trivial, fun heq ↦ hne (Option.some.inj heq)⟩
    | case4 => cases h
    | case5 last head w hhead o rest hread ih =>
        obtain ⟨⟨os', payload'⟩, hrest, hr⟩ := Option.map_eq_some_iff.mp h
        cases hr
        obtain ⟨rfl, hascending, hpayload⟩ := ih hrest
        obtain ⟨hle, hdelta, hlength, hbytes⟩ := readOption_eq_some_iff.mp hread
        refine ⟨?_, ⟨hle, hdelta, hlength, hascending⟩, hpayload⟩
        rw [hbytes, encodeOptions, List.append_assoc]
  · rintro ⟨rfl, hascending, hpayload⟩
    induction os generalizing last with
    | nil =>
        cases payload with
        | none => rw [encodeOptions, encodePayload, List.append_nil, decodeOptions]
        | some payload =>
            have hne : payload ≠ [] := fun hnil ↦ hpayload (by rw [hnil])
            rw [encodeOptions, encodePayload, List.nil_append, decodeOptions, if_pos rfl,
              if_neg hne]
    | cons o os ih =>
        obtain ⟨hle, hdelta, hlength, hrest⟩ := hascending
        have hread : readOption last (optionHead (o.number - last) o.value.length)
            (extension (o.number - last) ++ extension o.value.length ++ o.value ++
              (encodeOptions o.number os ++ encodePayload payload)) =
            some (o, encodeOptions o.number os ++ encodePayload payload) :=
          readOption_eq_some_iff.mpr ⟨hle, hdelta, hlength, rfl⟩
        rw [encodeOptions, List.append_assoc, encodeOption, List.cons_append,
          decodeOptions_option (optionHead_ne_payloadMarker _ _) hread, ih hrest]
        rfl

/-! ## Values -/

/-- A number as the value of an option: big-endian, without leading zeros. -/
def uintBytes (n : ℕ) : List UInt8 := (Nat.digits 256 n).reverse.map UInt8.ofNat

/-- The number that the value of an option stands for. -/
def uintValue (value : List UInt8) : ℕ := Nat.ofDigits 256 (value.reverse.map UInt8.toNat)

/-- The value of an option tells the number it was written for. -/
theorem uintValue_uintBytes (n : ℕ) : uintValue (uintBytes n) = n := by
  have hdigits : ((Nat.digits 256 n).map UInt8.ofNat).map UInt8.toNat = Nat.digits 256 n := by
    rw [List.map_map]
    refine (List.map_congr_left fun d hd ↦ ?_).trans (List.map_id _)
    exact toNat_ofNat (Nat.digits_lt_base (by decide) hd)
  rw [uintValue, uintBytes, ← List.map_reverse, List.reverse_reverse, hdigits,
    Nat.ofDigits_digits]

theorem length_uintBytes_le {n k : ℕ} (h : n < 256 ^ k) : (uintBytes n).length ≤ k := by
  rw [uintBytes, List.length_map, List.length_reverse]
  exact (Nat.digits_length_le_iff (by decide) n).mpr h

theorem uintBytes_of_lt {n : ℕ} (hpos : 0 < n) (h : n < 256) : uintBytes n = [UInt8.ofNat n] := by
  rw [uintBytes, Nat.digits_of_lt 256 n (Nat.pos_iff_ne_zero.mp hpos) h]
  rfl

theorem uintBytes_concat {n : ℕ} (h : 256 ≤ n) :
    uintBytes n = uintBytes (n / 256) ++ [UInt8.ofNat (n % 256)] := by
  have hdigits : Nat.digits 256 n = n % 256 :: Nat.digits 256 (n / 256) :=
    Nat.digits_def' (by decide) (Nat.lt_of_lt_of_le (by decide) h)
  rw [uintBytes, hdigits, List.reverse_cons, List.map_append]
  rfl

/-! ## Messages -/

/-- The content of a message. -/
structure Packet where
  version : ℕ
  type : ℕ
  code : UInt8
  mid : ℕ
  token : List UInt8
  options : List Opt
  payload : Option (List UInt8)
deriving DecidableEq, Repr

/-- The reference decoder.  The first byte holds the version, the type and the
length of the token, which is at most 8. -/
def decode : List UInt8 → Option Packet
  | header :: code :: high :: low :: w =>
    let version := header.toNat / 64
    let type := header.toNat / 16 % 4
    let tokenLength := header.toNat % 16
    if version = 1 ∧ tokenLength ≤ 8 ∧ tokenLength ≤ w.length then
      (decodeOptions 0 (w.drop tokenLength)).map fun r ↦
        { version := version
          type := type
          code := code
          mid := 256 * high.toNat + low.toNat
          token := w.take tokenLength
          options := r.1
          payload := r.2 }
    else none
  | _ => none

end CoapFormat
