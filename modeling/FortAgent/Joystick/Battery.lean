import FortAgent.Basic
import Mathlib.Algebra.Notation.Defs

/-!
# Battery telemetry

`decode_battery_payload` reads a CBOR map with an iterator of a library,
tinycbor, which is outside the repository: `Tinycbor` is what the function calls
of it.  The function looks at no error but that of the first call, and so the loop
over the entries may go on for ever; it is run for a number of turns, and
`Outcome.running` is what it has come to if that was not enough.

Every turn declares a new buffer for the key, which is not initialised.  What is in
it is a parameter, turn by turn.
-/

namespace FortAgent.Joystick

/-! ## The library -/

/-- The functions of tinycbor that the decoder calls, on values of its iterator.
The two results of `cbor_value_copy_text_string` are apart: the buffer, given its
content before the call, and the item the iterator has moved to.

A call of `cbor_value_get_int` or `cbor_value_get_double` for an item of another type,
which the library leaves undefined, is taken to yield some value and to do nothing else. -/
structure Tinycbor (Double : Type) where
  Value : Type
  /-- `cbor_parser_init`, without its error. -/
  parserInit : List UInt8 → Option Value
  isMap : Value → Bool
  enterContainer : Value → Value
  atEnd : Value → Bool
  isTextString : Value → Bool
  copyTextString : Value → List UInt8 → List UInt8
  afterTextString : Value → Value
  getInt : Value → Int
  getDouble : Value → Double
  advance : Value → Value

/-- Human readable battery metrics. -/
structure BatteryStatus (Double : Type) where
  percent : Int
  volts : Double
  tempC : Double
  amps : Double
deriving DecidableEq, Repr

/-- The characters of a literal. -/
def ascii (text : String) : List UInt8 := text.toList.map fun c ↦ UInt8.ofNat c.toNat

/-- `strcmp(key, text) == 0`, for a text without NUL: the comparison reads no further
than the NUL behind it. -/
def strcmpEq (key : List UInt8) (text : String) : Bool :=
  key.take (text.length + 1) == ascii text ++ [0]

section Decoder

variable {Double : Type} (cbor : Tinycbor Double)

/-- The chain of comparisons in the loop: the value of a known key is stored. -/
def decodeBatteryEntry (status : BatteryStatus Double) (key : List UInt8)
    (mapIt : cbor.Value) : BatteryStatus Double :=
  if strcmpEq key "percent" then { status with percent := cbor.getInt mapIt }
  else if strcmpEq key "volts" then { status with volts := cbor.getDouble mapIt }
  else if strcmpEq key "tempC" then { status with tempC := cbor.getDouble mapIt }
  else if strcmpEq key "amps" then { status with amps := cbor.getDouble mapIt }
  else status

/-- The loop, for a number of turns; `key` is what the buffers of these turns hold
when they are declared. -/
def decodeBatteryEntries :
    ℕ → (ℕ → List UInt8) → BatteryStatus Double → cbor.Value → Outcome (BatteryStatus Double)
  | 0, _, status, mapIt => if cbor.atEnd mapIt then .returned status else .running
  | turns + 1, key, status, mapIt =>
    if cbor.atEnd mapIt then .returned status
    else if !cbor.isTextString mapIt then .threw "Expected text key in BatteryStatus map"
    else
      let next := cbor.afterTextString mapIt
      let status := decodeBatteryEntry cbor status (cbor.copyTextString mapIt (key 0)) next
      decodeBatteryEntries turns (fun turn ↦ key (turn + 1)) status (cbor.advance next)

def decodeBatteryPayload [Zero Double] (turns : ℕ) (key : ℕ → List UInt8)
    (payload : List UInt8) : Outcome (BatteryStatus Double) :=
  match cbor.parserInit payload with
  | none => .threw "CBOR parse error"
  | some it =>
    if !cbor.isMap it then .threw "Expected CBOR map for BatteryStatus"
    else decodeBatteryEntries cbor turns key ⟨0, 0, 0, 0⟩ (cbor.enterContainer it)

/-! ## When the decoder throws -/

/-- The entry after the one whose key the iterator is on. -/
def Tinycbor.nextEntry (mapIt : cbor.Value) : cbor.Value :=
  cbor.advance (cbor.afterTextString mapIt)

/-- From this position in a map the decoder comes to a key that is not a text. -/
inductive BadKeyFrom : cbor.Value → Prop
  | here {mapIt : cbor.Value} (hend : cbor.atEnd mapIt = false)
      (htext : cbor.isTextString mapIt = false) : BadKeyFrom mapIt
  | later {mapIt : cbor.Value} (hend : cbor.atEnd mapIt = false)
      (htext : cbor.isTextString mapIt = true) (h : BadKeyFrom (cbor.nextEntry mapIt)) :
      BadKeyFrom mapIt

/-- The payload is not one the decoder takes: it does not parse, it is not a map, or
it is a map with a key that is not a text. -/
def BadBatteryPayload (payload : List UInt8) : Prop :=
  match cbor.parserInit payload with
  | none => True
  | some it => cbor.isMap it = false ∨ BadKeyFrom cbor (cbor.enterContainer it)

theorem badKeyFrom_of_failed {turns : ℕ} {key : ℕ → List UInt8} {status : BatteryStatus Double}
    {mapIt : cbor.Value} (h : (decodeBatteryEntries cbor turns key status mapIt).Failed) :
    BadKeyFrom cbor mapIt := by
  induction turns generalizing key status mapIt with
  | zero =>
      unfold decodeBatteryEntries at h
      split at h <;> cases h
  | succ turns ih =>
      unfold decodeBatteryEntries at h
      split at h
      · cases h
      · next hend =>
          split at h
          · next htext =>
              exact .here (Bool.eq_false_iff.mpr hend) (Bool.not_eq_true' _ ▸ htext)
          · next htext =>
              exact .later (Bool.eq_false_iff.mpr hend) (by simpa using htext) (ih h)

theorem failed_of_badKeyFrom {mapIt : cbor.Value} (h : BadKeyFrom cbor mapIt)
    (key : ℕ → List UInt8) (status : BatteryStatus Double) :
    ∃ turns, (decodeBatteryEntries cbor turns key status mapIt).Failed := by
  induction h generalizing key status with
  | here hend htext =>
      refine ⟨1, ?_⟩
      rw [decodeBatteryEntries, hend, htext]
      trivial
  | later hend htext _ ih =>
      obtain ⟨turns, hturns⟩ := ih (fun turn ↦ key (turn + 1)) _
      refine ⟨turns + 1, ?_⟩
      rw [decodeBatteryEntries, hend, htext]
      exact hturns

/-- **When the decoder throws**: within some number of turns it does so exactly if
the payload is bad, whatever the buffers hold. -/
theorem decodeBatteryPayload_failed_iff [Zero Double] (key : ℕ → List UInt8)
    (payload : List UInt8) :
    (∃ turns, (decodeBatteryPayload cbor turns key payload).Failed) ↔
      BadBatteryPayload cbor payload := by
  unfold decodeBatteryPayload BadBatteryPayload
  cases cbor.parserInit payload with
  | none => exact iff_of_true ⟨0, trivial⟩ trivial
  | some it =>
      cases hmap : cbor.isMap it with
      | false =>
          refine iff_of_true ⟨0, ?_⟩ (.inl hmap)
          simp only [hmap, Bool.not_false, if_true]
          trivial
      | true =>
          simp only [Bool.not_true, Bool.false_eq_true, if_false, hmap, Bool.true_eq_false,
            false_or]
          constructor
          · rintro ⟨turns, h⟩
            exact badKeyFrom_of_failed cbor h
          · intro h
            exact failed_of_badKeyFrom cbor h key _

end Decoder

end FortAgent.Joystick
