import FortAgent.Joystick.Tinycbor

/-!
# The end of the battery decoder

The loop of `decode_battery_payload` looks at no error of the library.  So it stays for ever
at a text that neither of the two functions which move the iterator gets past, and it ends
on every other payload (`decodeBatteryPayload_ends_iff`).
-/

namespace FortAgent.Joystick

section Ending

variable {Double : Type} (cbor : Tinycbor Double)

/-! ## When the loop ends -/

/-- From this position in a map the decoder comes to a text that neither of the two
functions moves the iterator past. -/
inductive StuckFrom : cbor.Value → Prop
  | here {mapIt : cbor.Value} (hend : cbor.atEnd mapIt = false)
      (htext : cbor.isTextString mapIt = true) (hcopy : cbor.afterTextString mapIt = mapIt)
      (hadvance : cbor.advance mapIt = mapIt) : StuckFrom mapIt
  | later {mapIt : cbor.Value} (hend : cbor.atEnd mapIt = false)
      (htext : cbor.isTextString mapIt = true) (h : StuckFrom (cbor.nextEntry mapIt)) :
      StuckFrom mapIt

/-- The payload is a map in which the decoder comes to such a text. -/
def StuckPayload (payload : List UInt8) : Prop :=
  ∃ it, cbor.parserInit payload = some it ∧ cbor.isMap it = true ∧
    StuckFrom cbor (cbor.enterContainer it)

/-- A turn at a text. -/
theorem decodeBatteryEntries_succ {mapIt : cbor.Value} (hend : cbor.atEnd mapIt = false)
    (htext : cbor.isTextString mapIt = true) (turns : ℕ) (key : ℕ → List UInt8)
    (status : BatteryStatus Double) :
    decodeBatteryEntries cbor (turns + 1) key status mapIt =
      decodeBatteryEntries cbor turns (fun turn ↦ key (turn + 1))
        (decodeBatteryEntry cbor status (cbor.copyTextString mapIt (key 0))
          (cbor.afterTextString mapIt)) (cbor.nextEntry mapIt) := by
  rw [decodeBatteryEntries, hend, htext]
  rfl

theorem running_of_stuckFrom {mapIt : cbor.Value} (h : StuckFrom cbor mapIt) (turns : ℕ)
    (key : ℕ → List UInt8) (status : BatteryStatus Double) :
    decodeBatteryEntries cbor turns key status mapIt = .running := by
  induction h generalizing turns key status with
  | @here mapIt hend htext hcopy hadvance =>
      induction turns generalizing key status with
      | zero => rw [decodeBatteryEntries, hend]; rfl
      | succ turns ih =>
          have hnext : cbor.nextEntry mapIt = mapIt := by rw [Tinycbor.nextEntry, hcopy, hadvance]
          rw [decodeBatteryEntries_succ cbor hend htext, hnext]
          exact ih _ _
  | later hend htext _ ih =>
      cases turns with
      | zero => rw [decodeBatteryEntries, hend]; rfl
      | succ turns =>
          rw [decodeBatteryEntries_succ cbor hend htext]
          exact ih _ _ _

/-- Past a text that the decoder is not stuck at, there are fewer items. -/
theorem Tinycbor.Moves.nextEntry_lt {cbor : Tinycbor Double} {left : cbor.Value → ℕ}
    (h : cbor.Moves left) {mapIt : cbor.Value}
    (hmoves : ¬(cbor.afterTextString mapIt = mapIt ∧ cbor.advance mapIt = mapIt)) :
    left (cbor.nextEntry mapIt) < left mapIt := by
  rw [Tinycbor.nextEntry]
  rcases h.afterTextString mapIt with hcopy | hcopy
  · rw [hcopy]
    exact (h.advance mapIt).resolve_left fun hadvance ↦ hmoves ⟨hcopy, hadvance⟩
  · rcases h.advance (cbor.afterTextString mapIt) with hadvance | hadvance
    · rwa [hadvance]
    · exact Nat.lt_trans hadvance hcopy

theorem ended_of_not_stuckFrom {left : cbor.Value → ℕ} (hmoves : cbor.Moves left)
    {mapIt : cbor.Value} (h : ¬StuckFrom cbor mapIt) (key : ℕ → List UInt8)
    (status : BatteryStatus Double) :
    ∃ turns, (decodeBatteryEntries cbor turns key status mapIt).Ended := by
  induction hn : left mapIt using Nat.strong_induction_on generalizing mapIt key status with
  | _ n ih =>
      cases hend : cbor.atEnd mapIt with
      | true => exact ⟨0, .inl ⟨status, by rw [decodeBatteryEntries, hend]; rfl⟩⟩
      | false =>
          cases htext : cbor.isTextString mapIt with
          | false => exact ⟨1, .inr ⟨_, by rw [decodeBatteryEntries, hend, htext]; rfl⟩⟩
          | true =>
              have hlt := hmoves.nextEntry_lt fun hstay ↦ h (.here hend htext hstay.1 hstay.2)
              obtain ⟨turns, hturns⟩ := ih _ (hn ▸ hlt)
                (fun hlater ↦ h (.later hend htext hlater)) (fun turn ↦ key (turn + 1))
                (decodeBatteryEntry cbor status (cbor.copyTextString mapIt (key 0))
                  (cbor.afterTextString mapIt)) rfl
              refine ⟨turns + 1, ?_⟩
              rwa [decodeBatteryEntries_succ cbor hend htext]

/-- **When the decoder ends**: it returns or throws, whatever the buffers hold, exactly if
it does not come to a text that it is stuck at. -/
theorem decodeBatteryPayload_ends_iff [Zero Double] {left : cbor.Value → ℕ}
    (hmoves : cbor.Moves left) (key : ℕ → List UInt8) (payload : List UInt8) :
    (∃ turns, (decodeBatteryPayload cbor turns key payload).Ended) ↔
      ¬StuckPayload cbor payload := by
  unfold decodeBatteryPayload StuckPayload
  cases hinit : cbor.parserInit payload with
  | none => exact iff_of_true ⟨0, .inr ⟨_, rfl⟩⟩ fun ⟨_, h, _⟩ ↦ Option.some_ne_none _ h.symm
  | some it =>
      simp only [Option.some.injEq, exists_eq_left']
      cases hmap : cbor.isMap it with
      | false => exact iff_of_true ⟨0, .inr ⟨_, rfl⟩⟩ fun h ↦ Bool.false_ne_true h.1
      | true =>
          simp only [Bool.not_true, Bool.false_eq_true, if_false, true_and]
          constructor
          · rintro ⟨turns, h⟩ hstuck
            rw [running_of_stuckFrom cbor hstuck] at h
            exact Outcome.not_ended_running h
          · intro h
            exact ended_of_not_stuckFrom cbor hmoves h key _

end Ending

/-- `{"percent": 50}`. -/
def percentMap : List UInt8 := [0xA1, 0x67, 112, 101, 114, 99, 101, 110, 116, 0x18, 50]

theorem decodeBatteryPayload_ends_iff_percentMap : ¬StuckPayload referenceCbor percentMap :=
  (decodeBatteryPayload_ends_iff referenceCbor referenceCbor.moves
    (fun _ ↦ List.replicate 32 0) percentMap).mp ⟨1, .inl ⟨⟨50, 0, 0, 0⟩, by decide +kernel⟩⟩

/-- The loop goes on for ever in a map with a key that should be 255 bytes long, in a payload
that ends behind the length. -/
theorem truncated_key_running :
    ¬∀ (cbor : Tinycbor UInt64) (left : cbor.Value → ℕ), cbor.Moves left →
      ∀ key payload, ∃ turns, (decodeBatteryPayload cbor turns key payload).Ended := by
  intro h
  have hstuck : StuckFrom referenceCbor ⟨[0x78, 0xFF], some 2⟩ :=
    .here (by decide +kernel) (by decide +kernel) rfl rfl
  obtain ⟨turns, hended⟩ := h referenceCbor _ referenceCbor.moves
    (fun _ ↦ List.replicate 32 0) [0xA1, 0x78, 0xFF]
  have hrunning : decodeBatteryPayload referenceCbor turns (fun _ ↦ List.replicate 32 0)
      [0xA1, 0x78, 0xFF] = .running :=
    running_of_stuckFrom referenceCbor hstuck turns _ ⟨0, 0, 0, 0⟩
  rw [hrunning] at hended
  exact Outcome.not_ended_running hended

end FortAgent.Joystick
