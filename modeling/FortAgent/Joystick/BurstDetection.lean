import FortAgent.Joystick.Report
import FortAgent.Lib.Crc

/-!
# Bursts of errors in a report

`compute_crc16` is a reflected CRC of width 16: it takes in the bytes of a block with their
lowest bit first.  The CRC of a block is zero exactly if the block ends in the CRC of the
rest of it, so a report is accepted exactly if the CRCs of its two blocks are zero
(`decodeCombinedPayload_iff`).  What a burst of errors does to a report is then seen from
the errors alone.
-/

namespace FortAgent.Joystick

/-! ## The CRC, bit by bit -/

/-- The bits of a byte, the lowest first. -/
def byteBits (byte : UInt8) : List Bool := (List.range 8).map byte.toBitVec.getLsbD

/-- The bits of a message in the order of transmission. -/
def bitsOf (data : List UInt8) : List Bool := data.flatMap byteBits

/-- The polynomial of `compute_crc16`. -/
def crc16Poly : BitVec 16 := 0xA001#16

/-- The difference of two messages. -/
def xorBytes (a b : List UInt8) : List UInt8 := List.zipWith (· ^^^ ·) a b

@[simp] theorem length_byteBits (byte : UInt8) : (byteBits byte).length = 8 := rfl

@[simp] theorem bitsOf_append (a b : List UInt8) : bitsOf (a ++ b) = bitsOf a ++ bitsOf b :=
  List.flatMap_append

theorem byteBits_xor (a b : UInt8) :
    byteBits (a ^^^ b) = List.zipWith (· ^^ ·) (byteBits a) (byteBits b) := by
  simp [byteBits, List.zipWith_map, List.zipWith_self, BitVec.getLsbD_xor]

theorem bitsOf_xorBytes {a b : List UInt8} (h : a.length = b.length) :
    bitsOf (xorBytes a b) = List.zipWith (· ^^ ·) (bitsOf a) (bitsOf b) := by
  induction a generalizing b with
  | nil =>
      obtain rfl := List.length_eq_zero_iff.mp h.symm
      rfl
  | cons x a ih =>
      cases b with
      | nil => cases h
      | cons y b =>
          simp only [xorBytes, bitsOf, List.zipWith_cons_cons, List.flatMap_cons] at ih ⊢
          rw [ih (Nat.succ.inj h), byteBits_xor, List.zipWith_append]
          rw [length_byteBits, length_byteBits]

theorem length_bitsOf (data : List UInt8) : (bitsOf data).length = 8 * data.length := by
  induction data with
  | nil => rfl
  | cons byte data ih =>
      rw [bitsOf, List.flatMap_cons, List.length_append, length_byteBits, List.length_cons]
      rw [bitsOf] at ih
      omega

theorem toBitVec_crc16Bit (crc : UInt16) :
    (crc16Bit crc).toBitVec = Crc.shift crc16Poly crc.toBitVec := by
  have hlow : (crc &&& 1 != 0) = crc.toBitVec.getLsbD 0 := by
    have hmask : (crc &&& 1).toBitVec = (BitVec.ofBool (crc.toBitVec.getLsbD 0)).setWidth 16 := by
      rw [UInt16.toBitVec_and]
      exact BitVec.and_one_eq_setWidth_ofBool_getLsbD
    cases hbit : crc.toBitVec.getLsbD 0 with
    | false =>
        have hzero : crc &&& 1 = 0 := UInt16.toBitVec_inj.mp (hmask.trans (by rw [hbit]; rfl))
        rw [hzero]
        rfl
    | true =>
        have hone : crc &&& 1 = 1 := UInt16.toBitVec_inj.mp (hmask.trans (by rw [hbit]; rfl))
        rw [hone]
        rfl
  rw [crc16Bit, Crc.shift, hlow]
  split
  · rfl
  · rfl

theorem toBitVec_repeat_crc16Bit (n : ℕ) (crc : UInt16) :
    (Nat.repeat crc16Bit n crc).toBitVec = (Crc.shift crc16Poly)^[n] crc.toBitVec := by
  induction n with
  | zero => rfl
  | succ n ih =>
      rw [Function.iterate_succ_apply', ← ih]
      exact toBitVec_crc16Bit _

theorem getD_byteBits (byte : UInt8) (i : ℕ) :
    (byteBits byte).getD i false = byte.toBitVec.getLsbD i := by
  by_cases hi : i < 8
  · simp [byteBits, List.getD_eq_getElem?_getD, hi]
  · rw [List.getD_eq_default _ _ (by simpa using hi), BitVec.getLsbD_of_ge _ _ (by simpa using hi)]

theorem word_byteBits (byte : UInt8) : Crc.word 16 (byteBits byte) = byte.toUInt16.toBitVec := by
  apply BitVec.eq_of_getLsbD_eq
  intro i hi
  rw [Crc.getLsbD_word, getD_byteBits, decide_eq_true hi, Bool.true_and, UInt8.toBitVec_toUInt16,
    BitVec.getLsbD_setWidth, decide_eq_true hi, Bool.true_and]

/-- One turn of the outer loop takes in the bits of one byte. -/
theorem toBitVec_crcByte (crc : UInt16) (byte : UInt8) :
    (Nat.repeat crc16Bit 8 (crc ^^^ byte.toUInt16)).toBitVec =
      Crc.run crc16Poly crc.toBitVec (byteBits byte) := by
  have hlength : (byteBits byte).length ≤ 16 := Nat.le_of_ble_eq_true rfl
  rw [toBitVec_repeat_crc16Bit, Crc.run_eq_iterate _ _ hlength, word_byteBits]
  rfl

/-- **`compute_crc16` is a CRC.** -/
theorem toBitVec_computeCrc16 (data : List UInt8) :
    (computeCrc16 data).toBitVec = Crc.run crc16Poly 0#16 (bitsOf data) := by
  have hfold : ∀ crc : UInt16,
      (data.foldl (fun crc byte ↦ Nat.repeat crc16Bit 8 (crc ^^^ byte.toUInt16)) crc).toBitVec =
        Crc.run crc16Poly crc.toBitVec (bitsOf data) := by
    induction data with
    | nil => exact fun _ ↦ rfl
    | cons byte data ih =>
        intro crc
        rw [List.foldl_cons, ih, toBitVec_crcByte, bitsOf, bitsOf, List.flatMap_cons,
          Crc.run_append]
  exact hfold 0

theorem computeCrc16_eq_zero_iff (data : List UInt8) :
    computeCrc16 data = 0 ↔ Crc.run crc16Poly 0#16 (bitsOf data) = 0#16 := by
  rw [← UInt16.toBitVec_inj, toBitVec_computeCrc16]
  rfl

/-- The top bit of the polynomial. -/
theorem msb_crc16Poly : crc16Poly.msb = true := by decide

/-! ## The laws of the CRC -/

theorem computeCrc16_xorBytes {a b : List UInt8} (h : a.length = b.length) :
    computeCrc16 (xorBytes a b) = computeCrc16 a ^^^ computeCrc16 b := by
  have hbits : (bitsOf a).length = (bitsOf b).length := by rw [length_bitsOf, length_bitsOf, h]
  have hrun := Crc.run_zipWith_xor crc16Poly 0#16 0#16 hbits
  rw [BitVec.xor_zero, ← bitsOf_xorBytes h] at hrun
  rw [← UInt16.toBitVec_inj, UInt16.toBitVec_xor, toBitVec_computeCrc16, toBitVec_computeCrc16,
    toBitVec_computeCrc16, hrun]

theorem word_bitsOf_pair (lo hi : UInt8) :
    Crc.word 16 (bitsOf [lo, hi]) = (wordOf lo hi).toBitVec := by
  have hbits : bitsOf [lo, hi] = byteBits lo ++ byteBits hi := rfl
  apply BitVec.eq_of_getLsbD_eq
  intro i hi'
  have hget : (byteBits lo ++ byteBits hi).getD i false =
      if i < 8 then lo.toBitVec.getLsbD i else hi.toBitVec.getLsbD (i - 8) := by
    split
    · next hlow =>
        rw [List.getD_append _ _ _ _ hlow, getD_byteBits]
    · next hlow =>
        rw [List.getD_append_right _ _ _ _ (Nat.not_lt.mp hlow), getD_byteBits, length_byteBits]
  rw [Crc.getLsbD_word, hbits, hget]
  split
  · next hlow => simp [wordOf, hlow]
  · next hlow =>
      have hnone : lo.toBitVec.getLsbD i = false := BitVec.getLsbD_of_ge _ _ (Nat.not_lt.mp hlow)
      simp [wordOf, hlow, hi', hnone]

theorem word_wordBytes (w : UInt16) : Crc.word 16 (bitsOf (wordBytes w)) = w.toBitVec := by
  rw [wordBytes, word_bitsOf_pair, wordOf_lowByte_highByte]

/-- A CRC behind a message makes the whole zero, and no other word does. -/
theorem computeCrc16_append_wordBytes (data : List UInt8) (w : UInt16) :
    computeCrc16 (data ++ wordBytes w) = 0 ↔ computeCrc16 data = w := by
  rw [computeCrc16_eq_zero_iff, bitsOf_append, Crc.run_append,
    Crc.run_word_eq_zero_iff _ msb_crc16Poly _ (length_bitsOf _), word_wordBytes,
    ← toBitVec_computeCrc16, UInt16.toBitVec_inj]

theorem computeCrc16_burst_ne_zero {errors : List UInt8} (h : Crc.Burst 16 (bitsOf errors)) :
    computeCrc16 errors ≠ 0 := by
  rw [Ne, computeCrc16_eq_zero_iff]
  exact Crc.run_burst_ne_zero crc16Poly msb_crc16Poly h

/-! ## Reports -/

/-- A report that is read is in the first 18 bytes. -/
theorem FrcCombinedData.bytes_of_ofBytes {data : List UInt8} {report : FrcCombinedData}
    (h : ofBytes data = some report) : data.take 18 = report.bytes := by
  unfold ofBytes at h
  split at h
  · obtain rfl := Option.some.inj h
    simp [bytes, FrcJoystickData.guardedBytes, FrcKeypadData.guardedBytes, FrcJoystickData.axes,
      wordBytes]
  · cases h

theorem FrcCombinedData.ofBytes_eq_none {data : List UInt8} (h : ofBytes data = none) :
    data.length < 18 := by
  unfold ofBytes at h
  split at h
  · cases h
  · next hshort =>
      by_contra hlong
      iterate 18
        rcases data with _ | ⟨byte, data⟩
        · exact hlong (by simp)
      exact hshort _ _ _ _ _ _ _ _ _ _ _ _ _ _ _ _ _ _ _ rfl

/-- A report is accepted exactly if the CRC of each of its blocks is zero. -/
theorem FrcCombinedData.crcValid_iff (report : FrcCombinedData) :
    report.crcValid = true ↔
      computeCrc16 (report.bytes.take 4) = 0 ∧ computeCrc16 (report.bytes.drop 4) = 0 := by
  have hkeypad : report.bytes.take 4 =
      report.keypadData.guardedBytes ++ wordBytes report.keypadData.crc16 := rfl
  have hjoystick : report.bytes.drop 4 =
      report.joystickData.guardedBytes ++ wordBytes report.joystickData.crc16 := rfl
  rw [hkeypad, hjoystick, computeCrc16_append_wordBytes, computeCrc16_append_wordBytes, crcValid,
    Bool.and_eq_true, beq_iff_eq, beq_iff_eq, and_comm]

/-- A payload is accepted exactly if it holds a report in which the CRCs of both blocks
are zero. -/
theorem decodeCombinedPayload_iff (data : List UInt8) :
    decodeCombinedPayload data = true ↔ 18 ≤ data.length ∧
      computeCrc16 ((data.take 18).take 4) = 0 ∧ computeCrc16 ((data.take 18).drop 4) = 0 := by
  rw [decodeCombinedPayload]
  cases hread : FrcCombinedData.ofBytes data with
  | none =>
      exact iff_of_false Bool.false_ne_true fun h ↦
        Nat.not_le.mpr (FrcCombinedData.ofBytes_eq_none hread) h.1
  | some report =>
      have hbytes := FrcCombinedData.bytes_of_ofBytes hread
      have hlength : 18 ≤ data.length := by
        have := congrArg List.length hbytes
        rw [List.length_take] at this
        have : report.bytes.length = 18 := rfl
        omega
      simp only [hbytes, report.crcValid_iff, hlength, true_and]

/-- **Burst detection.**  The CRC is linear, it is zero for a message with its CRC behind
it, and not zero for a burst of at most 16 bits.  So a payload that differs in such a burst
from one that is accepted is not accepted, wherever in the report the burst is. -/
theorem burst_detection :
    (∀ a b : List UInt8, a.length = b.length →
      computeCrc16 (xorBytes a b) = computeCrc16 a ^^^ computeCrc16 b) ∧
    (∀ data, computeCrc16 (data ++ wordBytes (computeCrc16 data)) = 0) ∧
    (∀ errors, Crc.Burst 16 (bitsOf errors) → computeCrc16 errors ≠ 0) ∧
    ∀ payload payload', decodeCombinedPayload payload = true →
      Crc.Burst 16 (bitsOf (xorBytes (payload.take 18) (payload'.take 18))) →
        decodeCombinedPayload payload' = false := by
  refine ⟨fun a b h ↦ computeCrc16_xorBytes h,
    fun data ↦ (computeCrc16_append_wordBytes data _).mpr rfl,
    fun errors h ↦ computeCrc16_burst_ne_zero h, fun payload payload' haccepted hburst ↦ ?_⟩
  rw [← Bool.not_eq_true]
  intro haccepted'
  obtain ⟨hlength, hkeypad, hjoystick⟩ := (decodeCombinedPayload_iff payload).mp haccepted
  obtain ⟨hlength', hkeypad', hjoystick'⟩ := (decodeCombinedPayload_iff payload').mp haccepted'
  have hreport : (payload.take 18).length = (payload'.take 18).length := by
    rw [List.length_take_of_le hlength, List.length_take_of_le hlength']
  generalize payload.take 18 = report at *
  generalize payload'.take 18 = report' at *
  have hsplit : xorBytes report report' =
      xorBytes (report.take 4) (report'.take 4) ++ xorBytes (report.drop 4) (report'.drop 4) := by
    rw [xorBytes, xorBytes, xorBytes, ← List.take_zipWith, ← List.drop_zipWith,
      List.take_append_drop]
  rw [hsplit, bitsOf_append] at hburst
  rcases hburst.of_append with hburst | hburst
  · have hlength : (report.take 4).length = (report'.take 4).length := by
      rw [List.length_take, List.length_take, hreport]
    have hzero := computeCrc16_xorBytes hlength
    rw [hkeypad, hkeypad', UInt16.xor_self] at hzero
    exact computeCrc16_burst_ne_zero hburst hzero
  · have hlength : (report.drop 4).length = (report'.drop 4).length := by
      rw [List.length_drop, List.length_drop, hreport]
    have hzero := computeCrc16_xorBytes hlength
    rw [hjoystick, hjoystick', UInt16.xor_self] at hzero
    exact computeCrc16_burst_ne_zero hburst hzero

/-- Eight bits around the boundary between the keypad block and the joystick block. -/
def straddlingErrors : List UInt8 := [0, 0, 0, 0xF0, 0x0F] ++ List.replicate 13 0

/-- A report with these errors is not accepted. -/
theorem burst_detection_straddling :
    decodeCombinedPayload (xorBytes FrcCombinedData.deflected.bytes straddlingErrors) = false := by
  refine burst_detection.2.2.2 FrcCombinedData.deflected.bytes _ ?_
    (Crc.burst_iff.mpr ⟨28, List.replicate 8 true, 108, by decide +kernel, by decide, by decide⟩)
  rw [decodeCombinedPayload_bytes]
  exact FrcCombinedData.crcValid_withCrc ..

end FortAgent.Joystick
