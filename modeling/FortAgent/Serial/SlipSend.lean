import FortAgent.Lib.Sink
import FortAgent.Serial.SlipStream

/-!
# The encoder that writes byte by byte

`slip_send_message` encodes without a buffer: it hands each byte to the `write_byte` of
the descriptor, and returns at the first that is not accepted, be it in the middle of an
escape.  Whatever `write_byte` does, what it is offered is the frame that
`createSlipEncodedMessage` writes (`slipSendMessage_eq`).
-/

namespace FortAgent.Serial

open Sink

/-! ## The function -/

section SlipSendMessage

variable {σ : Type*} (writeByte : σ → UInt8 → σ × UInt8)

/-- `write_encoded_byte`. -/
def writeEncodedByte (sink : σ) (byte : UInt8) : σ × UInt8 :=
  let (byte, escape) :=
    if byte = slipSpecialByteEnd then (slipEscapedByteEnd, true)
    else if byte = slipSpecialByteEsc then (slipEscapedByteEsc, true)
    else (byte, false)
  let escaped := if escape then writeByte sink slipSpecialByteEsc else (sink, 1)
  if escaped.2 = 0 then (escaped.1, 0)
  else
    let written := writeByte escaped.1 byte
    if written.2 = 0 then (written.1, 0) else (written.1, 1)

/-- The loop from `i` on, with this many turns to go, and the `END` behind it. -/
def sendEncodedFrom (data : List UInt8) : Nat → Nat → σ → Option (σ × SlipError)
  | 0, _, sink =>
    let written := writeByte sink slipSpecialByteEnd
    if written.2 = 0 then some (written.1, .bufferOverflow) else some (written.1, .noError)
  | turns + 1, i, sink =>
    match data[i]? with
    | none => none
    | some byte =>
      let written := writeEncodedByte writeByte sink byte
      if written.2 = 0 then some (written.1, .bufferOverflow)
      else sendEncodedFrom data turns (i + 1) written.1

/-- `none` is a read outside `data`. -/
def slipSendMessage (sink : σ) (data : List UInt8) (size : UInt32) : Option (σ × SlipError) :=
  let written := writeByte sink slipSpecialByteEnd
  if written.2 = 0 then some (written.1, .bufferOverflow)
  else sendEncodedFrom writeByte data size.toNat 0 written.1

/-! ## What is offered -/

/-- The bytes are offered one after the other, up to the first that is not accepted. -/
abbrev offerBytes (sink : σ) (bytes : List UInt8) : σ × Bool :=
  offerAll writeByte (· != 0) sink bytes

/-- What is returned when bytes have been offered. -/
def sent (offered : σ × Bool) : σ × SlipError :=
  (offered.1, if offered.2 then .noError else .bufferOverflow)

/-- The value returned for one byte says whether it has been accepted. -/
theorem accepted_eq (written : σ × UInt8) :
    (if written.2 = 0 then (written.1, 0) else (written.1, 1)) =
      (written.1, if written.2 != 0 then (1 : UInt8) else 0) := by
  by_cases hzero : written.2 = 0
  · simp [hzero]
  · simp [hzero]

/-- One byte is offered stuffed. -/
theorem writeEncodedByte_eq (sink : σ) (byte : UInt8) :
    writeEncodedByte writeByte sink byte =
      let offered := offerBytes writeByte sink (slip.stuff byte)
      (offered.1, if offered.2 then 1 else 0) := by
  have hescaped (escaped : UInt8) : offerBytes writeByte sink [slipSpecialByteEsc, escaped] =
      let first := writeByte sink slipSpecialByteEsc
      if first.2 = 0 then (first.1, false)
      else ((writeByte first.1 escaped).1, (writeByte first.1 escaped).2 != 0) := by
    rw [offerBytes, offerAll_cons, offerAll_singleton]
    simp only [bne_iff_ne, ne_eq, ite_not]
  by_cases hend : byte = slipSpecialByteEnd
  · have hstuff : slip.stuff byte = [slipSpecialByteEsc, slipEscapedByteEnd] := if_pos hend
    simp only [writeEncodedByte, hstuff, hescaped, if_pos hend, if_true, accepted_eq]
    split <;> rfl
  by_cases hesc : byte = slipSpecialByteEsc
  · have hstuff : slip.stuff byte = [slipSpecialByteEsc, slipEscapedByteEsc] := by
      rw [hesc]
      rfl
    simp only [writeEncodedByte, hstuff, hescaped, if_neg hend, if_pos hesc, if_true, accepted_eq]
    split <;> rfl
  · have hstuff : slip.stuff byte = [byte] := slip.stuff_of_ne hend hesc
    have hone : (1 : UInt8) ≠ 0 := by decide
    simp only [writeEncodedByte, hstuff, offerBytes, offerAll_singleton, if_neg hend, if_neg hesc,
      Bool.false_eq_true, if_false, if_neg hone, accepted_eq]

/-- The loop offers the bytes that it reads, escaped, and an `END`. -/
theorem sendEncodedFrom_eq (data : List UInt8) (turns i : ℕ) (sink : σ)
    (h : i + turns ≤ data.length) :
    sendEncodedFrom writeByte data turns i sink =
      some (sent (offerBytes writeByte sink
        (slip.escape ((data.drop i).take turns) ++ [slipSpecialByteEnd]))) := by
  induction turns generalizing i sink with
  | zero =>
      rw [sendEncodedFrom, List.take_zero, Stuffing.escape_nil, List.nil_append, offerBytes,
        offerAll_cons]
      simp only [bne_iff_ne, ne_eq, ite_not]
      split <;> rfl
  | succ turns ih =>
      have hi : i < data.length := by omega
      have hdrop : data.drop i = data[i] :: data.drop (i + 1) := List.drop_eq_getElem_cons hi
      rw [sendEncodedFrom, List.getElem?_eq_getElem hi, hdrop, List.take_succ_cons,
        Stuffing.escape_cons, List.append_assoc, offerBytes, offerAll_append]
      simp only [writeEncodedByte_eq, ih (i + 1) _ (by omega)]
      cases hoffered : (offerBytes writeByte sink (slip.stuff data[i])).2 with
      | true => simp
      | false => simp [hoffered, sent]

/-- **What is sent** is the frame, as far as it is accepted. -/
theorem slipSendMessage_eq (sink : σ) {data : List UInt8} {size : UInt32}
    (h : size.toNat ≤ data.length) :
    slipSendMessage writeByte sink data size =
      some (sent (offerBytes writeByte sink (slip.frame (data.take size.toNat)))) := by
  have hloop (sink : σ) := sendEncodedFrom_eq writeByte data size.toNat 0 sink (by omega)
  have hframe : slip.frame (data.take size.toNat) =
      slipSpecialByteEnd :: (slip.escape ((data.drop 0).take size.toNat) ++
        [slipSpecialByteEnd]) := rfl
  rw [slipSendMessage, hframe, offerBytes, offerAll_cons]
  simp only [hloop, bne_iff_ne, ne_eq, ite_not]
  split <;> rfl

end SlipSendMessage

/-! ## The two encoders -/

/-- **The two encoders agree.**  A new sink that accepts its first `k` bytes accepts the
first `min k n` of the `n` bytes that `createSlipEncodedMessage` writes, and no error is
returned exactly if `k` is at least `n`.  If the sink has no limit, `k` is `n`. -/
theorem slip_encoders_agree {σ : Type*} {writeByte : σ → UInt8 → σ × UInt8}
    {accepted : σ → List UInt8} {limit : Option ℕ}
    (hsink : TakesFirst writeByte (· != 0) accepted limit) {sink : σ}
    (hnew : accepted sink = []) {data : List UInt8} (hdata : data.length ≤ fortAgentBufferUnitSz) :
    let n := (slipEncoded data).length
    let k := limit.getD n
    ∃ after error,
      slipSendMessage writeByte sink data (UInt32.ofNat data.length) = some (after, error) ∧
        accepted after = (slipEncoded data).take (min k n) ∧
          error = if n ≤ k then .noError else .bufferOverflow := by
  intro n k
  have hlength : (UInt32.ofNat data.length).toNat = data.length :=
    UInt32.toNat_ofNat_of_lt' (Nat.lt_of_le_of_lt hdata (by decide))
  have hsend := slipSendMessage_eq writeByte sink (Nat.le_of_eq hlength)
  rw [hlength, List.take_length, ← slipEncoded_eq_frame hdata] at hsend
  obtain ⟨htaken, hall⟩ := hsink.offerAll_new hnew (slipEncoded data)
  refine ⟨_, _, hsend, ?_, ?_⟩
  · rw [← List.take_eq_take_min]
    exact htaken
  · exact if_congr hall rfl rfl

/-- A sink that keeps its first `k` bytes. -/
def keepFirst (k : ℕ) (kept : List UInt8) (byte : UInt8) : List UInt8 × UInt8 :=
  if kept.length < k then (kept ++ [byte], 1) else (kept, 0)

theorem keepFirst_takesFirst (k : ℕ) :
    TakesFirst (keepFirst k) (· != 0) (fun kept ↦ kept) (some k) where
  takes kept byte hroom := by
    rw [keepFirst, if_pos (hroom k rfl)]
    exact ⟨rfl, rfl⟩
  refuses kept byte k' hk hfull := by
    rw [keepFirst, if_neg (Nat.not_lt.mpr (Option.some.inj hk ▸ hfull))]
    exact ⟨rfl, rfl⟩

/-- A sink that is full in the middle of an escape. -/
theorem slip_encoders_agree_escape :
    ∃ after error, slipSendMessage (keepFirst 2) [] [0xC0, 0x41] 2 = some (after, error) ∧
      after = [0xC0, 0xDB] ∧ error = .bufferOverflow := by
  have hnew : (fun kept : List UInt8 ↦ kept) [] = [] := rfl
  have hdata : ([0xC0, 0x41] : List UInt8).length ≤ fortAgentBufferUnitSz := by decide
  obtain ⟨after, error, hsend, hafter, herror⟩ :=
    slip_encoders_agree (keepFirst_takesFirst 2) hnew hdata
  exact ⟨after, error, hsend, hafter, herror⟩

end FortAgent.Serial
