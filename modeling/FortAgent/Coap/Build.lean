import FortAgent.Coap.Header
import FortAgent.Lib.CoapFormat

/-!
# Building CoAP messages

`buildMessage` writes a message option by option.  Its two option encoders work on
the bytes written so far and on the number of the last option, and keep all
quantities in machine words.

`decode_buildMessage` reads the result with the reference decoder.  The proof
follows the two variables through the function (`Encoded`): every part of it adds
the encoding of some options, and leaves the last number below those still to come.
-/

namespace FortAgent.Coap

open CoapFormat (Opt Packet encodeOptions decodeOptions encodePayload lastNumber Ascending
  quantityBound optionHead extension uintBytes)

/-! ## The encoders -/

/-- `Coap::Method`. -/
inductive Method
  | get | post
deriving DecidableEq, Repr

/-- The value of an enumerator. -/
def Method.value : Method → UInt8
  | .get => 0x01
  | .post => 0x02

/-- `Coap::Format`. -/
inductive Format
  | textPlain | applicationLinkFormat | applicationXml | applicationOctetStream | applicationExi
  | applicationJson | applicationCbor | none
deriving DecidableEq, Repr

/-- The value of an enumerator. -/
def Format.value : Format → UInt16
  | .textPlain => 0
  | .applicationLinkFormat => 40
  | .applicationXml => 41
  | .applicationOctetStream => 42
  | .applicationExi => 47
  | .applicationJson => 50
  | .applicationCbor => 60
  | .none => 0xFFFF

/-- The lambda `encodeExtended`, which both encoders define. -/
def encodeExtended (val : UInt16) : UInt8 :=
  if val < 13 then val.toUInt8 else if val < 269 then 13 else 14

/-- What is pushed for a delta or a length with this nibble. -/
def extendedBytes (nibble : UInt8) (val : Nat) : List UInt8 :=
  if nibble = 13 then [UInt8.ofNat (val - 13)]
  else if nibble = 14 then [UInt8.ofNat ((val - 269) >>> 8), UInt8.ofNat ((val - 269) &&& 0xFF)]
  else []

/-- The message so far and the last number, afterwards.  The length is cut to 16
bits for its nibble only. -/
def encodeOption (out : List UInt8) (number : UInt16) (value : List UInt8)
    (lastNumber : UInt16) : List UInt8 × UInt16 :=
  let delta := number - lastNumber
  let deltaNibble := encodeExtended delta
  let lenNibble := encodeExtended (UInt16.ofNat value.length)
  let out := out ++ [(deltaNibble <<< 4) ||| lenNibble]
  let out := out ++ extendedBytes deltaNibble delta.toNat
  let out := out ++ extendedBytes lenNibble value.length
  (out ++ value, number)

/-- The number of bytes that `encodeUintOption` spends on a value; three is not an
option. -/
def uintLen (value : UInt32) : Nat :=
  if 0xFFFF < value then 4 else if 0xFF < value then 2 else if 0 < value then 1 else 0

/-- The last `len` bytes of the value, most significant first. -/
def bigEndian (value : UInt32) (len : Nat) : List UInt8 :=
  (List.range len).reverse.map fun i ↦ ((value >>> UInt32.ofNat (i * 8)) &&& 0xFF).toUInt8

def encodeUintOption (out : List UInt8) (number : UInt16) (value : UInt32)
    (lastNumber : UInt16) : List UInt8 × UInt16 :=
  let delta := number - lastNumber
  let len := uintLen value
  let deltaNibble := encodeExtended delta
  let lenNibble := encodeExtended (UInt16.ofNat len)
  let out := out ++ [(deltaNibble <<< 4) ||| lenNibble]
  let out := out ++ extendedBytes deltaNibble delta.toNat
  let out := out ++ extendedBytes lenNibble len
  (out ++ bigEndian value len, number)

/-- The part of `buildMessage` that writes the options. -/
def encodeAllOptions (msg : List UInt8) (uriSegments uriQueries : List (List UInt8))
    (contentFormat : Format) (includeObserve : Bool) (observeValue : UInt16) :
    List UInt8 × UInt16 :=
  let lastOpt : UInt16 := 0
  let observed :=
    if includeObserve then encodeUintOption msg 6 observeValue.toUInt32 lastOpt else (msg, lastOpt)
  let pathed :=
    uriSegments.foldl (fun s segment ↦ encodeOption s.1 11 segment s.2) observed
  let formatted :=
    if contentFormat ≠ .none then encodeUintOption pathed.1 12 contentFormat.value.toUInt32 pathed.2
    else pathed
  uriQueries.foldl (fun s query ↦ encodeOption s.1 15 query s.2) formatted

/-- A payload is only written with POST. -/
def buildMessage (type : MessageType) (method : Method) (mid : UInt16)
    (uriSegments uriQueries : List (List UInt8)) (payload token : List UInt8)
    (contentFormat : Format) (includeObserve : Bool) (observeValue : UInt16) : List UInt8 :=
  let header := ((1 : UInt8) <<< 6) ||| (type.value <<< 4) ||| UInt8.ofNat (token.length &&& 0x0F)
  let msg := [header, method.value, highByte mid, lowByte mid] ++ token
  let msg := (encodeAllOptions msg uriSegments uriQueries contentFormat includeObserve
    observeValue).1
  if method = .post ∧ payload ≠ [] then msg ++ [0xFF] ++ payload else msg

/-! ## One option -/

theorem encodeExtended_toNat (val : UInt16) :
    (encodeExtended val).toNat = CoapFormat.nibble val.toNat := by
  unfold encodeExtended CoapFormat.nibble
  have hsmall : val < 13 ↔ val.toNat < 13 := UInt16.lt_iff_toNat_lt
  have hmedium : val < 269 ↔ val.toNat < 269 := UInt16.lt_iff_toNat_lt
  simp only [hsmall, hmedium]
  split
  · rw [UInt16.toNat_toUInt8]
    omega
  · split <;> rfl

/-- The first byte of an option. -/
theorem optionHead_eq (delta length : UInt16) :
    (encodeExtended delta <<< 4) ||| encodeExtended length =
      optionHead delta.toNat length.toNat := by
  have hdelta := CoapFormat.nibble_lt delta.toNat
  have hlength := CoapFormat.nibble_lt length.toNat
  apply UInt8.toNat_inj.mp
  rw [CoapFormat.optionHead_toNat, UInt8.toNat_or, UInt8.toNat_shiftLeft, encodeExtended_toNat,
    encodeExtended_toNat]
  have hshift : CoapFormat.nibble delta.toNat <<< 4 % 2 ^ 8 =
      2 ^ 4 * CoapFormat.nibble delta.toNat := by
    rw [Nat.shiftLeft_eq]
    omega
  have hor := Nat.two_pow_add_eq_or_of_lt (i := 4) (b := CoapFormat.nibble length.toNat)
    (by omega) (CoapFormat.nibble delta.toNat)
  exact (congrArg (· ||| _) hshift).trans hor.symm

/-- The bytes after the first one. -/
theorem extendedBytes_eq {n : Nat} (h : n < UInt16.size) :
    extendedBytes (encodeExtended (UInt16.ofNat n)) n = extension n := by
  have hn : (UInt16.ofNat n).toNat = n := UInt16.toNat_ofNat_of_lt' h
  have hnibble (k : UInt8) : encodeExtended (UInt16.ofNat n) = k ↔
      CoapFormat.nibble n = k.toNat := by
    rw [← UInt8.toNat_inj, encodeExtended_toNat, hn]
  have hmask : (n - 269) &&& 0xFF = (n - 269) % 256 := Nat.and_two_pow_sub_one_eq_mod _ 8
  simp only [extendedBytes, hnibble, extension, CoapFormat.nibble, Nat.shiftRight_eq_div_pow, hmask]
  by_cases hsmall : n < 13
  · simp [hsmall, Nat.ne_of_lt hsmall]
    omega
  · by_cases hmedium : n < 269 <;> simp [hsmall, hmedium]

/-- `encodeOption` adds the encoding of an option. -/
theorem encodeOption_eq (out : List UInt8) {number last : UInt16} {value : List UInt8}
    (hlast : last ≤ number) (hvalue : value.length < UInt16.size) :
    encodeOption out number value last =
      (out ++ CoapFormat.encodeOption (number.toNat - last.toNat) value, number) := by
  have hdelta : (number - last).toNat = number.toNat - last.toNat :=
    UInt16.toNat_sub_of_le _ _ hlast
  have hlength : (UInt16.ofNat value.length).toNat = value.length :=
    UInt16.toNat_ofNat_of_lt' hvalue
  have hextension : extendedBytes (encodeExtended (number - last)) (number.toNat - last.toNat) =
      extension (number.toNat - last.toNat) := by
    have h := extendedBytes_eq (number - last).toNat_lt
    rwa [UInt16.ofNat_toNat, hdelta] at h
  simp only [encodeOption, optionHead_eq, extendedBytes_eq hvalue, hdelta, hextension, hlength,
    CoapFormat.encodeOption, List.append_assoc, List.cons_append, List.nil_append]

/-- The bytes of a value are its digits. -/
theorem bigEndian_eq (value : UInt32) {len : Nat} (hlen : len ≤ 4) :
    bigEndian value len =
      (List.range len).reverse.map fun i ↦ UInt8.ofNat (value.toNat / 2 ^ (i * 8) % 256) := by
  refine List.map_congr_left fun i hi ↦ ?_
  have hi : i < 4 := Nat.lt_of_lt_of_le (List.mem_range.mp (List.mem_reverse.mp hi)) hlen
  have hshift : (UInt32.ofNat (i * 8)).toNat % 32 = i * 8 := by
    rw [UInt32.toNat_ofNat_of_lt' (Nat.lt_of_lt_of_le (by omega : i * 8 < 32) (by decide))]
    omega
  have hmask (n : Nat) : n &&& 255 = n % 256 := Nat.and_two_pow_sub_one_eq_mod n 8
  apply UInt8.toNat_inj.mp
  rw [UInt8.toNat_ofNat', UInt32.toNat_toUInt8, UInt32.toNat_and, UInt32.toNat_shiftRight, hshift,
    Nat.shiftRight_eq_div_pow]
  exact congrArg (· % 2 ^ 8) (hmask _)

/-- A value of at most two bytes is written without leading zeros. -/
theorem bigEndian_uintLen {value : UInt32} (h : value.toNat < UInt16.size) :
    bigEndian value (uintLen value) = uintBytes value.toNat := by
  have hfour : 0xFFFF < value ↔ 65535 < value.toNat := UInt32.lt_iff_toNat_lt
  have htwo : 0xFF < value ↔ 255 < value.toNat := UInt32.lt_iff_toNat_lt
  have hone : 0 < value ↔ 0 < value.toNat := UInt32.lt_iff_toNat_lt
  simp only [UInt16.size] at h
  simp only [uintLen, hfour, htwo, hone, if_neg (Nat.not_lt.mpr (Nat.le_of_lt_succ h))]
  by_cases hbig : 255 < value.toNat
  · have hpos : 0 < value.toNat / 256 := Nat.div_pos hbig (by decide)
    have hlt : value.toNat / 256 < 256 := by omega
    rw [if_pos hbig, bigEndian_eq value (by decide), CoapFormat.uintBytes_concat hbig,
      CoapFormat.uintBytes_of_lt hpos hlt]
    simp [List.range_succ, Nat.mod_eq_of_lt hlt]
  · rw [if_neg hbig]
    by_cases hzero : 0 < value.toNat
    · have hlt : value.toNat < 256 := by omega
      rw [if_pos hzero, bigEndian_eq value (by decide), CoapFormat.uintBytes_of_lt hzero hlt]
      simp [List.range_succ, Nat.mod_eq_of_lt hlt]
    · rw [if_neg hzero, Nat.eq_zero_of_not_pos hzero]
      rfl

/-- The two encoders agree. -/
theorem encodeUintOption_eq (out : List UInt8) (number : UInt16) {value : UInt32}
    (last : UInt16) (h : value.toNat < UInt16.size) :
    encodeUintOption out number value last =
      encodeOption out number (uintBytes value.toNat) last := by
  have hlength : (uintBytes value.toNat).length = uintLen value := by
    rw [← bigEndian_uintLen h, bigEndian, List.length_map, List.length_reverse, List.length_range]
  simp only [encodeUintOption, encodeOption, hlength, bigEndian_uintLen h]

/-! ## A message -/

/-- From the bytes and the last number `s`, the encoders have reached `s'` by
adding some options, none with a number above `bound`. -/
structure Encoded (s s' : List UInt8 × UInt16) (os : List Opt) (bound : UInt16) : Prop where
  bytes : s'.1 = s.1 ++ encodeOptions s.2.toNat os
  last : s'.2.toNat = lastNumber s.2.toNat os
  ascending : Ascending s.2.toNat os
  le : s'.2 ≤ bound

namespace Encoded

variable {s s' s'' : List UInt8 × UInt16} {os os' : List Opt} {bound bound' : UInt16}

theorem refl (h : s.2 ≤ bound) : Encoded s s [] bound :=
  ⟨(List.append_nil _).symm, rfl, trivial, h⟩

theorem trans (h : Encoded s s' os bound) (h' : Encoded s' s'' os' bound') :
    Encoded s s'' (os ++ os') bound' where
  bytes := by
    rw [h'.bytes, h.bytes, h.last, CoapFormat.encodeOptions_append, List.append_assoc]
  last := by rw [h'.last, h.last, CoapFormat.lastNumber_append]
  ascending := CoapFormat.ascending_append h.ascending (h.last ▸ h'.ascending)
  le := h'.le

theorem option {number : UInt16} {value : List UInt8} (hlast : s.2 ≤ number)
    (hvalue : value.length < UInt16.size) :
    Encoded s (encodeOption s.1 number value s.2) [⟨number.toNat, value⟩] number := by
  have hnumber := number.toNat_lt
  rw [encodeOption_eq s.1 hlast hvalue]
  refine ⟨?_, rfl, ⟨UInt16.le_iff_toNat_le.mp hlast, ?_, ?_, trivial⟩, UInt16.le_refl _⟩
  · rw [encodeOptions, encodeOptions, List.append_nil]
  · change number.toNat - s.2.toNat < quantityBound
    unfold quantityBound
    omega
  · change value.length < quantityBound
    exact Nat.lt_trans hvalue (by decide)

theorem uintOption {number : UInt16} {value : UInt32} (hlast : s.2 ≤ number)
    (hvalue : value.toNat < UInt16.size) :
    Encoded s (encodeUintOption s.1 number value s.2) [⟨number.toNat, uintBytes value.toNat⟩]
      number := by
  have hlength : (uintBytes value.toNat).length < UInt16.size :=
    Nat.lt_of_le_of_lt (CoapFormat.length_uintBytes_le (k := 2) hvalue) (by decide)
  rw [encodeUintOption_eq s.1 number s.2 hvalue]
  exact option hlast hlength

/-- A loop that adds an option for each value. -/
theorem options {number : UInt16} {values : List (List UInt8)} (hlast : s.2 ≤ number)
    (hvalues : ∀ value ∈ values, value.length < UInt16.size) :
    Encoded s (values.foldl (fun s value ↦ encodeOption s.1 number value s.2) s)
      (values.map fun value ↦ ⟨number.toNat, value⟩) number := by
  induction values generalizing s with
  | nil => exact refl hlast
  | cons value values ih =>
      obtain ⟨hvalue, hrest⟩ := List.forall_mem_cons.mp hvalues
      have hfirst := option hlast hvalue
      exact hfirst.trans (ih hfirst.le hrest)

/-- A part of the function that is only there under a condition. -/
theorem ite {c : Prop} [Decidable c] (hlast : s.2 ≤ bound) (h : Encoded s s' os bound) :
    Encoded s (if c then s' else s) (if c then os else []) bound := by
  split
  · exact h
  · exact refl hlast

end Encoded

/-- The options a message is asked to have. -/
def requestedOptions (uriSegments uriQueries : List (List UInt8)) (contentFormat : Format)
    (includeObserve : Bool) (observeValue : UInt16) : List Opt :=
  (if includeObserve then [⟨6, uintBytes observeValue.toNat⟩] else []) ++
    uriSegments.map (fun segment ↦ ⟨11, segment⟩) ++
    (if contentFormat ≠ .none then [⟨12, uintBytes contentFormat.value.toNat⟩] else []) ++
    uriQueries.map fun query ↦ ⟨15, query⟩

/-- The options are written behind what is there, in the requested order. -/
theorem encoded_encodeAllOptions (msg : List UInt8) {uriSegments uriQueries : List (List UInt8)}
    (contentFormat : Format) (includeObserve : Bool) (observeValue : UInt16)
    (hsegments : ∀ segment ∈ uriSegments, segment.length < UInt16.size)
    (hqueries : ∀ query ∈ uriQueries, query.length < UInt16.size) :
    Encoded (msg, 0)
      (encodeAllOptions msg uriSegments uriQueries contentFormat includeObserve observeValue)
      (requestedOptions uriSegments uriQueries contentFormat includeObserve observeValue) 15 := by
  unfold encodeAllOptions
  extract_lets lastOpt observed pathed formatted
  -- the four parts, each from where the one before has left off
  have hobserved : Encoded (msg, 0) observed
      (if includeObserve then [⟨6, uintBytes observeValue.toNat⟩] else []) 6 :=
    have hle : (0 : UInt16) ≤ 6 := by decide
    Encoded.ite hle (Encoded.uintOption (s := (msg, 0)) hle observeValue.toNat_lt)
  have hpathed : Encoded observed pathed (uriSegments.map fun segment ↦ ⟨11, segment⟩) 11 :=
    Encoded.options (UInt16.le_trans hobserved.le (by decide)) hsegments
  have hformatted : Encoded pathed formatted
      (if contentFormat ≠ .none then [⟨12, uintBytes contentFormat.value.toNat⟩] else []) 12 :=
    have hle : pathed.2 ≤ 12 := UInt16.le_trans hpathed.le (by decide)
    Encoded.ite hle (Encoded.uintOption hle contentFormat.value.toNat_lt)
  exact ((hobserved.trans hpathed).trans hformatted).trans
    (Encoded.options (UInt16.le_trans hformatted.le (by decide)) hqueries)

/-- The payload a message is asked to have. -/
def requestedPayload (method : Method) (payload : List UInt8) : Option (List UInt8) :=
  if method = .post ∧ payload ≠ [] then some payload else none

/-- An empty payload is none. -/
theorem requestedPayload_ne (method : Method) (payload : List UInt8) :
    requestedPayload method payload ≠ some [] := by
  unfold requestedPayload
  split
  · next h => exact fun hnil ↦ h.2 (Option.some.inj hnil)
  · exact nofun

/-- The message that `buildMessage` writes. -/
def requestedMessage (type : MessageType) (method : Method) (mid : UInt16)
    (uriSegments uriQueries : List (List UInt8)) (payload token : List UInt8)
    (contentFormat : Format) (includeObserve : Bool) (observeValue : UInt16)
    (htoken : token.length ≤ tokenMaxLen) : Message where
  type := type
  code := method.value
  mid := mid
  token := token
  rest :=
    encodeOptions 0
        (requestedOptions uriSegments uriQueries contentFormat includeObserve observeValue) ++
      encodePayload (requestedPayload method payload)
  token_length := htoken

/-- **What `buildMessage` writes**: the bytes of the message it is asked for, whose
options ascend. -/
theorem buildMessage_eq (type : MessageType) (method : Method) (mid : UInt16)
    {uriSegments uriQueries : List (List UInt8)} (payload : List UInt8) {token : List UInt8}
    (contentFormat : Format) (includeObserve : Bool) (observeValue : UInt16)
    (htoken : token.length ≤ tokenMaxLen)
    (hsegments : ∀ segment ∈ uriSegments, segment.length < UInt16.size)
    (hqueries : ∀ query ∈ uriQueries, query.length < UInt16.size) :
    buildMessage type method mid uriSegments uriQueries payload token contentFormat
        includeObserve observeValue =
      (requestedMessage type method mid uriSegments uriQueries payload token contentFormat
        includeObserve observeValue htoken).bytes ∧
    Ascending 0
      (requestedOptions uriSegments uriQueries contentFormat includeObserve observeValue) := by
  have hheader : ((1 : UInt8) <<< 6) ||| (type.value <<< 4) |||
      UInt8.ofNat (token.length &&& 0x0F) = headerByte type (UInt8.ofNat token.length) := by
    have hmask : token.length &&& 0x0F = token.length := by
      rw [Nat.and_two_pow_sub_one_eq_mod token.length 4]
      exact Nat.mod_eq_of_lt (Nat.lt_of_le_of_lt htoken (by decide))
    rw [hmask]
    rfl
  have hoptions := encoded_encodeAllOptions
    ([headerByte type (UInt8.ofNat token.length), method.value, highByte mid, lowByte mid] ++ token)
    contentFormat includeObserve observeValue hsegments hqueries
  refine ⟨?_, hoptions.ascending⟩
  simp only [buildMessage, hheader, hoptions.bytes, requestedMessage, Message.bytes,
    Message.header, Message.tokenLen, requestedPayload]
  split
  · simp only [encodePayload, List.append_assoc]
    rfl
  · simp only [encodePayload, List.append_assoc, List.append_nil]
    rfl

/-- The bytes of a POST to `foo/bar` with an Observe of 1. -/
example : buildMessage .con .post 0x1234 [[0x66, 0x6F, 0x6F], [0x62, 0x61, 0x72]] []
    [0xDE, 0xAD] [0xAA, 0xBB] .applicationCbor true 1 =
      [0x42, 0x02, 0x12, 0x34, 0xAA, 0xBB, 0x61, 0x01, 0x53, 0x66, 0x6F, 0x6F, 0x03, 0x62, 0x61,
        0x72, 0x11, 60, 0xFF, 0xDE, 0xAD] := by
  decide

/-! ## Messages as packets -/

/-- What the message says, if its options and payload are these. -/
def Message.packet (m : Message) (options : List Opt) (payload : Option (List UInt8)) :
    Packet where
  version := 1
  type := m.type.value.toNat
  code := m.code
  mid := m.mid.toNat
  token := m.token
  options := options
  payload := payload

theorem headerByte_toNat (type : MessageType) {tokenLen : UInt8} (h : tokenLen ≤ 8) :
    (headerByte type tokenLen).toNat = 64 + 16 * type.value.toNat + tokenLen.toNat := by
  revert tokenLen
  cases type <;> decide +kernel

/-- The reference decoder on a message: what is left to decode is the block that
the header does not tell apart. -/
theorem decode_bytes (m : Message) :
    CoapFormat.decode m.bytes =
      (decodeOptions 0 m.rest).map fun r ↦ m.packet r.1 r.2 := by
  have hheader := headerByte_toNat m.type m.tokenLen_le
  have htoken := m.token_length
  have htype : m.type.value.toNat < 4 := by cases m.type <;> decide
  rw [Message.tokenLen_toNat] at hheader
  unfold tokenMaxLen at htoken
  have hversion : (headerByte m.type m.tokenLen).toNat / 64 = 1 := by omega
  have hkind : (headerByte m.type m.tokenLen).toNat / 16 % 4 = m.type.value.toNat := by omega
  have hlength : (headerByte m.type m.tokenLen).toNat % 16 = m.token.length := by omega
  have hmid : 256 * (highByte m.mid).toNat + (lowByte m.mid).toNat = m.mid.toNat := by
    rw [highByte_toNat, lowByte_toNat]
    omega
  rw [← List.append_nil m.bytes, Message.bytes_append, List.append_nil]
  simp only [CoapFormat.decode, hversion, hkind, hlength, hmid, htoken,
    List.length_append, Nat.le_add_right, and_self, if_true, List.drop_left, List.take_left]
  rfl

/-- **The encoder meets the format.**  What `buildMessage` writes is decoded, and
to what it was asked to write: version 1, the type, the code of the method, the
message id, the token, the requested options with the requested values in the
requested order, and the payload of a POST, if there is one. -/
theorem decode_buildMessage (type : MessageType) (method : Method) (mid : UInt16)
    {uriSegments uriQueries : List (List UInt8)} (payload : List UInt8) {token : List UInt8}
    (contentFormat : Format) (includeObserve : Bool) (observeValue : UInt16)
    (htoken : token.length ≤ tokenMaxLen)
    (hsegments : ∀ segment ∈ uriSegments, segment.length < UInt16.size)
    (hqueries : ∀ query ∈ uriQueries, query.length < UInt16.size) :
    CoapFormat.decode (buildMessage type method mid uriSegments uriQueries payload token
        contentFormat includeObserve observeValue) =
      some
        { version := 1
          type := type.value.toNat
          code := method.value
          mid := mid.toNat
          token := token
          options :=
            requestedOptions uriSegments uriQueries contentFormat includeObserve observeValue
          payload := requestedPayload method payload } := by
  obtain ⟨hbytes, hascending⟩ := buildMessage_eq type method mid payload contentFormat
    includeObserve observeValue htoken hsegments hqueries
  have hrest := CoapFormat.decodeOptions_eq_some_iff.mpr
    ⟨rfl, hascending, requestedPayload_ne method payload⟩
  rw [hbytes, decode_bytes, requestedMessage, hrest]
  rfl

/-- A Confirmable POST of `a/bcdefghijklmnop?q` with an Observe of 300. -/
theorem decode_buildMessage_post :
    CoapFormat.decode (buildMessage .con .post 0x1234
        [[0x61], [98, 99, 100, 101, 102, 103, 104, 105, 106, 107, 108, 109, 110, 111, 112]] [[0x71]]
        [0xDE, 0xAD] [0xAA, 0xBB] .applicationCbor true 300) =
      some
        { version := 1
          type := 0
          code := 0x02
          mid := 0x1234
          token := [0xAA, 0xBB]
          options :=
            [⟨6, uintBytes 300⟩, ⟨11, [0x61]⟩,
              ⟨11, [98, 99, 100, 101, 102, 103, 104, 105, 106, 107, 108, 109, 110, 111, 112]⟩,
              ⟨12, uintBytes 60⟩, ⟨15, [0x71]⟩]
          payload := some [0xDE, 0xAD] } :=
  decode_buildMessage .con .post 0x1234 [0xDE, 0xAD] .applicationCbor true 300
    (by decide) (by decide) (by decide)

end FortAgent.Coap
