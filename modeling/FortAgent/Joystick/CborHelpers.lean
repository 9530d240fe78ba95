import FortAgent.Joystick.Battery
import FortAgent.Lib.Cbor

/-!
# The CBOR helpers

Each helper of `CBORHelpers` allocates a buffer, makes some calls on an encoder of tinycbor
over it, and cuts the buffer to what has been written.  It looks at no error, so the buffer
has to be large enough.  It is in all helpers but one: `cborEncodeFileMetadata` has a fixed
number of bytes for three heads that grow with their arguments
(`wholeEncoding_iff`).
-/

namespace FortAgent.Joystick

open Cbor (shortHead shortString shortInt headLength)

/-! ## The library -/

/-- The functions of tinycbor that the helpers call, on encoders together with the buffers
they write to.  `createArray` and `createMap` give the encoder of the container. -/
structure TinycborEncoder where
  Encoder : Type
  /-- `cbor_encoder_init`, on a buffer of this size. -/
  init : ℕ → Encoder
  encodeUint : Encoder → UInt64 → Encoder
  encodeInt : Encoder → Int64 → Encoder
  encodeTextStringz : Encoder → List UInt8 → Encoder
  encodeByteString : Encoder → List UInt8 → Encoder
  createArray : Encoder → ℕ → Encoder
  createMap : Encoder → ℕ → Encoder
  closeContainer : Encoder → Encoder → Encoder
  getBufferSize : Encoder → ℕ
  buffer : Encoder → List UInt8

/-- The characters before the NUL that `c_str` puts behind a string, or before one in it. -/
def cString (s : List UInt8) : List UInt8 := s.takeWhile (· != 0)

namespace TinycborEncoder

/-- The documented behaviour: a function writes its item behind what has been written
before, with the shortest heads.  As long as the buffer is large enough, what has been
written is at its front, and its size is what `cbor_encoder_get_buffer_size` says. -/
structure Documented (lib : TinycborEncoder) where
  /-- An encoder over a buffer of this size has been asked to write these bytes. -/
  Asked : lib.Encoder → ℕ → List UInt8 → Prop
  init (size : ℕ) : Asked (lib.init size) size []
  encodeUint {enc : lib.Encoder} {size : ℕ} {bytes : List UInt8} (h : Asked enc size bytes)
    (value : UInt64) : Asked (lib.encodeUint enc value) size (bytes ++ shortHead 0 value.toNat)
  encodeInt {enc : lib.Encoder} {size : ℕ} {bytes : List UInt8} (h : Asked enc size bytes)
    (value : Int64) : Asked (lib.encodeInt enc value) size (bytes ++ shortInt value.toInt)
  encodeTextStringz {enc : lib.Encoder} {size : ℕ} {bytes : List UInt8}
    (h : Asked enc size bytes) (s : List UInt8) :
    Asked (lib.encodeTextStringz enc s) size (bytes ++ shortString 3 (cString s))
  encodeByteString {enc : lib.Encoder} {size : ℕ} {bytes : List UInt8}
    (h : Asked enc size bytes) (s : List UInt8) :
    Asked (lib.encodeByteString enc s) size (bytes ++ shortString 2 s)
  createArray {enc : lib.Encoder} {size : ℕ} {bytes : List UInt8} (h : Asked enc size bytes)
    (n : ℕ) : Asked (lib.createArray enc n) size (bytes ++ shortHead 4 n)
  createMap {enc : lib.Encoder} {size : ℕ} {bytes : List UInt8} (h : Asked enc size bytes)
    (n : ℕ) : Asked (lib.createMap enc n) size (bytes ++ shortHead 5 n)
  closeContainer {container : lib.Encoder} {size : ℕ} {bytes : List UInt8}
    (h : Asked container size bytes) (enc : lib.Encoder) :
    Asked (lib.closeContainer enc container) size bytes
  getBufferSize {enc : lib.Encoder} {size : ℕ} {bytes : List UInt8} (h : Asked enc size bytes)
    (hfits : bytes.length ≤ size) : lib.getBufferSize enc = bytes.length
  buffer {enc : lib.Encoder} {size : ℕ} {bytes : List UInt8} (h : Asked enc size bytes)
    (hfits : bytes.length ≤ size) : bytes <+: lib.buffer enc

end TinycborEncoder

/-- An encoder that is the size of its buffer and what is to be written. -/
def referenceEncoder : TinycborEncoder where
  Encoder := ℕ × List UInt8
  init size := (size, [])
  encodeUint enc value := (enc.1, enc.2 ++ shortHead 0 value.toNat)
  encodeInt enc value := (enc.1, enc.2 ++ shortInt value.toInt)
  encodeTextStringz enc s := (enc.1, enc.2 ++ shortString 3 (cString s))
  encodeByteString enc s := (enc.1, enc.2 ++ shortString 2 s)
  createArray enc n := (enc.1, enc.2 ++ shortHead 4 n)
  createMap enc n := (enc.1, enc.2 ++ shortHead 5 n)
  closeContainer _ container := container
  getBufferSize enc := enc.2.length
  buffer enc := (enc.2 ++ List.replicate enc.1 0).take enc.1

def referenceEncoder.documented : referenceEncoder.Documented where
  Asked enc size bytes := enc = (size, bytes)
  init _ := rfl
  encodeUint h _ := by rw [h]; rfl
  encodeInt h _ := by rw [h]; rfl
  encodeTextStringz h _ := by rw [h]; rfl
  encodeByteString h _ := by rw [h]; rfl
  createArray h _ := by rw [h]; rfl
  createMap h _ := by rw [h]; rfl
  closeContainer h _ := h
  getBufferSize h _ := by rw [h]; rfl
  buffer h hfits := by
    rw [h]
    exact List.prefix_take_iff.mpr ⟨List.prefix_append _ _, hfits⟩

/-! ## The helpers -/

/-- The size of the buffer that a helper allocates, and the calls it makes on the encoder. -/
structure CborHelper (lib : TinycborEncoder) where
  size : ℕ
  calls : lib.Encoder → lib.Encoder

/-- `buf.resize(n)`. -/
def resize (bytes : List UInt8) (n : ℕ) : List UInt8 :=
  bytes.take n ++ List.replicate (n - bytes.length) 0

/-- The bytes that a helper returns. -/
def CborHelper.bytes {lib : TinycborEncoder} (helper : CborHelper lib) : List UInt8 :=
  let enc := helper.calls (lib.init helper.size)
  resize (lib.buffer enc) (lib.getBufferSize enc)

/-- `UserSettingKey`. -/
inductive UserSettingKey
  | displayMode | vibrateLeft | vibrateRight | vibrateBoth
deriving DecidableEq, Repr

def UserSettingKey.value : UserSettingKey → UInt8
  | displayMode => 99
  | vibrateLeft => 10
  | vibrateRight => 11
  | vibrateBoth => 12

section Helpers

variable (lib : TinycborEncoder)

def cborEncodeUint (value : UInt64) : CborHelper lib := ⟨16, fun enc ↦ lib.encodeUint enc value⟩

def cborEncodeUint32 (value : UInt32) : CborHelper lib :=
  ⟨8, fun enc ↦ lib.encodeUint enc value.toUInt64⟩

def cborEncodeInt (value : Int64) : CborHelper lib := ⟨16, fun enc ↦ lib.encodeInt enc value⟩

def cborEncodeText (s : List UInt8) : CborHelper lib :=
  ⟨s.length + 16, fun enc ↦ lib.encodeTextStringz enc s⟩

def cborEncodeByteString (bytes : List UInt8) : CborHelper lib :=
  ⟨bytes.length + 16, fun enc ↦ lib.encodeByteString enc bytes⟩

def encodeUserSettings (key : UserSettingKey) (value : UInt32) : CborHelper lib :=
  ⟨32, fun enc ↦
    let array := lib.createArray enc 2
    let array := lib.encodeUint array key.value.toUInt64
    let array := lib.encodeUint array value.toUInt64
    lib.closeContainer enc array⟩

/-- `{ "filename": <text>, "length": <uint>, "crc32": <uint> }` -/
def cborEncodeFileMetadata (filename : List UInt8) (length crc32 : UInt32) : CborHelper lib :=
  ⟨filename.length + 32, fun enc ↦
    let mapEnc := lib.createMap enc 3
    let mapEnc := lib.encodeTextStringz mapEnc (ascii "filename")
    let mapEnc := lib.encodeTextStringz mapEnc filename
    let mapEnc := lib.encodeTextStringz mapEnc (ascii "length")
    let mapEnc := lib.encodeUint mapEnc length.toUInt64
    let mapEnc := lib.encodeTextStringz mapEnc (ascii "crc32")
    let mapEnc := lib.encodeUint mapEnc crc32.toUInt64
    lib.closeContainer enc mapEnc⟩

/-- `{ "display_text": [ line, segment, "payload" ] }` -/
def cborEncodeDisplaySegment (line segment : UInt8) (text6 : List UInt8) : CborHelper lib :=
  let t := text6.take (min 6 text6.length)
  ⟨t.length + 32, fun enc ↦
    let mapEnc := lib.createMap enc 1
    let mapEnc := lib.encodeTextStringz mapEnc (ascii "display_text")
    let arrEnc := lib.createArray mapEnc 3
    let arrEnc := lib.encodeUint arrEnc line.toUInt64
    let arrEnc := lib.encodeUint arrEnc segment.toUInt64
    let arrEnc := lib.encodeTextStringz arrEnc t
    let mapEnc := lib.closeContainer mapEnc arrEnc
    lib.closeContainer enc mapEnc⟩

/-- The byte string of `cborEncodeTwoLines18`. -/
def twoLines18 (l0 l1 : List UInt8) (upperHalf : Bool) : List UInt8 :=
  let s0 := l0.take (min 18 l0.length)
  let s1 := l1.take (min 18 l1.length)
  s0 ++ s1 ++ [if upperHalf then 1 else 0]

def cborEncodeTwoLines18 (l0 l1 : List UInt8) (upperHalf : Bool) : CborHelper lib :=
  cborEncodeByteString lib (twoLines18 l0 l1 upperHalf)

end Helpers

/-- A call of a helper. -/
inductive CborCall
  | uint (value : UInt64)
  | uint32 (value : UInt32)
  | int (value : Int64)
  | text (s : List UInt8)
  | byteString (bytes : List UInt8)
  | userSettings (key : UserSettingKey) (value : UInt32)
  | fileMetadata (filename : List UInt8) (length crc32 : UInt32)
  | displaySegment (line segment : UInt8) (text6 : List UInt8)
  | twoLines18 (l0 l1 : List UInt8) (upperHalf : Bool)

namespace CborCall

/-- The helper that is called. -/
def helper (lib : TinycborEncoder) : CborCall → CborHelper lib
  | uint value => cborEncodeUint lib value
  | uint32 value => cborEncodeUint32 lib value
  | int value => cborEncodeInt lib value
  | text s => cborEncodeText lib s
  | byteString bytes => cborEncodeByteString lib bytes
  | userSettings key value => encodeUserSettings lib key value
  | fileMetadata filename length crc32 => cborEncodeFileMetadata lib filename length crc32
  | displaySegment line segment text6 => cborEncodeDisplaySegment lib line segment text6
  | twoLines18 l0 l1 upperHalf => cborEncodeTwoLines18 lib l0 l1 upperHalf

/-- The whole encoding. -/
def encoding : CborCall → List UInt8
  | uint value => shortHead 0 value.toNat
  | uint32 value => shortHead 0 value.toNat
  | int value => shortInt value.toInt
  | text s => shortString 3 (cString s)
  | byteString bytes => shortString 2 bytes
  | userSettings key value =>
    shortHead 4 2 ++ shortHead 0 key.value.toNat ++ shortHead 0 value.toNat
  | fileMetadata filename length crc32 =>
    shortHead 5 3 ++ shortString 3 (ascii "filename") ++ shortString 3 (cString filename) ++
      shortString 3 (ascii "length") ++ shortHead 0 length.toNat ++
        shortString 3 (ascii "crc32") ++ shortHead 0 crc32.toNat
  | displaySegment line segment text6 =>
    shortHead 5 1 ++ shortString 3 (ascii "display_text") ++ shortHead 4 3 ++
      shortHead 0 line.toNat ++ shortHead 0 segment.toNat ++
        shortString 3 (cString (text6.take 6))
  | twoLines18 l0 l1 upperHalf => shortString 2 (Joystick.twoLines18 l0 l1 upperHalf)

/-- The buffer is large enough.  Only in `cborEncodeFileMetadata` there is something to ask:
there are 9 bytes more than the file name for the heads of its three values. -/
def Fits : CborCall → Prop
  | fileMetadata filename length crc32 =>
    headLength (cString filename).length + headLength length.toNat + headLength crc32.toNat +
      (cString filename).length ≤ filename.length + 9
  | _ => True

end CborCall

/-! ## What is written -/

section Documented

variable {lib : TinycborEncoder} (docs : lib.Documented)

/-- The helper writes an encoding, its buffer is at least as long, and what it returns is
the whole encoding. -/
structure CborHelper.Whole (helper : CborHelper lib) (encoding : List UInt8) : Prop where
  asked : docs.Asked (helper.calls (lib.init helper.size)) helper.size encoding
  fits : encoding.length ≤ helper.size
  returned : helper.bytes = encoding

/-- A buffer that is large enough is cut to what has been written. -/
theorem CborHelper.whole_iff {helper : CborHelper lib} {encoding : List UInt8}
    (hasked : docs.Asked (helper.calls (lib.init helper.size)) helper.size encoding) :
    helper.Whole docs encoding ↔ encoding.length ≤ helper.size := by
  refine ⟨Whole.fits, fun hfits ↦ ⟨hasked, hfits, ?_⟩⟩
  obtain ⟨rest, hrest⟩ := docs.buffer hasked hfits
  have hlength : encoding.length - (encoding ++ rest).length = 0 :=
    Nat.sub_eq_zero_of_le (by simp)
  rw [bytes, resize, docs.getBufferSize hasked hfits, ← hrest, hlength, List.take_left,
    List.replicate_zero, List.append_nil]

/-- **What a helper writes** is the encoding of its arguments. -/
theorem CborCall.asked (call : CborCall) :
    docs.Asked ((call.helper lib).calls (lib.init (call.helper lib).size)) (call.helper lib).size
      call.encoding := by
  have hinit := docs.init (call.helper lib).size
  cases call with
  | uint value => exact docs.encodeUint hinit value
  | uint32 value => exact docs.encodeUint hinit value.toUInt64
  | int value => exact docs.encodeInt hinit value
  | text s => exact docs.encodeTextStringz hinit s
  | byteString bytes => exact docs.encodeByteString hinit bytes
  | userSettings key value =>
      have harray := docs.createArray hinit 2
      have hkey := docs.encodeUint harray key.value.toUInt64
      have hvalue := docs.encodeUint hkey value.toUInt64
      exact docs.closeContainer hvalue _
  | fileMetadata filename length crc32 =>
      have hmap := docs.createMap hinit 3
      have hfilename := docs.encodeTextStringz (docs.encodeTextStringz hmap (ascii "filename"))
        filename
      have hlength := docs.encodeUint (docs.encodeTextStringz hfilename (ascii "length"))
        length.toUInt64
      have hcrc32 := docs.encodeUint (docs.encodeTextStringz hlength (ascii "crc32"))
        crc32.toUInt64
      exact docs.closeContainer hcrc32 _
  | displaySegment line segment text6 =>
      have hmap := docs.encodeTextStringz (docs.createMap hinit 1) (ascii "display_text")
      have harray := docs.createArray hmap 3
      have hnumbers := docs.encodeUint (docs.encodeUint harray line.toUInt64) segment.toUInt64
      have htext := docs.encodeTextStringz hnumbers (text6.take (min 6 text6.length))
      rw [encoding, List.take_eq_take_min]
      exact docs.closeContainer (docs.closeContainer htext _) _
  | twoLines18 l0 l1 upperHalf => exact docs.encodeByteString hinit _

theorem length_cString_le (s : List UInt8) : (cString s).length ≤ s.length :=
  (List.takeWhile_sublist _).length_le

/-- The head of a number of 32 bits. -/
theorem headLength_uint32_le (value : UInt32) : headLength value.toNat ≤ 5 :=
  Cbor.headLength_mono (Nat.le_of_lt_succ value.toNat_lt)

/-- The head of a number of 8 bits. -/
theorem headLength_uint8_le (value : UInt8) : headLength value.toNat ≤ 2 :=
  Cbor.headLength_mono (Nat.le_of_lt_succ value.toNat_lt)

/-- **When the buffer is large enough.** -/
theorem CborCall.length_encoding_le_iff (call : CborCall) :
    call.encoding.length ≤ (call.helper lib).size ↔ call.Fits := by
  cases call with
  | uint value =>
      have hhead := Cbor.headLength_le_nine value.toNat
      refine iff_of_true ?_ trivial
      simp only [encoding, helper, cborEncodeUint, Cbor.length_shortHead]
      omega
  | uint32 value =>
      have hhead := headLength_uint32_le value
      refine iff_of_true ?_ trivial
      simp only [encoding, helper, cborEncodeUint32, Cbor.length_shortHead]
      omega
  | int value =>
      refine iff_of_true (Nat.le_trans (Cbor.length_shortInt_le_nine value.toInt) ?_) trivial
      simp only [helper, cborEncodeInt]
      omega
  | text s =>
      have hhead := Cbor.headLength_le_nine (cString s).length
      have hlength := length_cString_le s
      refine iff_of_true ?_ trivial
      simp only [encoding, helper, cborEncodeText, Cbor.length_shortString]
      omega
  | byteString bytes =>
      have hhead := Cbor.headLength_le_nine bytes.length
      refine iff_of_true ?_ trivial
      simp only [encoding, helper, cborEncodeByteString, Cbor.length_shortString]
      omega
  | userSettings key value =>
      have harray : headLength 2 = 1 := rfl
      have hkey := headLength_uint8_le key.value
      have hvalue := headLength_uint32_le value
      refine iff_of_true ?_ trivial
      simp only [encoding, helper, encodeUserSettings, List.length_append,
        Cbor.length_shortHead]
      omega
  | fileMetadata filename length crc32 =>
      have hmap : (shortHead 5 3).length = 1 := rfl
      have hfilename : (shortString 3 (ascii "filename")).length = 9 := rfl
      have hlength : (shortString 3 (ascii "length")).length = 7 := rfl
      have hcrc32 : (shortString 3 (ascii "crc32")).length = 6 := rfl
      rw [Fits]
      simp only [encoding, helper, cborEncodeFileMetadata, List.length_append, hmap, hfilename,
        hlength, hcrc32, Cbor.length_shortHead, Cbor.length_shortString]
      omega
  | displaySegment line segment text6 =>
      have hmap : (shortHead 5 1).length = 1 := rfl
      have hname : (shortString 3 (ascii "display_text")).length = 13 := rfl
      have harray : (shortHead 4 3).length = 1 := rfl
      have hline := headLength_uint8_le line
      have hsegment := headLength_uint8_le segment
      have htext := Cbor.headLength_le_nine (cString (text6.take 6)).length
      have hlength := length_cString_le (text6.take 6)
      refine iff_of_true ?_ trivial
      simp only [encoding, helper, cborEncodeDisplaySegment, List.length_append, hmap, hname,
        harray, Cbor.length_shortHead, Cbor.length_shortString, List.length_take] at hlength ⊢
      omega
  | twoLines18 l0 l1 upperHalf =>
      have hhead := Cbor.headLength_le_nine (Joystick.twoLines18 l0 l1 upperHalf).length
      refine iff_of_true ?_ trivial
      simp only [encoding, helper, cborEncodeTwoLines18, cborEncodeByteString,
        Cbor.length_shortString]
      omega

/-- **Whole encodings.**  A helper returns the whole encoding of its arguments, from a buffer
that is at least as long, exactly if the heads of a file's name, length and CRC fit. -/
theorem wholeEncoding_iff (call : CborCall) :
    (call.helper lib).Whole docs call.encoding ↔ call.Fits := by
  rw [CborHelper.whole_iff docs (call.asked docs), call.length_encoding_le_iff]

end Documented

/-- The file name `fw.bin`. -/
def firmwareName : List UInt8 := ascii "fw.bin"

theorem wholeEncoding_iff_small :
    (cborEncodeFileMetadata referenceEncoder firmwareName 1000 0xDEADBEEF).Whole
      referenceEncoder.documented
      (CborCall.fileMetadata firmwareName 1000 0xDEADBEEF).encoding :=
  (wholeEncoding_iff referenceEncoder.documented
    (.fileMetadata firmwareName 1000 0xDEADBEEF)).mpr (by unfold CborCall.Fits; decide)

/-- The metadata of a file of 70000 bytes need 40 bytes, in a buffer of 38. -/
theorem metadata_truncated :
    ¬∀ (lib : TinycborEncoder) (docs : lib.Documented) (call : CborCall),
      (call.helper lib).Whole docs call.encoding := by
  intro h
  have hfits := (h referenceEncoder referenceEncoder.documented
    (.fileMetadata firmwareName 70000 0xDEADBEEF)).fits
  exact absurd hfits (by decide +kernel)

/-! ## The two lines -/

/-- A line of 18 characters: the first of a string, and as many more as are missing. -/
def paddedLine (pad : UInt8) (l : List UInt8) : List UInt8 :=
  l.take 18 ++ List.replicate (18 - l.length) pad

/-- The payload has 37 bytes: the first line, the second line behind it, and the half. -/
structure Layout (l0 l1 : List UInt8) (upperHalf : Bool) (pad : UInt8) : Prop where
  length : (twoLines18 l0 l1 upperHalf).length = 37
  line0 : (twoLines18 l0 l1 upperHalf).take 18 = paddedLine pad l0
  line1 : ((twoLines18 l0 l1 upperHalf).drop 18).take 18 = paddedLine pad l1
  half : (twoLines18 l0 l1 upperHalf).drop 36 = [if upperHalf then 1 else 0]

/-- No other pair of lines, cut to 18 characters, has the same payload. -/
def Distinguished (l0 l1 : List UInt8) (upperHalf : Bool) : Prop :=
  ∀ l0' l1' upperHalf', (l0'.take 18, l1'.take 18) ≠ (l0.take 18, l1.take 18) →
    twoLines18 l0' l1' upperHalf' ≠ twoLines18 l0 l1 upperHalf

theorem twoLines18_eq (l0 l1 : List UInt8) (upperHalf : Bool) :
    twoLines18 l0 l1 upperHalf = l0.take 18 ++ (l1.take 18 ++ [if upperHalf then 1 else 0]) := by
  rw [twoLines18, ← List.take_eq_take_min, ← List.take_eq_take_min, List.append_assoc]

theorem length_twoLines18 (l0 l1 : List UInt8) (upperHalf : Bool) :
    (twoLines18 l0 l1 upperHalf).length = min 18 l0.length + min 18 l1.length + 1 := by
  rw [twoLines18_eq, List.length_append, List.length_append, List.length_take, List.length_take,
    List.length_singleton, Nat.add_assoc]

/-- The payload has its full length exactly if both lines have. -/
theorem length_twoLines18_eq_iff (l0 l1 : List UInt8) (upperHalf : Bool) :
    (twoLines18 l0 l1 upperHalf).length = 37 ↔ 18 ≤ l0.length ∧ 18 ≤ l1.length := by
  rw [length_twoLines18]
  omega

theorem paddedLine_of_le {l : List UInt8} (h : 18 ≤ l.length) (pad : UInt8) :
    paddedLine pad l = l.take 18 := by
  rw [paddedLine, Nat.sub_eq_zero_of_le h, List.replicate_zero, List.append_nil]

theorem layout_of_le {l0 l1 : List UInt8} (h0 : 18 ≤ l0.length) (h1 : 18 ≤ l1.length)
    (upperHalf : Bool) (pad : UInt8) : Layout l0 l1 upperHalf pad := by
  have hlength0 : (l0.take 18).length = 18 := List.length_take_of_le h0
  have hlength1 : (l1.take 18).length = 18 := List.length_take_of_le h1
  have hlines : (l0.take 18 ++ l1.take 18).length = 36 := by
    rw [List.length_append, hlength0, hlength1]
  refine ⟨(length_twoLines18_eq_iff l0 l1 upperHalf).mpr ⟨h0, h1⟩, ?_, ?_, ?_⟩
  · rw [twoLines18_eq, List.take_left' hlength0, paddedLine_of_le h0]
  · rw [twoLines18_eq, List.drop_left' hlength0, List.take_left' hlength1, paddedLine_of_le h1]
  · rw [twoLines18_eq, ← List.append_assoc, List.drop_left' hlines]

theorem distinguished_of_le {l0 l1 : List UInt8} (h0 : 18 ≤ l0.length) (h1 : 18 ≤ l1.length)
    (upperHalf : Bool) : Distinguished l0 l1 upperHalf := by
  intro l0' l1' upperHalf' hne hsame
  have hlength := (length_twoLines18_eq_iff l0 l1 upperHalf).mpr ⟨h0, h1⟩
  rw [← hsame] at hlength
  obtain ⟨h0', h1'⟩ := (length_twoLines18_eq_iff l0' l1' upperHalf').mp hlength
  rw [twoLines18_eq, twoLines18_eq] at hsame
  obtain ⟨hline0, hrest⟩ := List.append_inj hsame
    (by rw [List.length_take_of_le h0, List.length_take_of_le h0'])
  obtain ⟨hline1, -⟩ := List.append_inj hrest
    (by rw [List.length_take_of_le h1, List.length_take_of_le h1'])
  exact hne (Prod.ext hline0 hline1)

/-- **Two lines.**  The payload has its layout, with whatever padding, and no other lines
have it too, exactly if none of the two lines is shorter than 18 characters. -/
theorem twoLines_iff (l0 l1 : List UInt8) (upperHalf : Bool) :
    ((∃ pad, Layout l0 l1 upperHalf pad) ∧ Distinguished l0 l1 upperHalf) ↔
      18 ≤ l0.length ∧ 18 ≤ l1.length := by
  constructor
  · rintro ⟨⟨pad, hlayout⟩, -⟩
    exact (length_twoLines18_eq_iff l0 l1 upperHalf).mp hlayout.length
  · rintro ⟨h0, h1⟩
    exact ⟨⟨0, layout_of_le h0 h1 upperHalf 0⟩, distinguished_of_le h0 h1 upperHalf⟩

/-- The lines `ab` and `c` have a payload of four bytes, and so have the lines `a` and
`bc`. -/
theorem short_lines_collide :
    ¬∀ l0 l1 upperHalf, (∃ pad, Layout l0 l1 upperHalf pad) ∧ Distinguished l0 l1 upperHalf := by
  intro h
  have hdistinguished := (h [97, 98] [99] true).2
  exact hdistinguished [97] [98, 99] true (by decide) (by decide)

end FortAgent.Joystick
