import FortAgent.Basic
import FortAgent.Lib.Memory

/-!
# CoAP headers

The accessors of `coapHelpers`, over the bytes of a buffer, and the `Message`s
they give access to.  An accessor reads at fixed positions without knowing the
length of the buffer, so it is partial; `Stop` is how a function that uses them
can fail to return: by an exception of the source, or by undefined behaviour.

A `Message` is a datagram as `looksLikeCoap` accepts it, with the token apart
and its length bounded; options and payload are kept as one block `rest`, which
nothing here looks into.  `looksLikeCoap_iff` says that the accepted buffers are
exactly those that begin with the bytes of a message, and the lemmas after it
say what each accessor reads there.
-/

namespace FortAgent.Coap

open Memory

/-! ## Constants and types -/

def minLen : Nat := 4

def tokenMaxLen : Nat := 8

def tokenStartIndex : Nat := 4

/-- `Coap::Type`. -/
inductive MessageType
  | con | non | ack | rst
deriving DecidableEq, Repr

/-- The value of an enumerator. -/
def MessageType.value : MessageType → UInt8
  | .con => 0
  | .non => 1
  | .ack => 2
  | .rst => 3

/-- `static_cast<Coap::Type>` of a two-bit value. -/
def MessageType.ofValue (bits : UInt8) : MessageType :=
  if bits = 0 then .con else if bits = 1 then .non else if bits = 2 then .ack else .rst

/-- The ways in which a call does not return. -/
inductive Stop
  | coapException (what : String)
  | undefined
deriving DecidableEq, Repr

/-! ## Reading a header -/

def getCoapType (coapBuffer : List UInt8) : Option MessageType := do
  let header ← coapBuffer[0]?
  return .ofValue ((header >>> 4) &&& 0x3)

def getTokenLength (coapBuffer : List UInt8) : Option UInt8 := do
  let header ← coapBuffer[0]?
  return header &&& 0x0f

def getCode (coapBuffer : List UInt8) : Option UInt8 := coapBuffer[1]?

/-- The `codeClass` that `getCode` reports. -/
def codeClass (code : UInt8) : UInt8 := (code >>> 5) &&& 0x7

/-- The `codeDetail` that `getCode` reports. -/
def codeDetail (code : UInt8) : UInt8 := code &&& 0x1f

/-- `isEmpty` of a code. -/
def codeIsEmpty (code : UInt8) : Bool := code == 0

/-- `isRequest` of a code. -/
def codeIsRequest (code : UInt8) : Bool := codeClass code == 0 && 1 ≤ codeDetail code

/-- `isResponse` of a code. -/
def codeIsResponse (code : UInt8) : Bool := 2 ≤ codeClass code && codeClass code ≤ 5

def isEmpty (coapBuffer : List UInt8) : Option Bool := (getCode coapBuffer).map codeIsEmpty

def isRequest (coapBuffer : List UInt8) : Option Bool := (getCode coapBuffer).map codeIsRequest

def isResponse (coapBuffer : List UInt8) : Option Bool := (getCode coapBuffer).map codeIsResponse

/-- The two bytes are read most significant first. -/
def getMid (coapBuffer : List UInt8) : Option UInt16 := do
  let high ← coapBuffer[2]?
  let low ← coapBuffer[3]?
  return wordOf low high

def looksLikeCoap (buffer : List UInt8) (len : Nat) : Option Bool := do
  let tokenLen := (← getTokenLength buffer).toNat
  let header ← buffer[0]?
  return minLen + tokenLen ≤ len && header &&& 0xC0 == 0x40 && tokenLen ≤ tokenMaxLen

/-! ## Writing a header -/

/-- The header byte with its low four bits replaced. -/
def withTokenLength (header tokenLen : UInt8) : UInt8 := (header &&& 0xf0) ||| (tokenLen &&& 0x0f)

def setTokenLength (coapBuffer : List UInt8) (tokenLen : UInt8) : Except Stop (List UInt8) :=
  if 8 < tokenLen then
    .error (.coapException s!"Attempted to set invalid token length ({tokenLen})")
  else
    match coapBuffer with
    | [] => .error .undefined
    | header :: rest => .ok (withTokenLength header tokenLen :: rest)

/-! ## Messages -/

/-- A CoAP message of version 1. -/
structure Message where
  type : MessageType
  code : UInt8
  mid : UInt16
  token : List UInt8
  /-- Options and payload. -/
  rest : List UInt8
  token_length : token.length ≤ tokenMaxLen
deriving DecidableEq, Repr

/-- The first byte of a message of this type with a token of this length. -/
def headerByte (type : MessageType) (tokenLen : UInt8) : UInt8 :=
  (0x40 : UInt8) ||| (type.value <<< 4) ||| tokenLen

namespace Message

/-- The number of bytes in the token. -/
def tokenLen (m : Message) : UInt8 := UInt8.ofNat m.token.length

/-- The four bytes in front of the token. -/
def header (m : Message) : List UInt8 :=
  [headerByte m.type m.tokenLen, m.code, highByte m.mid, lowByte m.mid]

/-- The datagram. -/
def bytes (m : Message) : List UInt8 := m.header ++ m.token ++ m.rest

/-- The message with another token. -/
def withToken (m : Message) (token : List UInt8) (h : token.length ≤ tokenMaxLen) : Message :=
  { m with token := token, token_length := h }

def isEmpty (m : Message) : Bool := codeIsEmpty m.code

def isRequest (m : Message) : Bool := codeIsRequest m.code

def isResponse (m : Message) : Bool := codeIsResponse m.code

end Message

/-! ## Facts about one byte

These range over the 256 values of a byte and are checked by evaluation. -/

instance decidableForallUInt8 {P : UInt8 → Prop} [DecidablePred P] : Decidable (∀ b, P b) :=
  decidable_of_iff (∀ b : BitVec 8, P (.ofBitVec b))
    ⟨fun h b ↦ h b.toBitVec, fun h b ↦ h (.ofBitVec b)⟩

/-- A header of version 1 whose token length is at most 8 is the header byte of
its own two fields. -/
theorem headerByte_of_version {header : UInt8} (hversion : header &&& 0xC0 = 0x40) :
    headerByte (.ofValue ((header >>> 4) &&& 0x3)) (header &&& 0x0f) = header := by
  revert header
  decide +kernel

theorem version_headerByte (type : MessageType) {tokenLen : UInt8} (h : tokenLen ≤ 8) :
    headerByte type tokenLen &&& 0xC0 = 0x40 := by
  revert tokenLen
  cases type <;> decide +kernel

theorem tokenLength_headerByte (type : MessageType) {tokenLen : UInt8} (h : tokenLen ≤ 8) :
    headerByte type tokenLen &&& 0x0f = tokenLen := by
  revert tokenLen
  cases type <;> decide +kernel

theorem type_headerByte (type : MessageType) {tokenLen : UInt8} (h : tokenLen ≤ 8) :
    .ofValue ((headerByte type tokenLen >>> 4) &&& 0x3) = type := by
  revert tokenLen
  cases type <;> decide +kernel

/-- Replacing the token length of a header byte. -/
theorem withTokenLength_headerByte (type : MessageType) {old new : UInt8} (hold : old ≤ 8)
    (hnew : new ≤ 8) : withTokenLength (headerByte type old) new = headerByte type new := by
  have hhigh : headerByte type old &&& (0xf0 : UInt8) = (0x40 : UInt8) ||| (type.value <<< 4) := by
    revert old
    cases type <;> decide +kernel
  have hlow : new &&& 0x0f = new := by
    revert new
    decide +kernel
  rw [withTokenLength, hhigh, hlow, headerByte]

theorem setTokenLength_headerByte (type : MessageType) {old new : UInt8} (hold : old ≤ 8)
    (hnew : new ≤ 8) (rest : List UInt8) :
    setTokenLength (headerByte type old :: rest) new = .ok (headerByte type new :: rest) := by
  have hle : ¬8 < new := UInt8.not_lt.mpr hnew
  simp only [setTokenLength, if_neg hle, withTokenLength_headerByte type hold hnew]

/-- A code is at most one of a request, a response and Empty. -/
theorem codeClasses_disjoint (code : UInt8) :
    !(codeIsRequest code && codeIsResponse code) && !(codeIsRequest code && codeIsEmpty code) &&
      !(codeIsResponse code && codeIsEmpty code) := by
  revert code
  decide +kernel

/-! ## The accessors on a message -/

namespace Message

variable (m : Message) (slack : List UInt8)

theorem tokenLen_toNat : m.tokenLen.toNat = m.token.length := by
  have h := m.token_length
  rw [tokenLen, UInt8.toNat_ofNat', Nat.mod_eq_of_lt (by simp only [tokenMaxLen] at h; omega)]

theorem tokenLen_le : m.tokenLen ≤ 8 := by
  rw [UInt8.le_iff_toNat_le, tokenLen_toNat]
  exact m.token_length

theorem length_header : m.header.length = tokenStartIndex := rfl

theorem length_bytes : m.bytes.length = minLen + m.token.length + m.rest.length := by
  simp only [bytes, List.length_append, length_header]
  rfl

theorem bytes_append : m.bytes ++ slack =
    headerByte m.type m.tokenLen :: m.code :: highByte m.mid :: lowByte m.mid ::
      (m.token ++ m.rest ++ slack) := by
  simp [bytes, header]

theorem isResponse_of_isRequest {m : Message} (h : m.isRequest = true) :
    m.isResponse = false := by
  have hdisjoint := codeClasses_disjoint m.code
  simp_all [isRequest, isResponse]

theorem isEmpty_of_isRequest {m : Message} (h : m.isRequest = true) : m.isEmpty = false := by
  have hdisjoint := codeClasses_disjoint m.code
  simp_all [isRequest, isEmpty]

theorem isRequest_of_isResponse {m : Message} (h : m.isResponse = true) :
    m.isRequest = false := by
  have hdisjoint := codeClasses_disjoint m.code
  simp_all [isRequest, isResponse]

theorem isEmpty_of_isResponse {m : Message} (h : m.isResponse = true) : m.isEmpty = false := by
  have hdisjoint := codeClasses_disjoint m.code
  simp_all [isResponse, isEmpty]

theorem isRequest_of_isEmpty {m : Message} (h : m.isEmpty = true) : m.isRequest = false := by
  have hdisjoint := codeClasses_disjoint m.code
  simp_all [isRequest, isEmpty]

theorem isResponse_of_isEmpty {m : Message} (h : m.isEmpty = true) : m.isResponse = false := by
  have hdisjoint := codeClasses_disjoint m.code
  simp_all [isResponse, isEmpty]

@[simp] theorem type_withToken (token : List UInt8) (h : token.length ≤ tokenMaxLen) :
    (m.withToken token h).type = m.type := rfl

@[simp] theorem getCoapType_bytes : getCoapType (m.bytes ++ slack) = some m.type := by
  simp [getCoapType, bytes_append, type_headerByte m.type m.tokenLen_le]

@[simp] theorem getTokenLength_bytes : getTokenLength (m.bytes ++ slack) = some m.tokenLen := by
  simp [getTokenLength, bytes_append, tokenLength_headerByte m.type m.tokenLen_le]

@[simp] theorem isEmpty_bytes : Coap.isEmpty (m.bytes ++ slack) = some m.isEmpty := by
  simp [Coap.isEmpty, getCode, bytes_append, isEmpty]

@[simp] theorem isRequest_bytes : Coap.isRequest (m.bytes ++ slack) = some m.isRequest := by
  simp [Coap.isRequest, getCode, bytes_append, isRequest]

@[simp] theorem isResponse_bytes : Coap.isResponse (m.bytes ++ slack) = some m.isResponse := by
  simp [Coap.isResponse, getCode, bytes_append, isResponse]

@[simp] theorem getMid_bytes : getMid (m.bytes ++ slack) = some m.mid := by
  simp [getMid, bytes_append]

@[simp] theorem looksLikeCoap_bytes :
    looksLikeCoap (m.bytes ++ slack) m.bytes.length = some true := by
  have hfirst : (m.bytes ++ slack)[0]? = some (headerByte m.type m.tokenLen) := by
    rw [bytes_append, List.getElem?_cons_zero]
  have hversion := version_headerByte m.type m.tokenLen_le
  have htoken := m.token_length
  rw [looksLikeCoap, getTokenLength_bytes, hfirst]
  simp [length_bytes, tokenLen_toNat, hversion, htoken]

/-- A message is determined by its bytes. -/
theorem bytes_injective {m m' : Message} (h : m.bytes = m'.bytes) : m = m' := by
  have htype : m.type = m'.type := by
    have heq := m.getCoapType_bytes []
    rw [h, getCoapType_bytes] at heq
    exact (Option.some.inj heq).symm
  have hmid : m.mid = m'.mid := by
    have heq := m.getMid_bytes []
    rw [h, getMid_bytes] at heq
    exact (Option.some.inj heq).symm
  have hlength : m.token.length = m'.token.length := by
    have heq := m.getTokenLength_bytes []
    rw [h, getTokenLength_bytes] at heq
    rw [← tokenLen_toNat, ← tokenLen_toNat, Option.some.inj heq]
  obtain ⟨hhead, hrest⟩ := List.append_inj' h (by
    have heq := congrArg List.length h
    rw [length_bytes, length_bytes] at heq
    omega)
  obtain ⟨hheader, htoken⟩ := List.append_inj hhead rfl
  have hcode : m.code = m'.code := by
    simp only [header, List.cons.injEq] at hheader
    exact hheader.2.1
  obtain ⟨type, code, mid, token, rest, _⟩ := m
  obtain ⟨type', code', mid', token', rest', _⟩ := m'
  simp_all

end Message

/-- The datagram of length `len` in `buffer` is the message `m`. -/
def Holds (buffer : List UInt8) (len : Nat) (m : Message) : Prop :=
  ∃ slack, buffer = m.bytes ++ slack ∧ len = m.bytes.length

/-- A buffer holds at most one message. -/
theorem Holds.unique {buffer : List UInt8} {len : Nat} {m m' : Message} (h : Holds buffer len m)
    (h' : Holds buffer len m') : m = m' := by
  obtain ⟨slack, hbuffer, hlen⟩ := h
  obtain ⟨slack', hbuffer', hlen'⟩ := h'
  exact Message.bytes_injective
    (List.append_inj (hbuffer.symm.trans hbuffer') (hlen.symm.trans hlen')).1

/-- A buffer in which a header of version 1 is followed by as many bytes as it
asks for holds a message. -/
theorem exists_holds {header code high low : UInt8} {body : List UInt8} {len : Nat}
    (hversion : header &&& 0xC0 = 0x40) (hmax : (header &&& 0x0f).toNat ≤ tokenMaxLen)
    (hmin : minLen + (header &&& 0x0f).toNat ≤ len) (hlen : len ≤ body.length + 4) :
    ∃ m, Holds (header :: code :: high :: low :: body) len m := by
  have hbyte := headerByte_of_version hversion
  have htoNat : UInt8.ofNat (header &&& 0x0f).toNat = header &&& 0x0f := UInt8.ofNat_toNat
  generalize htokenLen : (header &&& 0x0f).toNat = tokenLen at hmax hmin htoNat
  have hmin' : 4 + tokenLen ≤ len := hmin
  have htoken : (body.take tokenLen).length = tokenLen := by
    rw [List.length_take]
    omega
  refine ⟨⟨.ofValue ((header >>> 4) &&& 0x3), code, wordOf low high, body.take tokenLen,
    (body.drop tokenLen).take (len - 4 - tokenLen), by rw [htoken]; exact hmax⟩,
    body.drop (len - 4), ?_, ?_⟩
  · have hbody : body.take tokenLen ++ (body.drop tokenLen).take (len - 4 - tokenLen) ++
        body.drop (len - 4) = body := by
      have hdrop : body.drop (len - 4) = (body.drop tokenLen).drop (len - 4 - tokenLen) := by
        rw [List.drop_drop]
        congr 1
        omega
      rw [hdrop, List.append_assoc, List.take_append_drop, List.take_append_drop]
    rw [Message.bytes_append]
    simp only [Message.tokenLen, htoken, htoNat, hbyte, highByte_wordOf, lowByte_wordOf, hbody]
  · rw [Message.length_bytes]
    simp only [htoken, List.length_take, List.length_drop, minLen]
    omega

/-- **What `looksLikeCoap` accepts**: the buffers that hold a message. -/
theorem looksLikeCoap_iff {buffer : List UInt8} {len : Nat} (hlen : len ≤ buffer.length) :
    looksLikeCoap buffer len = some true ↔ ∃ m, Holds buffer len m := by
  constructor
  · intro h
    match buffer, hlen with
    | [], hlen => simp [looksLikeCoap, getTokenLength] at h
    | header :: tail, hlen =>
      obtain ⟨⟨hmin, hversion⟩, hmax⟩ :
          (minLen + (header &&& 0x0f).toNat ≤ len ∧ header &&& 0xC0 = 0x40) ∧
            (header &&& 0x0f).toNat ≤ tokenMaxLen := by
        simpa [looksLikeCoap, getTokenLength] using h
      match tail, hlen with
      | code :: high :: low :: body, hlen =>
        exact exists_holds hversion hmax hmin (by simpa using hlen)
      | [], hlen | [_], hlen | [_, _], hlen =>
        simp only [minLen, List.length_cons, List.length_nil] at hmin hlen
        omega
  · rintro ⟨m, slack, rfl, rfl⟩
    exact m.looksLikeCoap_bytes slack

end FortAgent.Coap
