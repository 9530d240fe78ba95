import FortAgent.Coap.Build
import Mathlib.Data.List.Basic

/-!
# Reading a reply

`parseObserveReply` takes message id, token and payload out of a message.  To find
the payload it walks over the options, and takes each to be as long as the low
nibble of its first byte says.  That is the length of an option only if neither of
its two quantities has an extension, and an option that has one leaves the walk in
the middle of it.

`parseObserveReply_eq` says what the function returns for any message, and
`parseObserveReply_unextended` that this is what the message says, as long as no option
of it has an extension; where one has, the walk does go on from the middle of it.
-/

namespace FortAgent.Coap

open Memory
open CoapFormat (Opt Packet encodeOptions encodePayload payloadMarker Ascending)

/-! ## The function -/

/-- `Coap::CoapReply`.  The message id of a new reply is not initialised. -/
structure CoapReply where
  mid : Option UInt16
  token : List UInt8
  payload : List UInt8
deriving DecidableEq, Repr

/-- The loop: the index it stops at. -/
def locatePayloadMarker (buffer : List UInt8) (len index : Nat) : Option Nat :=
  if index < len then
    match buffer[index]? with
    | none => none
    | some optByte =>
      if optByte = 0xFF then some index
      else locatePayloadMarker buffer len (index + 1 + (optByte &&& 0x0F).toNat)
  else some index
termination_by len - index

/-- `none` is a read outside the buffer. -/
def parseObserveReply (buffer : List UInt8) (len : Nat) : Option CoapReply := do
  if !(← looksLikeCoap buffer len) then return ⟨none, [], []⟩
  else
    let mid ← getMid buffer
    let tkl := (← getTokenLength buffer).toNat
    let token ← range buffer 4 (4 + tkl)
    let index ← locatePayloadMarker buffer len (4 + tkl)
    if index < len then
      if (← buffer[index]?) = 0xFF then
        let payload ← range buffer (index + 1) len
        return ⟨some mid, token, payload⟩
      else return ⟨some mid, token, []⟩
    else return ⟨some mid, token, []⟩

/-! ## The walk -/

/-- The walk over options, on the bytes still ahead: where it stops. -/
def walk : List UInt8 → List UInt8
  | [] => []
  | optByte :: w =>
    if optByte = payloadMarker then optByte :: w else walk (w.drop (optByte &&& 0x0F).toNat)
termination_by w => w.length
decreasing_by
  rw [List.length_drop, List.length_cons]
  omega

theorem walk_marker (w : List UInt8) : walk (payloadMarker :: w) = payloadMarker :: w := by
  rw [walk, if_pos rfl]

theorem walk_skip {optByte : UInt8} (h : optByte ≠ payloadMarker) (w : List UInt8) :
    walk (optByte :: w) = walk (w.drop (optByte &&& 0x0F).toNat) := by
  rw [walk, if_neg h]

/-- The walk leads from `w` to `w'` without standing on a marker before. -/
inductive WalksTo : List UInt8 → List UInt8 → Prop
  | here (w : List UInt8) : WalksTo w w
  | skip {optByte : UInt8} {w w' : List UInt8} (hmarker : optByte ≠ payloadMarker)
      (h : WalksTo (w.drop (optByte &&& 0x0F).toNat) w') : WalksTo (optByte :: w) w'

/-- The walk stops at the end or at a marker. -/
theorem walk_eq_nil_or (w : List UInt8) : walk w = [] ∨ ∃ v, walk w = payloadMarker :: v := by
  fun_induction walk w with
  | case1 => exact .inl rfl
  | case2 w => exact .inr ⟨w, rfl⟩
  | case3 optByte w hmarker ih => exact ih

/-- The walk stops where it leads to and can go no further. -/
theorem walk_eq_iff {w w' : List UInt8} (hstop : w' = [] ∨ ∃ v, w' = payloadMarker :: v) :
    walk w = w' ↔ WalksTo w w' := by
  constructor
  · rintro rfl
    clear hstop
    fun_induction walk w with
    | case1 => exact .here _
    | case2 w => exact .here _
    | case3 optByte w hmarker ih => exact .skip hmarker ih
  · intro h
    induction h with
    | here w =>
        rcases hstop with rfl | ⟨v, rfl⟩
        · rw [walk]
        · exact walk_marker v
    | skip hmarker _ ih => rw [walk_skip hmarker, ih hstop]

/-- The bytes of a message from an index on, when the one there is known. -/
theorem drop_take_of_getElem? {buffer : List UInt8} {len index : Nat} {byte : UInt8}
    (hindex : index < len) (hread : buffer[index]? = some byte) :
    (buffer.take len).drop index = byte :: (buffer.take len).drop (index + 1) := by
  obtain ⟨hlt, hbyte⟩ := List.getElem?_eq_some_iff.mp hread
  have htake : index < (buffer.take len).length := by
    rw [List.length_take]
    omega
  rw [List.drop_eq_getElem_cons htake, List.getElem_take, hbyte]

/-- The loop is the walk over what is left of the message. -/
theorem locatePayloadMarker_eq {buffer : List UInt8} {len : Nat} (hlen : len ≤ buffer.length)
    (index : Nat) : ∃ i, locatePayloadMarker buffer len index = some i ∧
      (buffer.take len).drop i = walk ((buffer.take len).drop index) := by
  fun_induction locatePayloadMarker buffer len index with
  | case1 index hindex hnone =>
      rw [List.getElem?_eq_none_iff] at hnone
      omega
  | case2 index hindex hread =>
      refine ⟨index, rfl, ?_⟩
      rw [drop_take_of_getElem? hindex hread]
      exact (walk_marker _).symm
  | case3 index hindex optByte hread hmarker ih =>
      obtain ⟨i, hi, hwalk⟩ := ih
      refine ⟨i, hi, ?_⟩
      rw [hwalk, drop_take_of_getElem? hindex hread, walk_skip hmarker, List.drop_drop]
  | case4 index hindex =>
      have hnil : (buffer.take len).drop index = [] := by
        rw [List.drop_eq_nil_iff, List.length_take]
        omega
      exact ⟨index, rfl, by rw [hnil, walk]⟩

/-! ## What the function returns -/

/-- The header and the token end where the options begin. -/
theorem Message.length_head (m : Message) :
    (m.header ++ m.token).length = 4 + m.token.length := by
  rw [List.length_append, length_header]
  rfl

/-- **What a reply says.**  The message id and the token are those of the message;
the payload is what follows the byte at which the walk stops. -/
theorem parseObserveReply_eq (m : Message) (slack : List UInt8) :
    parseObserveReply (m.bytes ++ slack) m.bytes.length =
      some ⟨some m.mid, m.token, (walk m.rest).tail⟩ := by
  have hlen : m.bytes.length ≤ (m.bytes ++ slack).length := by simp
  have htake : (m.bytes ++ slack).take m.bytes.length = m.bytes := List.take_left
  have htoken : range (m.bytes ++ slack) 4 (4 + m.token.length) = some m.token := by
    have hsplit : m.bytes ++ slack = m.header ++ (m.token ++ (m.rest ++ slack)) := by
      simp [Message.bytes]
    rw [hsplit]
    exact range_append m.header m.token (m.rest ++ slack)
  have hrest : m.bytes.drop (4 + m.token.length) = m.rest := by
    rw [Message.bytes, ← m.length_head, List.drop_left]
  obtain ⟨i, hi, hwalk⟩ := locatePayloadMarker_eq hlen (4 + m.token.length)
  rw [htake, hrest] at hwalk
  simp only [parseObserveReply, Message.looksLikeCoap_bytes, Message.getMid_bytes,
    Message.getTokenLength_bytes, Message.tokenLen_toNat, htoken, hi, Option.bind_eq_bind,
    Option.bind_some, Bool.not_true, Bool.false_eq_true, if_false]
  rcases walk_eq_nil_or m.rest with hnil | ⟨payload, hpayload⟩
  · rw [hnil, List.drop_eq_nil_iff] at hwalk
    rw [if_neg (Nat.not_lt.mpr hwalk), hnil]
    rfl
  · rw [hpayload] at hwalk
    have hindex : i < m.bytes.length := by
      by_contra hge
      rw [List.drop_eq_nil_of_le (Nat.not_lt.mp hge)] at hwalk
      cases hwalk
    have hbyte : (m.bytes ++ slack)[i]? = some 0xFF := by
      rw [List.getElem?_append_left hindex, ← List.head?_drop, hwalk]
      rfl
    have hafter : range (m.bytes ++ slack) (i + 1) m.bytes.length = some payload := by
      rw [range, if_pos ⟨hindex, hlen⟩, htake, ← List.drop_drop, hwalk]
      rfl
    rw [if_pos hindex, hbyte, hafter, hpayload]
    rfl

/-! ## When that is the message's own payload -/

/-- The walk over the options finds the payload that is there: it stands on no
marker before, and it does not step over the one in front of the payload.  Without
a payload it may also stop at a last byte that happens to be a marker. -/
def FindsPayload (options : List UInt8) : Option (List UInt8) → Prop
  | some payload => WalksTo options (payloadMarker :: payload)
  | none => WalksTo options [] ∨ WalksTo options [payloadMarker]

/-- The walk finds the payload exactly if what follows the byte it stops at is the
payload. -/
theorem findsPayload_iff {options : List UInt8} {payload : Option (List UInt8)}
    (hpayload : payload ≠ some []) :
    FindsPayload options payload ↔ (walk options).tail = payload.getD [] := by
  cases payload with
  | some payload =>
      have hne : payload ≠ [] := fun hnil ↦ hpayload (by rw [hnil])
      rw [FindsPayload, ← walk_eq_iff (.inr ⟨payload, rfl⟩), Option.getD_some]
      constructor
      · intro h
        rw [h, List.tail_cons]
      · intro h
        rcases walk_eq_nil_or options with hnil | ⟨v, hv⟩
        · rw [hnil, List.tail_nil] at h
          exact absurd h.symm hne
        · rw [hv, List.tail_cons] at h
          rw [hv, h]
  | none =>
      rw [FindsPayload, ← walk_eq_iff (.inl rfl), ← walk_eq_iff (.inr ⟨[], rfl⟩),
        Option.getD_none]
      constructor
      · rintro (h | h)
        · rw [h, List.tail_nil]
        · rw [h, List.tail_cons]
      · intro h
        rcases walk_eq_nil_or options with hnil | ⟨v, hv⟩
        · exact .inl hnil
        · rw [hv, List.tail_cons] at h
          exact .inr (by rw [hv, h])

/-- What the reference decoder accepts are the bytes of a message. -/
theorem exists_message_of_decode {bytes : List UInt8} {p : Packet}
    (h : CoapFormat.decode bytes = some p) :
    ∃ m : Message, bytes = m.bytes ∧ p = m.packet p.options p.payload ∧
      CoapFormat.decodeOptions 0 m.rest = some (p.options, p.payload) := by
  obtain ⟨m, rfl⟩ : ∃ m : Message, bytes = m.bytes := by
    match bytes with
    | header :: code :: high :: low :: w =>
      have hmask : (header &&& 0x0f).toNat = header.toNat % 16 := by
        rw [UInt8.toNat_and]
        exact Nat.and_two_pow_sub_one_eq_mod header.toNat 4
      have hbits : ∀ b : UInt8, b.toNat / 64 = 1 → b &&& 0xC0 = 0x40 := by decide +kernel
      obtain ⟨⟨hversion, hmax, hmin⟩, -⟩ := Option.ite_none_right_eq_some.mp h
      obtain ⟨m, slack, hm, hlen⟩ := @exists_holds header code high low w (w.length + 4)
        (hbits header hversion) (by rwa [hmask])
        (by rw [hmask, minLen]; omega) (Nat.le_refl _)
      have hslack : slack = [] := by
        have hlength := congrArg List.length hm
        simp only [List.length_cons, List.length_append] at hlength
        exact List.length_eq_zero_iff.mp (by omega)
      exact ⟨m, by rw [hm, hslack, List.append_nil]⟩
    | [] | [_] | [_, _] | [_, _, _] => cases h
  rw [decode_bytes] at h
  obtain ⟨⟨options, payload⟩, hrest, rfl⟩ := Option.map_eq_some_iff.mp h
  exact ⟨m, rfl, rfl, hrest⟩

/-- For a message that is well formed, `parseObserveReply` returns its message id, its
token and its payload exactly if the walk over the options finds the payload. -/
theorem parseObserveReply_iff {bytes : List UInt8} {p : Packet}
    (h : CoapFormat.decode bytes = some p) (slack : List UInt8) :
    parseObserveReply (bytes ++ slack) bytes.length =
        some ⟨some (UInt16.ofNat p.mid), p.token, p.payload.getD []⟩ ↔
      FindsPayload (bytes.drop (4 + p.token.length)) p.payload := by
  obtain ⟨m, rfl, hp, hrest⟩ := exists_message_of_decode h
  obtain ⟨-, -, hpayload⟩ := CoapFormat.decodeOptions_eq_some_iff.mp hrest
  have htoken : p.token = m.token := congrArg Packet.token hp
  have hmid : UInt16.ofNat p.mid = m.mid := by
    have hmid := congrArg Packet.mid hp
    rw [hmid]
    exact UInt16.ofNat_toNat
  have hdrop : m.bytes.drop (4 + p.token.length) = m.rest := by
    rw [htoken, Message.bytes, ← m.length_head, List.drop_left]
  rw [hdrop, findsPayload_iff hpayload, parseObserveReply_eq, htoken, hmid]
  simp

/-! ## Options without extensions -/

/-- No option after the number `last` has an extended quantity. -/
def Unextended : ℕ → List Opt → Prop
  | _, [] => True
  | last, o :: os => o.number - last < 13 ∧ o.value.length < 13 ∧ Unextended o.number os

/-- The low nibble of the first byte of an option. -/
theorem lowNibble_optionHead (delta length : ℕ) :
    (CoapFormat.optionHead delta length &&& 0x0F).toNat = CoapFormat.nibble length := by
  have hlength := CoapFormat.nibble_lt length
  have hmask := Nat.and_two_pow_sub_one_eq_mod
    (16 * CoapFormat.nibble delta + CoapFormat.nibble length) 4
  rw [UInt8.toNat_and, CoapFormat.optionHead_toNat]
  exact hmask.trans (by omega)

/-- An option without extensions is stepped over as a whole. -/
theorem walksTo_encodeOption {delta : ℕ} {value w w' : List UInt8} (hdelta : delta < 13)
    (hvalue : value.length < 13) (h : WalksTo w w') :
    WalksTo (CoapFormat.encodeOption delta value ++ w) w' := by
  rw [CoapFormat.encodeOption, CoapFormat.extension, if_pos hdelta, CoapFormat.extension,
    if_pos hvalue]
  refine .skip (CoapFormat.optionHead_ne_payloadMarker _ _) ?_
  rw [lowNibble_optionHead, CoapFormat.nibble, if_pos hvalue]
  simpa using h

/-- Without extensions the walk finds the payload. -/
theorem findsPayload_of_unextended {options : List Opt} {last : ℕ}
    (payload : Option (List UInt8)) (h : Unextended last options) :
    FindsPayload (encodeOptions last options ++ encodePayload payload) payload := by
  have hwalks : WalksTo (encodeOptions last options ++ encodePayload payload)
      (encodePayload payload) := by
    induction options generalizing last with
    | nil => exact .here _
    | cons o os ih =>
        obtain ⟨hdelta, hvalue, hrest⟩ := h
        rw [encodeOptions, List.append_assoc]
        exact walksTo_encodeOption hdelta hvalue (ih hrest)
  cases payload with
  | some payload => exact hwalks
  | none => exact .inl hwalks

/-- `w` begins within one of these options: some of its bytes have been passed, and some
have not. -/
def WithinOption (last : ℕ) (options : List Opt) (payload : Option (List UInt8))
    (w : List UInt8) : Prop :=
  ∃ before o after passed ahead, options = before ++ o :: after ∧ passed ≠ [] ∧ ahead ≠ [] ∧
    CoapFormat.encodeOption (o.number - CoapFormat.lastNumber last before) o.value =
      passed ++ ahead ∧
    w = ahead ++ (encodeOptions o.number after ++ encodePayload payload)

/-- An option with an extension is longer than a step of the walk. -/
theorem nibble_lt_of_extended {delta length : ℕ} (h : ¬(delta < 13 ∧ length < 13)) :
    CoapFormat.nibble length <
      (CoapFormat.extension delta).length + ((CoapFormat.extension length).length + length) := by
  simp only [CoapFormat.nibble, CoapFormat.extension]
  split_ifs <;> simp <;> omega

/-- With an extension somewhere, the walk gets to the middle of an option. -/
theorem exists_walksTo_within {options : List Opt} {last : ℕ} (payload : Option (List UInt8))
    (h : ¬Unextended last options) :
    ∃ w, WalksTo (encodeOptions last options ++ encodePayload payload) w ∧
      WithinOption last options payload w := by
  induction options generalizing last with
  | nil => exact absurd trivial h
  | cons o os ih =>
      rw [encodeOptions, List.append_assoc]
      by_cases hshort : o.number - last < 13 ∧ o.value.length < 13
      · obtain ⟨w, hwalks, before, o', after, passed, ahead, rfl, hrest⟩ :=
          ih fun hos ↦ h ⟨hshort.1, hshort.2, hos⟩
        exact ⟨w, walksTo_encodeOption hshort.1 hshort.2 hwalks, o :: before, o', after, passed,
          ahead, rfl, hrest⟩
      · -- the step is no longer than what is behind the first byte
        generalize hhead : CoapFormat.optionHead (o.number - last) o.value.length = optByte
        generalize hbody : CoapFormat.extension (o.number - last) ++
          CoapFormat.extension o.value.length ++ o.value = body
        have hoption : CoapFormat.encodeOption (o.number - last) o.value = optByte :: body := by
          rw [CoapFormat.encodeOption, hhead, hbody]
        have hlow : (optByte &&& 0x0F).toNat = CoapFormat.nibble o.value.length := by
          rw [← hhead, lowNibble_optionHead]
        have hlt : (optByte &&& 0x0F).toNat < body.length := by
          rw [hlow, ← hbody, List.length_append, List.length_append, Nat.add_assoc]
          exact nibble_lt_of_extended hshort
        have hmarker : optByte ≠ payloadMarker :=
          hhead ▸ CoapFormat.optionHead_ne_payloadMarker _ _
        refine ⟨_, ?_, [], o, os, optByte :: body.take (optByte &&& 0x0F).toNat,
          body.drop (optByte &&& 0x0F).toNat, rfl, List.cons_ne_nil _ _, ?_, ?_, rfl⟩
        · rw [hoption, List.cons_append]
          refine .skip hmarker ?_
          rw [List.drop_append_of_le_length (Nat.le_of_lt hlt)]
          exact .here _
        · intro hnil
          rw [List.drop_eq_nil_iff] at hnil
          omega
        · rw [List.cons_append, List.take_append_drop]
          exact hoption

/-- **Reply parser.**  For a message that is well formed and in which no option has an
extension, `parseObserveReply` returns its message id, its token and its payload.  In
every other message the walk over the options goes on from the middle of one. -/
theorem parseObserveReply_unextended {bytes : List UInt8} {p : Packet}
    (h : CoapFormat.decode bytes = some p) (slack : List UInt8) :
    (Unextended 0 p.options →
      parseObserveReply (bytes ++ slack) bytes.length =
        some ⟨some (UInt16.ofNat p.mid), p.token, p.payload.getD []⟩) ∧
    (¬Unextended 0 p.options →
      ∃ w, WalksTo (bytes.drop (4 + p.token.length)) w ∧
        WithinOption 0 p.options p.payload w) := by
  have hoptions : bytes.drop (4 + p.token.length) =
      encodeOptions 0 p.options ++ encodePayload p.payload := by
    obtain ⟨m, rfl, hp, hrest⟩ := exists_message_of_decode h
    have htoken : p.token = m.token := congrArg Packet.token hp
    rw [htoken, Message.bytes, ← m.length_head, List.drop_left]
    exact (CoapFormat.decodeOptions_eq_some_iff.mp hrest).1
  rw [parseObserveReply_iff h slack, hoptions]
  exact ⟨findsPayload_of_unextended p.payload, exists_walksTo_within p.payload⟩

/-- The message that a POST of `segment` becomes if its code is changed to 2.05. -/
def contentReply (segment payload : List UInt8) : List UInt8 :=
  (buildMessage .ack .post 0xABCD [segment] [] payload [0xFE, 0xED] .none false 0).set 1 0x45

/-- A reply with a short path, `foo`. -/
theorem parseObserveReply_short :
    parseObserveReply (contentReply [0x66, 0x6F, 0x6F] [0x10, 0x20] ++ [0]) 13 =
      some ⟨some 0xABCD, [0xFE, 0xED], [0x10, 0x20]⟩ := by
  have hdecode : CoapFormat.decode (contentReply [0x66, 0x6F, 0x6F] [0x10, 0x20]) =
      some ⟨1, 2, 0x45, 0xABCD, [0xFE, 0xED], [⟨11, [0x66, 0x6F, 0x6F]⟩], some [0x10, 0x20]⟩ := by
    decide +kernel
  exact (parseObserveReply_unextended hdecode [0]).1 ⟨by decide, by decide, trivial⟩

-- An extension need not do harm: the walk takes the second byte of this option, which has the
-- number 13 and no value, for one more option.
example : ¬Unextended 0 [⟨13, []⟩] ∧
    CoapFormat.decode [0x40, 0x45, 0, 1, 0xD0, 0x00, 0xFF, 0x31] =
      some ⟨1, 0, 0x45, 1, [], [⟨13, []⟩], some [0x31]⟩ ∧
    parseObserveReply [0x40, 0x45, 0, 1, 0xD0, 0x00, 0xFF, 0x31] 8 =
      some ⟨some 1, [], [0x31]⟩ := by
  refine ⟨fun h ↦ absurd h.1 (by decide), by decide +kernel, by decide +kernel⟩

/-- A path of 13 bytes, `configuration`, has its length in an extension.  The walk
steps over one byte too few, then from the letter `n` past the end, and the payload
is lost. -/
theorem payload_lost :
    let segment := [0x63, 0x6F, 0x6E, 0x66, 0x69, 0x67, 0x75, 0x72, 0x61, 0x74, 0x69, 0x6F, 0x6E]
    CoapFormat.decode (contentReply segment [0x31]) =
        some ⟨1, 2, 0x45, 0xABCD, [0xFE, 0xED], [⟨11, segment⟩], some [0x31]⟩ ∧
      parseObserveReply (contentReply segment [0x31]) 23 =
        some ⟨some 0xABCD, [0xFE, 0xED], []⟩ := by
  decide +kernel

/-! ## Replies of the repository's own making -/

theorem unextended_append {last : ℕ} {os os' : List Opt} (h : Unextended last os)
    (h' : Unextended (CoapFormat.lastNumber last os) os') : Unextended last (os ++ os') := by
  induction os generalizing last with
  | nil => exact h'
  | cons o os ih =>
      obtain ⟨hdelta, hvalue, hrest⟩ := h
      exact ⟨hdelta, hvalue, ih hrest h'⟩

/-- Options of one number. -/
theorem unextended_map {last number : ℕ} {values : List (List UInt8)}
    (hfirst : values ≠ [] → number - last < 13)
    (hvalues : ∀ value ∈ values, value.length < 13) :
    Unextended last (values.map fun value ↦ ⟨number, value⟩) := by
  induction values generalizing last with
  | nil => trivial
  | cons value values ih =>
      obtain ⟨hvalue, hrest⟩ := List.forall_mem_cons.mp hvalues
      refine ⟨hfirst (List.cons_ne_nil _ _), hvalue, ih (fun _ ↦ ?_) hrest⟩
      rw [Nat.sub_self]
      decide

theorem lastNumber_map (last number : ℕ) (values : List (List UInt8)) :
    CoapFormat.lastNumber last (values.map fun value ↦ ⟨number, value⟩) =
      if values = [] then last else number := by
  induction values generalizing last with
  | nil => rfl
  | cons value values ih =>
      rw [if_neg (List.cons_ne_nil _ _)]
      refine (ih number).trans ?_
      split <;> rfl

/-- An option that is only there under a condition. -/
theorem unextended_ite {c : Prop} [Decidable c] {last : ℕ} {o : Opt}
    (hdelta : o.number - last < 13) (hvalue : o.value.length < 13) :
    Unextended last (if c then [o] else []) := by
  split
  · exact ⟨hdelta, hvalue, trivial⟩
  · trivial

theorem lastNumber_ite {c : Prop} [Decidable c] (last : ℕ) (o : Opt) :
    CoapFormat.lastNumber last (if c then [o] else []) = if c then o.number else last := by
  split <;> rfl

/-- What `buildMessage` writes for short segments and queries has no extensions,
unless a query is its first option. -/
theorem unextended_requestedOptions {uriSegments uriQueries : List (List UInt8)}
    {contentFormat : Format} {includeObserve : Bool} (observeValue : UInt16)
    (hsegments : ∀ segment ∈ uriSegments, segment.length < 13)
    (hqueries : ∀ query ∈ uriQueries, query.length < 13)
    (hfirst : uriQueries ≠ [] → includeObserve = true ∨ uriSegments ≠ [] ∨ contentFormat ≠ .none) :
    Unextended 0
      (requestedOptions uriSegments uriQueries contentFormat includeObserve observeValue) := by
  have huint {n : ℕ} (hn : n < UInt16.size) : (CoapFormat.uintBytes n).length < 13 :=
    Nat.lt_of_le_of_lt (CoapFormat.length_uintBytes_le (k := 2) hn) (by decide)
  have hsmall {n : ℕ} (hn : n < 13) (last : ℕ) : n - last < 13 :=
    Nat.lt_of_le_of_lt (Nat.sub_le n last) hn
  refine unextended_append (unextended_append (unextended_append ?_ ?_) ?_) ?_
  · exact unextended_ite (hsmall (n := 6) (by decide) _) (huint observeValue.toNat_lt)
  · exact unextended_map (fun _ ↦ hsmall (by decide) _) hsegments
  · exact unextended_ite (hsmall (n := 12) (by decide) _) (huint contentFormat.value.toNat_lt)
  · -- only a query can be too far from the number 0
    refine unextended_map (fun hne ↦ ?_) hqueries
    simp only [CoapFormat.lastNumber_append, lastNumber_map, lastNumber_ite]
    have hpresent := hfirst hne
    split
    · decide
    · next hformat =>
        split
        · next hpath =>
            have hobserve : includeObserve = true := by simpa [hpath, hformat] using hpresent
            rw [if_pos hobserve]
            decide
        · decide

/-- **Replies in the short form.**  The parser is right about every POST with short
segments and queries, whatever its code is changed to. -/
theorem parseObserveReply_post (type : MessageType) (code : UInt8) (mid : UInt16)
    {uriSegments uriQueries : List (List UInt8)} {payload token : List UInt8}
    (contentFormat : Format) (includeObserve : Bool) (observeValue : UInt16)
    (htoken : token.length ≤ tokenMaxLen)
    (hsegments : ∀ segment ∈ uriSegments, segment.length < 13)
    (hqueries : ∀ query ∈ uriQueries, query.length < 13)
    (hfirst : uriQueries ≠ [] → includeObserve = true ∨ uriSegments ≠ [] ∨ contentFormat ≠ .none)
    (slack : List UInt8) :
    let m : Message := { requestedMessage type .post mid uriSegments uriQueries payload token
      contentFormat includeObserve observeValue htoken with code := code }
    parseObserveReply (m.bytes ++ slack) m.bytes.length = some ⟨some mid, token, payload⟩ := by
  intro m
  have hfinds := findsPayload_of_unextended (requestedPayload .post payload)
    (unextended_requestedOptions observeValue hsegments hqueries hfirst)
  have hpayload : (requestedPayload .post payload).getD [] = payload := by
    by_cases hnil : payload = []
    · simp [requestedPayload, hnil]
    · simp [requestedPayload, hnil]
  rw [parseObserveReply_eq]
  exact congrArg (fun found ↦ some (CoapReply.mk (some mid) token found))
    (((findsPayload_iff (requestedPayload_ne .post payload)).mp hfinds).trans hpayload)

end FortAgent.Coap
