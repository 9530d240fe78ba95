import FortAgent.Coap.Build

/-!
# The path of a message

`extractUriPath` walks over the options of a message and collects the values of those
with the number 11.  It keeps the differences and lengths in 8 bits, where the encoder
keeps them in 16.  What a message is built from is short enough for both.
-/

namespace FortAgent.Coap

open Memory
open CoapFormat (Opt encodeOptions encodePayload lastNumber nibble extension optionHead)

/-! ## The function -/

/-- The branches for an extended delta or length: the quantity, cut to 8 bits, and how
many bytes of extension it has. -/
def readExtended (data : List UInt8) (nibble : UInt8) (pos : Nat) : Option (UInt8 × Nat) :=
  if nibble = 13 then do
    let byte ← data[pos]?
    return (13 + byte, 1)
  else if nibble = 14 then do
    let high ← data[pos]?
    let low ← data[pos + 1]?
    return (UInt8.ofNat (269 + (high.toNat <<< 8) + low.toNat), 2)
  else some (nibble, 0)

/-- The loop. -/
def collectPathSegments (data : List UInt8) (size pos : Nat) (lastOptionNumber : UInt16)
    (pathSegments : List (List UInt8)) : Option (List (List UInt8)) :=
  if pos < size then
    match data[pos]? with
    | none => none
    | some head =>
      if head = 0xFF then some pathSegments
      else
        match readExtended data ((head &&& 0xF0) >>> 4) (pos + 1) with
        | none => none
        | some (delta, used) =>
          match readExtended data (head &&& 0x0F) (pos + 1 + used) with
          | none => none
          | some (length, used') =>
            let start := pos + 1 + used + used'
            let stop := start + length.toNat
            let lastOptionNumber := lastOptionNumber + delta.toUInt16
            if lastOptionNumber = 11 then
              match range data start stop with
              | none => none
              | some segment =>
                collectPathSegments data size stop lastOptionNumber (pathSegments ++ [segment])
            else collectPathSegments data size stop lastOptionNumber pathSegments
  else some pathSegments
termination_by size - pos

/-- `none` is a read outside the buffer. -/
def extractUriPath (data : List UInt8) (size : Nat) : Option (List UInt8) :=
  if size < 4 then some []
  else do
    let verTypeToken ← data[0]?
    let tokenLength := verTypeToken &&& 0x0F
    let pathSegments ← collectPathSegments data size (4 + tokenLength.toNat) 0 []
    return List.intercalate [0x2F] pathSegments

/-! ## One option -/

/-- A turn of the loop, on an option whose extended bytes are in memory. -/
theorem collectPathSegments_turn {data : List UInt8} {size pos used used' : Nat}
    {head delta length : UInt8} (last : UInt16) (segments : List (List UInt8)) (hpos : pos < size)
    (hhead : data[pos]? = some head) (hmarker : head ≠ 0xFF)
    (hdelta : readExtended data ((head &&& 0xF0) >>> 4) (pos + 1) = some (delta, used))
    (hlength : readExtended data (head &&& 0x0F) (pos + 1 + used) = some (length, used')) :
    let start := pos + 1 + used + used'
    let stop := start + length.toNat
    let last' := last + delta.toUInt16
    collectPathSegments data size pos last segments =
      if last' = 11 then
        (range data start stop).bind fun segment ↦
          collectPathSegments data size stop last' (segments ++ [segment])
      else collectPathSegments data size stop last' segments := by
  intro start stop last'
  rw [collectPathSegments]
  simp only [hpos, if_true, hhead, hmarker, if_false, hdelta, hlength]
  split
  · cases range data start stop <;> rfl
  · rfl

/-- The two nibbles of the first byte of an option. -/
theorem nibbles_optionHead (delta length : ℕ) :
    (optionHead delta length &&& 0xF0) >>> 4 = UInt8.ofNat (nibble delta) ∧
      optionHead delta length &&& 0x0F = UInt8.ofNat (nibble length) := by
  have hnibbles : ∀ a < 15, ∀ b < 15, (UInt8.ofNat (16 * a + b) &&& 0xF0) >>> 4 = UInt8.ofNat a ∧
      UInt8.ofNat (16 * a + b) &&& 0x0F = UInt8.ofNat b := by decide +kernel
  exact hnibbles _ (CoapFormat.nibble_lt delta) _ (CoapFormat.nibble_lt length)

/-- A quantity of 8 bits is read as it was written. -/
theorem readExtended_extension {n : ℕ} (hn : n < 256) (front w : List UInt8) :
    readExtended (front ++ (extension n ++ w)) (UInt8.ofNat (nibble n)) front.length =
      some (UInt8.ofNat n, (extension n).length) := by
  by_cases hsmall : n < 13
  · have hne : UInt8.ofNat n ≠ 13 ∧ UInt8.ofNat n ≠ 14 := by
      have htable : ∀ k < 13, UInt8.ofNat k ≠ 13 ∧ UInt8.ofNat k ≠ 14 := by decide
      exact htable n hsmall
    simp only [readExtended, nibble, extension, if_pos hsmall, if_neg hne.1, if_neg hne.2,
      List.length_nil]
  · have hmedium : n < 269 := Nat.lt_trans hn (by decide)
    have hbyte : 13 + UInt8.ofNat (n - 13) = UInt8.ofNat n := by
      have hadd := UInt8.ofNat_add 13 (n - 13)
      rw [Nat.add_sub_cancel' (Nat.not_lt.mp hsmall)] at hadd
      exact hadd.symm
    simp [readExtended, nibble, extension, hsmall, hmedium, hbyte]

/-- A quantity of 8 bits as a word. -/
theorem toUInt16_ofNat {n : ℕ} (h : n < 256) : (UInt8.ofNat n).toUInt16 = UInt16.ofNat n := by
  apply UInt16.toNat_inj.mp
  rw [UInt8.toNat_toUInt16, CoapFormat.toNat_ofNat h,
    UInt16.toNat_ofNat_of_lt' (Nat.lt_trans h (by decide))]

/-- **One turn of the loop**, on an option whose quantities have 8 bits. -/
theorem collectPathSegments_option (front value w : List UInt8) {delta : ℕ} (last : UInt16)
    (hdelta : delta < 256) (hvalue : value.length < 256) (segments : List (List UInt8)) :
    let data := front ++ (CoapFormat.encodeOption delta value ++ w)
    let last' := last + UInt16.ofNat delta
    collectPathSegments data data.length front.length last segments =
      collectPathSegments data data.length (front ++ CoapFormat.encodeOption delta value).length
        last' (if last' = 11 then segments ++ [value] else segments) := by
  intro data last'
  -- the same bytes, seen from the four positions at which the turn reads
  let head := optionHead delta value.length
  let afterHead := front ++ [head]
  let afterDelta := afterHead ++ extension delta
  let afterLength := afterDelta ++ extension value.length
  have hdata₀ : data = front ++ head :: (extension delta ++ extension value.length ++ value ++ w) :=
    rfl
  have hdata₁ :
      data = afterHead ++ (extension delta ++ (extension value.length ++ value ++ w)) := by
    simp [hdata₀, afterHead]
  have hdata₂ : data = afterDelta ++ (extension value.length ++ (value ++ w)) := by
    simp [hdata₀, afterHead, afterDelta]
  have hdata₃ : data = afterLength ++ (value ++ w) := by
    simp [hdata₀, afterHead, afterDelta, afterLength]
  have hlt : front.length < data.length := by simp [hdata₀]
  have hhead : data[front.length]? = some head := by
    rw [hdata₀, List.getElem?_append_right (Nat.le_refl _), Nat.sub_self]
    rfl
  have hmarker : head ≠ 0xFF := CoapFormat.optionHead_ne_payloadMarker delta value.length
  obtain ⟨hhigh, hlow⟩ := nibbles_optionHead delta value.length
  have hreadDelta : readExtended data ((head &&& 0xF0) >>> 4) (front.length + 1) =
      some (UInt8.ofNat delta, (extension delta).length) := by
    have hpos : front.length + 1 = afterHead.length := by simp [afterHead]
    rw [hhigh, hpos, hdata₁, readExtended_extension hdelta]
  have hreadLength : readExtended data (head &&& 0x0F)
      (front.length + 1 + (extension delta).length) =
      some (UInt8.ofNat value.length, (extension value.length).length) := by
    have hpos : front.length + 1 + (extension delta).length = afterDelta.length := by
      simp only [afterDelta, afterHead, List.length_append, List.length_singleton]
    rw [hlow, hpos, hdata₂, readExtended_extension hvalue]
  have hstart : front.length + 1 + (extension delta).length + (extension value.length).length =
      afterLength.length := by
    simp only [afterLength, afterDelta, afterHead, List.length_append, List.length_singleton]
  have hstop : afterLength.length + (UInt8.ofNat value.length).toNat =
      (front ++ CoapFormat.encodeOption delta value).length := by
    rw [CoapFormat.toNat_ofNat hvalue]
    simp [afterLength, afterDelta, afterHead, CoapFormat.encodeOption]
    omega
  have hsegment : range data afterLength.length
      (front ++ CoapFormat.encodeOption delta value).length = some value := by
    rw [← hstop, CoapFormat.toNat_ofNat hvalue, hdata₃, range_append]
  have hlast : last + (UInt8.ofNat delta).toUInt16 = last' := by rw [toUInt16_ofNat hdelta]
  have hturn := collectPathSegments_turn last segments hlt hhead hmarker hreadDelta hreadLength
  simp only [hstart, hlast, hstop, hsegment, Option.bind_some] at hturn
  rw [hturn]
  split <;> rfl

/-! ## A message -/

/-- The options fit into the 8 bits of the function. -/
def Narrow (os : List Opt) : Prop := ∀ o ∈ os, o.number < 256 ∧ o.value.length < 256

/-- The values of the options that belong to the path. -/
def pathOf (os : List Opt) : List (List UInt8) :=
  (os.filter fun o ↦ o.number = 11).map Opt.value

theorem pathOf_append (os os' : List Opt) : pathOf (os ++ os') = pathOf os ++ pathOf os' := by
  rw [pathOf, List.filter_append, List.map_append]
  rfl

/-- **The loop** collects the path of the options it is on. -/
theorem collectPathSegments_options (front : List UInt8) {os : List Opt} (last : UInt16)
    (hascending : CoapFormat.Ascending last.toNat os) (hnarrow : Narrow os)
    (payload : Option (List UInt8)) (segments : List (List UInt8)) :
    let data := front ++ (encodeOptions last.toNat os ++ encodePayload payload)
    collectPathSegments data data.length front.length last segments =
      some (segments ++ pathOf os) := by
  induction os generalizing front last segments with
  | nil =>
      intro data
      have hpath : pathOf [] = [] := rfl
      rw [collectPathSegments, hpath, List.append_nil]
      cases payload with
      | none => simp [data, encodeOptions, encodePayload]
      | some payload => simp [data, encodeOptions, encodePayload, CoapFormat.payloadMarker]
  | cons o os ih =>
      obtain ⟨hle, -, -, hrest⟩ := hascending
      obtain ⟨⟨hnumber, hvalue⟩, hnarrow⟩ := List.forall_mem_cons.mp hnarrow
      have hdelta : o.number - last.toNat < 256 := Nat.lt_of_le_of_lt (Nat.sub_le _ _) hnumber
      have hstep := collectPathSegments_option front o.value
        (encodeOptions o.number os ++ encodePayload payload) last hdelta hvalue segments
      have hlast : (last + UInt16.ofNat (o.number - last.toNat)).toNat = o.number := by
        rw [UInt16.toNat_add, UInt16.toNat_ofNat_of_lt' (Nat.lt_trans hdelta (by decide)),
          Nat.add_sub_cancel' hle, Nat.mod_eq_of_lt (Nat.lt_trans hnumber (by decide))]
      generalize last + UInt16.ofNat (o.number - last.toNat) = next at hstep hlast
      have hpath : next = 11 ↔ o.number = 11 := by
        rw [← UInt16.toNat_inj, hlast]
        rfl
      have hrun := ih (front ++ CoapFormat.encodeOption (o.number - last.toNat) o.value) next
        (hlast ▸ hrest) hnarrow (if next = 11 then segments ++ [o.value] else segments)
      simp only [hlast, List.append_assoc] at hrun
      simp only [encodeOptions, List.append_assoc] at hstep ⊢
      rw [hstep, hrun]
      simp only [hpath]
      split
      · next heleven => simp [pathOf, heleven]
      · next heleven => simp [pathOf, heleven]

/-- **The path of a message** with narrow options.  Nothing outside of it is read. -/
theorem extractUriPath_eq {m : Message} {os : List Opt} {payload : Option (List UInt8)}
    (hrest : m.rest = encodeOptions 0 os ++ encodePayload payload)
    (hascending : CoapFormat.Ascending 0 os) (hnarrow : Narrow os) :
    extractUriPath m.bytes m.bytes.length = some (List.intercalate [0x2F] (pathOf os)) := by
  have hlength : ¬m.bytes.length < 4 := by
    rw [m.length_bytes, minLen]
    omega
  have hheader : m.bytes[0]? = some (headerByte m.type m.tokenLen) := rfl
  have htoken : (headerByte m.type m.tokenLen &&& 0x0F).toNat = m.token.length := by
    rw [tokenLength_headerByte m.type m.tokenLen_le, m.tokenLen_toNat]
  have hsegments : collectPathSegments m.bytes m.bytes.length (4 + m.token.length) 0 [] =
      some (pathOf os) := by
    have hbytes : m.bytes = m.header ++ m.token ++
        (encodeOptions (0 : UInt16).toNat os ++ encodePayload payload) := by
      rw [Message.bytes, hrest]
      rfl
    have hpos : 4 + m.token.length = (m.header ++ m.token).length := by
      rw [List.length_append, m.length_header]
      rfl
    rw [hpos, hbytes,
      collectPathSegments_options _ 0 hascending hnarrow payload []]
    rfl
  simp only [extractUriPath, if_neg hlength, hheader, Option.bind_eq_bind, Option.bind_some, htoken,
    hsegments]
  rfl

/-! ## What `buildMessage` writes -/

theorem pathOf_map (number : ℕ) (values : List (List UInt8)) :
    pathOf (values.map fun value ↦ ⟨number, value⟩) = if number = 11 then values else [] := by
  induction values with
  | nil => simp [pathOf]
  | cons value values ih =>
      by_cases heleven : number = 11
      · simp_all [pathOf]
      · simp_all [pathOf]

theorem pathOf_ite {c : Prop} [Decidable c] {number : ℕ} (hnumber : number ≠ 11)
    (value : List UInt8) : pathOf (if c then [⟨number, value⟩] else []) = [] := by
  split
  · simp [pathOf, hnumber]
  · rfl

/-- The path a message is asked to have. -/
theorem pathOf_requestedOptions (uriSegments uriQueries : List (List UInt8))
    (contentFormat : Format) (includeObserve : Bool) (observeValue : UInt16) :
    pathOf (requestedOptions uriSegments uriQueries contentFormat includeObserve observeValue) =
      uriSegments := by
  rw [requestedOptions, pathOf_append, pathOf_append, pathOf_append, pathOf_ite (by decide),
    pathOf_ite (by decide), pathOf_map, pathOf_map]
  simp

theorem narrow_requestedOptions {uriSegments uriQueries : List (List UInt8)}
    (contentFormat : Format) (includeObserve : Bool) (observeValue : UInt16)
    (hsegments : ∀ segment ∈ uriSegments, segment.length ≤ 255)
    (hqueries : ∀ query ∈ uriQueries, query.length ≤ 255) :
    Narrow
      (requestedOptions uriSegments uriQueries contentFormat includeObserve observeValue) := by
  have huint {n : ℕ} (hn : n < UInt16.size) : (CoapFormat.uintBytes n).length < 256 :=
    Nat.lt_of_le_of_lt (CoapFormat.length_uintBytes_le (k := 2) hn) (by decide)
  have hnumber {n : ℕ} (hn : n < 16) : n < 256 := Nat.lt_trans hn (by decide)
  intro o ho
  simp only [requestedOptions, List.mem_append, List.mem_map, List.mem_ite_nil_right,
    List.mem_singleton] at ho
  rcases ho with ((⟨-, rfl⟩ | ⟨segment, hsegment, rfl⟩) | ⟨-, rfl⟩) | ⟨query, hquery, rfl⟩
  · exact ⟨hnumber (n := 6) (by decide), huint observeValue.toNat_lt⟩
  · exact ⟨hnumber (n := 11) (by decide), Nat.lt_succ_of_le (hsegments segment hsegment)⟩
  · exact ⟨hnumber (n := 12) (by decide), huint contentFormat.value.toNat_lt⟩
  · exact ⟨hnumber (n := 15) (by decide), Nat.lt_succ_of_le (hqueries query hquery)⟩

/-- **The path comes back.**  Whatever else a message is built from, its path is the
segments joined by slashes, and to find it the function reads nothing but the message. -/
theorem extractUriPath_buildMessage (type : MessageType) (method : Method) (mid : UInt16)
    {uriSegments uriQueries : List (List UInt8)} (payload : List UInt8) {token : List UInt8}
    (contentFormat : Format) (includeObserve : Bool) (observeValue : UInt16)
    (htoken : token.length ≤ tokenMaxLen)
    (hsegments : ∀ segment ∈ uriSegments, segment.length ≤ 255)
    (hqueries : ∀ query ∈ uriQueries, query.length ≤ 255) :
    let message := buildMessage type method mid uriSegments uriQueries payload token contentFormat
      includeObserve observeValue
    extractUriPath message message.length = some (List.intercalate [0x2F] uriSegments) := by
  intro message
  have hword {n : ℕ} (h : n ≤ 255) : n < UInt16.size := Nat.lt_of_le_of_lt h (by decide)
  obtain ⟨hbytes, hascending⟩ := buildMessage_eq type method mid payload contentFormat
    includeObserve observeValue htoken (fun segment h ↦ hword (hsegments segment h))
    (fun query h ↦ hword (hqueries query h))
  have hpath := extractUriPath_eq
    (m := requestedMessage type method mid uriSegments uriQueries payload token contentFormat
      includeObserve observeValue htoken) rfl hascending
    (narrow_requestedOptions contentFormat includeObserve observeValue hsegments hqueries)
  rw [pathOf_requestedOptions, ← hbytes] at hpath
  exact hpath

/-- A POST to `a//configuration?q` whose payload looks like another option of the path. -/
theorem extractUriPath_post :
    let message := buildMessage .con .post 0x1234
      [[0x61], [], [99, 111, 110, 102, 105, 103, 117, 114, 97, 116, 105, 111, 110]] [[0x71]]
      [0xB1, 0x62] [0xAA, 0xBB] .applicationCbor true 300
    extractUriPath message message.length =
      some [0x61, 0x2F, 0x2F, 99, 111, 110, 102, 105, 103, 117, 114, 97, 116, 105, 111, 110] :=
  extractUriPath_buildMessage .con .post 0x1234 [0xB1, 0x62] .applicationCbor true 300
    (by decide) (by decide) (by decide)

end FortAgent.Coap
