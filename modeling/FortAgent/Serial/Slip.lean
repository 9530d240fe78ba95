import FortAgent.Lib.ByteStuffing
import FortAgent.Lib.Memory

/-!
# SLIP

The two halves of `slip.cpp` that the agent uses: `createSlipEncodedMessage`, a
loop that writes into a buffer of the caller, and `slip_read_byte`, an automaton
that collects a message in a buffer of its own.  They share no code.

Both are instances of one byte stuffing, `slip`.  What the loop writes is
`slip.frame`, if it fits (`createSlipEncodedMessage_eq`); and the automaton
simulates `slip.receive` (`receive_toReceiver`), with the part of its buffer in use
as the pending bytes.
-/

namespace FortAgent.Serial

open Memory Transducer

/-! ## Constants -/

/-- `FORT_AGENT_BUFFER_UNIT_SZ`. -/
def fortAgentBufferUnitSz : Nat := 512

def slipSpecialByteEnd : UInt8 := 0xC0

def slipSpecialByteEsc : UInt8 := 0xDB

def slipEscapedByteEnd : UInt8 := 0xDC

def slipEscapedByteEsc : UInt8 := 0xDD

/-- The byte stuffing of SLIP. -/
def slip : Stuffing UInt8 where
  stop := slipSpecialByteEnd
  esc := slipSpecialByteEsc
  escStop := slipEscapedByteEnd
  escEsc := slipEscapedByteEsc
  esc_ne_stop := by decide
  escEsc_ne_escStop := by decide
  stop_ne_escStop := by decide
  stop_ne_escEsc := by decide

/-! ## The encoder -/

/-- The buffer the encoder writes to, and the number of bytes written. -/
structure SlipOutput where
  dataToBeSent : List UInt8
  slipDataLength : UInt16
deriving DecidableEq, Repr

namespace SlipOutput

/-- `dataToBeSent[slipDataLength++] = byte`. -/
def append (out : SlipOutput) (byte : UInt8) : Option SlipOutput := do
  let dataToBeSent ← write out.dataToBeSent out.slipDataLength.toNat byte
  return ⟨dataToBeSent, out.slipDataLength + 1⟩

/-- The body of the loop. -/
def encodeByte (out : SlipOutput) (byte : UInt8) : Option SlipOutput :=
  if byte = slipSpecialByteEnd then do
    let out ← out.append slipSpecialByteEsc
    out.append slipEscapedByteEnd
  else if byte = slipSpecialByteEsc then do
    let out ← out.append slipSpecialByteEsc
    out.append slipEscapedByteEsc
  else out.append byte

/-- The loop from `i` on, with this many turns to go. -/
def encodeFrom (data : List UInt8) : Nat → Nat → SlipOutput → Option SlipOutput
  | 0, _, out => some out
  | turns + 1, i, out => do
    let byte ← data[i]?
    let out ← out.encodeByte byte
    encodeFrom data turns (i + 1) out

end SlipOutput

/-- The buffer afterwards, and the length returned. -/
def createSlipEncodedMessage (dataToBeSent data : List UInt8) (length : UInt32) :
    Option (List UInt8 × UInt32) :=
  if fortAgentBufferUnitSz < length.toNat then some (dataToBeSent, 0)
  else do
    let out ← (SlipOutput.mk dataToBeSent 0).append slipSpecialByteEnd
    let out ← out.encodeFrom data length.toNat 0
    let out ← out.append slipSpecialByteEnd
    return (out.dataToBeSent, out.slipDataLength.toUInt32)

/-! ## The decoder -/

inductive SlipState
  | normal | escaped
deriving DecidableEq, Repr

inductive SlipError
  | noError | bufferOverflow | unknownEscapedByte
deriving DecidableEq, Repr

/-- A handler, with the buffer of its descriptor. -/
structure SlipHandler (bufSize : Nat) where
  state : SlipState
  size : Nat
  buf : Vector UInt8 bufSize
  size_le : size ≤ bufSize

/-- What `slip_read_byte` returns, and the message it delivered on the way.  It
does not do both, deliver a message and return an error. -/
structure ReadResult where
  error : SlipError
  received : Option (List UInt8)
  error_of_received : received ≠ none → error = .noError
deriving DecidableEq, Repr

namespace ReadResult

/-- Nothing was delivered. -/
def returning (error : SlipError) : ReadResult := ⟨error, none, fun h ↦ absurd rfl h⟩

/-- A message was delivered. -/
def delivering (m : List UInt8) : ReadResult := ⟨.noError, some m, fun _ ↦ rfl⟩

end ReadResult

namespace SlipHandler

variable {bufSize : Nat}

def resetRx (slip : SlipHandler bufSize) : SlipHandler bufSize :=
  { slip with state := .normal, size := 0, size_le := Nat.zero_le bufSize }

/-- `slip_init`. -/
def init (buf : Vector UInt8 bufSize) : SlipHandler bufSize :=
  ⟨.normal, 0, buf, Nat.zero_le bufSize⟩

def putByteToBuffer (slip : SlipHandler bufSize) (byte : UInt8) :
    SlipHandler bufSize × SlipError :=
  if h : bufSize ≤ slip.size then (slip.resetRx, .bufferOverflow)
  else
    ({ state := .normal
       size := slip.size + 1
       buf := slip.buf.set slip.size byte (Nat.not_le.mp h)
       size_le := Nat.not_le.mp h }, .noError)

/-- The message in the buffer. -/
def message (slip : SlipHandler bufSize) : List UInt8 := slip.buf.toList.take slip.size

/-- `slip_read_byte`.  The callback `recvMessage` is given the buffer itself, and
may leave anything in it. -/
def readByte (recvMessage : Vector UInt8 bufSize → Nat → Vector UInt8 bufSize)
    (slip : SlipHandler bufSize) (byte : UInt8) : SlipHandler bufSize × ReadResult :=
  match slip.state with
  | .normal =>
    if byte = slipSpecialByteEnd then
      if 2 ≤ slip.size then
        (({ slip with buf := recvMessage slip.buf slip.size } : SlipHandler bufSize).resetRx,
          .delivering slip.message)
      else (slip.resetRx, .returning .noError)
    else if byte = slipSpecialByteEsc then ({ slip with state := .escaped }, .returning .noError)
    else
      let put := slip.putByteToBuffer byte
      (put.1, .returning put.2)
  | .escaped =>
    if byte = slipEscapedByteEnd then
      let put := slip.putByteToBuffer slipSpecialByteEnd
      (put.1, .returning put.2)
    else if byte = slipEscapedByteEsc then
      let put := slip.putByteToBuffer slipSpecialByteEsc
      (put.1, .returning put.2)
    else (slip.resetRx, .returning .unknownEscapedByte)

/-- A call delivers what is in the buffer. -/
theorem eq_message_of_received
    {recvMessage : Vector UInt8 bufSize → Nat → Vector UInt8 bufSize}
    (slip : SlipHandler bufSize) {byte : UInt8} {m : List UInt8}
    (h : (slip.readByte recvMessage byte).2.received = some m) : m = slip.message := by
  unfold readByte at h
  split at h
  · split_ifs at h
    · exact (Option.some.inj h).symm
    all_goals cases h
  · split_ifs at h <;> cases h

end SlipHandler

/-! ## The encoder writes frames -/

namespace SlipOutput

/-- A buffer into which some bytes have been written. -/
def wrote (buffer written : List UInt8) : SlipOutput :=
  ⟨written ++ buffer.drop written.length, UInt16.ofNat written.length⟩

/-- Appending byte after byte. -/
def appendAll (out : SlipOutput) (bytes : List UInt8) : Option SlipOutput :=
  bytes.foldlM append out

theorem append_wrote {buffer written : List UInt8} (byte : UInt8)
    (hlt : written.length < UInt16.size) :
    (wrote buffer written).append byte =
      if written.length < buffer.length then some (wrote buffer (written ++ [byte])) else none := by
  have hlen : (UInt16.ofNat written.length).toNat = written.length :=
    UInt16.toNat_ofNat_of_lt' hlt
  simp only [append, wrote, hlen]
  split
  · next hroom =>
      obtain ⟨old, rest, hdrop⟩ : ∃ old rest, buffer.drop written.length = old :: rest :=
        List.exists_cons_of_length_pos (by rw [List.length_drop]; omega)
      have hrest : buffer.drop (written.length + 1) = rest := by
        rw [← List.drop_drop, hdrop, List.drop_one, List.tail_cons]
      rw [hdrop, write_append]
      simp [hrest, UInt16.ofNat_add]
  · next hfull =>
      rw [List.drop_eq_nil_of_le (Nat.not_lt.mp hfull), List.append_nil, write,
        if_neg (Nat.lt_irrefl _)]
      rfl

/-- A list of bytes is written if there is room for all of it. -/
theorem appendAll_wrote (buffer written : List UInt8) {bytes : List UInt8}
    (hle : written.length ≤ buffer.length)
    (hlt : written.length + bytes.length < UInt16.size) :
    (wrote buffer written).appendAll bytes =
      if written.length + bytes.length ≤ buffer.length then
        some (wrote buffer (written ++ bytes)) else none := by
  induction bytes generalizing written with
  | nil => simp [appendAll, hle]
  | cons byte bytes ih =>
      rw [List.length_cons] at hlt
      rw [appendAll, List.foldlM_cons, append_wrote byte (by omega)]
      by_cases hroom : written.length < buffer.length
      · have hlength : (written ++ [byte]).length = written.length + 1 := List.length_append
        have hrest := ih (written ++ [byte]) (by omega) (by omega)
        rw [appendAll, hlength] at hrest
        simp only [if_pos hroom, Option.bind_eq_bind, Option.bind_some, hrest, List.append_assoc,
          List.singleton_append, List.length_cons, Nat.add_assoc, Nat.add_comm 1]
      · rw [if_neg hroom, if_neg (by rw [List.length_cons]; omega)]
        rfl

/-- The body of the loop appends one byte, stuffed. -/
theorem encodeByte_eq (out : SlipOutput) (byte : UInt8) :
    out.encodeByte byte = out.appendAll (slip.stuff byte) := by
  by_cases hend : byte = slipSpecialByteEnd
  · simp [encodeByte, Stuffing.stuff, slip, appendAll, hend]
  · by_cases hesc : byte = slipSpecialByteEsc
    · simp [encodeByte, Stuffing.stuff, slip, appendAll, hesc, slipSpecialByteEsc,
        slipSpecialByteEnd]
    · simp [encodeByte, Stuffing.stuff, slip, appendAll, hend, hesc]

/-- The loop appends the bytes it reads, escaped. -/
theorem encodeFrom_eq (data : List UInt8) (turns i : Nat) (out : SlipOutput)
    (h : i + turns ≤ data.length) :
    out.encodeFrom data turns i = out.appendAll (slip.escape ((data.drop i).take turns)) := by
  induction turns generalizing i out with
  | zero => simp [encodeFrom, appendAll]
  | succ turns ih =>
      have hi : i < data.length := by omega
      have hdrop : data.drop i = data[i] :: data.drop (i + 1) := List.drop_eq_getElem_cons hi
      rw [encodeFrom, List.getElem?_eq_getElem hi, hdrop, List.take_succ_cons,
        Stuffing.escape_cons, appendAll, List.foldlM_append, ← appendAll, ← encodeByte_eq]
      simp only [Option.bind_eq_bind, Option.bind_some]
      congr 1
      funext out'
      exact ih (i + 1) out' (by omega)

end SlipOutput

open SlipOutput in
/-- **The encoder.**  A message of at most 512 bytes is written as a frame, if the
caller's buffer has room for the frame; if not, the encoder leaves that buffer. -/
theorem createSlipEncodedMessage_eq (dataToBeSent data : List UInt8) (length : UInt32)
    (hunit : length.toNat ≤ fortAgentBufferUnitSz) (hdata : length.toNat ≤ data.length) :
    createSlipEncodedMessage dataToBeSent data length =
      let frame := slip.frame (data.take length.toNat)
      if frame.length ≤ dataToBeSent.length then
        some (frame ++ dataToBeSent.drop frame.length, UInt32.ofNat frame.length)
      else none := by
  have hframe : (SlipOutput.wrote dataToBeSent []).appendAll
      (slip.frame (data.take length.toNat)) = (do
        let out ← (SlipOutput.mk dataToBeSent 0).append slipSpecialByteEnd
        let out ← out.encodeFrom data length.toNat 0
        out.append slipSpecialByteEnd) := by
    simp only [encodeFrom_eq data length.toNat 0 _ (by omega), List.drop_zero]
    simp [Stuffing.frame, appendAll, wrote, slip]
  have hsize : (slip.frame (data.take length.toNat)).length < UInt16.size := by
    have hescape := slip.length_escape_le (data.take length.toNat)
    rw [List.length_take] at hescape
    rw [Stuffing.length_frame]
    simp only [fortAgentBufferUnitSz] at hunit
    simp only [UInt16.size]
    omega
  have hall := appendAll_wrote dataToBeSent [] (Nat.zero_le _) (by simpa using hsize)
  have hrun : createSlipEncodedMessage dataToBeSent data length =
      ((SlipOutput.wrote dataToBeSent []).appendAll (slip.frame (data.take length.toNat))).map
        fun out ↦ (out.dataToBeSent, out.slipDataLength.toUInt32) := by
    rw [createSlipEncodedMessage, if_neg (Nat.not_lt.mpr hunit), hframe]
    simp only [Option.map_eq_bind, Option.bind_eq_bind, Option.bind_assoc]
    rfl
  rw [hrun, hall]
  simp only [List.length_nil, Nat.zero_add, List.nil_append]
  split
  · have hlength : (UInt16.ofNat (slip.frame (data.take length.toNat)).length).toUInt32 =
        UInt32.ofNat (slip.frame (data.take length.toNat)).length := by
      apply UInt32.toNat_inj.mp
      rw [UInt16.toNat_toUInt32, UInt16.toNat_ofNat_of_lt' hsize,
        UInt32.toNat_ofNat_of_lt' (Nat.lt_trans hsize (by decide))]
    simp only [wrote, Option.map_some, hlength]
  · rfl

/-! ## The decoder receives them -/

/-- The receiver that a handler implements. -/
def SlipHandler.toReceiver {bufSize : Nat} (handler : SlipHandler bufSize) :
    Stuffing.Receiver UInt8 :=
  ⟨handler.message, handler.state == .escaped⟩

/-- The event that a call reports. -/
def ReadResult.event (result : ReadResult) : Stuffing.Event UInt8 :=
  match result.received with
  | some m => .message m
  | none =>
    match result.error with
    | .noError => .silent
    | .bufferOverflow => .overflow
    | .unknownEscapedByte => .unknownEscape

@[simp] theorem ReadResult.delivered_event (result : ReadResult) :
    result.event.delivered = result.received := by
  obtain ⟨error, received, h⟩ := result
  cases received with
  | some m => rfl
  | none => cases error <;> rfl

theorem ReadResult.isFault_event (result : ReadResult) :
    result.event.IsFault ↔ result.error ≠ .noError := by
  obtain ⟨error, received, h⟩ := result
  cases received with
  | some m => simp [event, Stuffing.Event.IsFault, h]
  | none => cases error <;> simp [event, Stuffing.Event.IsFault]

/-- The messages among the events are those that were received. -/
theorem ReadResult.messages_event (results : List ReadResult) :
    Stuffing.messages (results.map ReadResult.event) = results.filterMap ReadResult.received := by
  rw [Stuffing.messages, List.filterMap_map]
  congr 1
  funext result
  exact result.delivered_event

namespace SlipHandler

variable {bufSize : Nat} (recvMessage : Vector UInt8 bufSize → Nat → Vector UInt8 bufSize)

theorem length_message (handler : SlipHandler bufSize) :
    handler.message.length = handler.size := by
  simp [message, handler.size_le]

@[simp] theorem toReceiver_resetRx (handler : SlipHandler bufSize) :
    handler.resetRx.toReceiver = .initial := by
  simp [toReceiver, resetRx, message, Stuffing.Receiver.initial]

/-- Putting a byte is what the receiver does. -/
theorem toReceiver_putByteToBuffer (handler : SlipHandler bufSize) (byte : UInt8) :
    Stuffing.Receiver.put bufSize handler.toReceiver byte =
      ((handler.putByteToBuffer byte).1.toReceiver,
        (ReadResult.returning (handler.putByteToBuffer byte).2).event) := by
  have hpending : handler.toReceiver.pending.length = handler.size := handler.length_message
  unfold Stuffing.Receiver.put putByteToBuffer
  rw [hpending]
  split
  · simp [ReadResult.event, ReadResult.returning]
  · next hroom =>
      have hset : (handler.buf.toList.set handler.size byte).take (handler.size + 1) =
          handler.message ++ [byte] := by
        have hsize : handler.size < bufSize := Nat.not_le.mp hroom
        simp [List.take_add_one, message, hsize, List.take_set_of_le]
      simp [ReadResult.event, ReadResult.returning, toReceiver, message, Vector.toList_set, hset]

/-- **The decoder.**  One call of `slip_read_byte` is one step of the receiver. -/
theorem receive_toReceiver (handler : SlipHandler bufSize) (byte : UInt8) :
    slip.receive bufSize 2 handler.toReceiver byte =
      ((handler.readByte recvMessage byte).1.toReceiver,
        (handler.readByte recvMessage byte).2.event) := by
  have hpending : handler.toReceiver.pending = handler.message := rfl
  cases hstate : handler.state with
  | normal =>
      have hescaped : handler.toReceiver.escaped = false := by simp [toReceiver, hstate]
      simp only [readByte, hstate, Stuffing.receive, hescaped, Bool.false_eq_true, if_false,
        hpending, length_message]
      by_cases hend : byte = slipSpecialByteEnd
      · have hstop : byte = slip.stop := hend
        rw [if_pos hstop, if_pos hend]
        split
        · simp [ReadResult.event, ReadResult.delivering]
        · simp [ReadResult.event, ReadResult.returning]
      · have hstop : byte ≠ slip.stop := hend
        rw [if_neg hstop, if_neg hend]
        by_cases hesc : byte = slipSpecialByteEsc
        · have hesc' : byte = slip.esc := hesc
          rw [if_pos hesc', if_pos hesc]
          rfl
        · have hesc' : byte ≠ slip.esc := hesc
          rw [if_neg hesc', if_neg hesc]
          exact handler.toReceiver_putByteToBuffer byte
  | escaped =>
      have hescaped : handler.toReceiver.escaped = true := by simp [toReceiver, hstate]
      simp only [readByte, hstate, Stuffing.receive, hescaped, if_true]
      by_cases hend : byte = slipEscapedByteEnd
      · have hstop : byte = slip.escStop := hend
        rw [if_pos hstop, if_pos hend]
        exact handler.toReceiver_putByteToBuffer slipSpecialByteEnd
      · have hstop : byte ≠ slip.escStop := hend
        rw [if_neg hstop, if_neg hend]
        by_cases hesc : byte = slipEscapedByteEsc
        · have hesc' : byte = slip.escEsc := hesc
          rw [if_pos hesc', if_pos hesc]
          exact handler.toReceiver_putByteToBuffer slipSpecialByteEsc
        · have hesc' : byte ≠ slip.escEsc := hesc
          rw [if_neg hesc', if_neg hesc]
          simp [ReadResult.event, ReadResult.returning]

end SlipHandler

end FortAgent.Serial
