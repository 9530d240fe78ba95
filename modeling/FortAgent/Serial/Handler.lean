import FortAgent.Lib.RingBuffer
import FortAgent.Serial.Slip

/-!
# Sending on the serial port

The sending half of `SerialHandler`.  A message is encoded into a command on the
stack, and the command is pushed byte by byte into a ring buffer, which
`async_write_some` empties a contiguous region at a time.

Before it encodes, `asyncSendMessageToSerialPort` asks whether the message fits
the buffer; what it pushes is the frame, which is longer, and the push stops
without an error when the buffer is full.  `asyncSendMessageToSerialPort_eq` says
what the call does, `all_or_nothing` when that is to send the whole message or
nothing, and `encodesInside_iff` when the frame stays inside the command.
-/

namespace FortAgent.Serial

/-! ## The handler -/

/-- `State`. -/
inductive State
  | resetting | operational | operationalError | maxStates
deriving DecidableEq, Repr

/-- `TX_BUFFER_SIZE`. -/
def txBufferSize : Nat := fortAgentBufferUnitSz

theorem txBufferSize_pos : 0 < txBufferSize := by decide

/-- The fields of a handler that sending reads or changes, and the regions of the
write buffer, each a first slot and a length, that `async_write_some` was given and
has not reported on. -/
structure SerialHandler where
  state : State
  writeBuffer : RingBuffer UInt8 txBufferSize
  writeInProgress : Bool
  writes : List (Nat × Nat)

namespace SerialHandler

/-- Hand the first contiguous region of the buffer to `async_write_some`. -/
def asyncWriteSome (handler : SerialHandler) : SerialHandler :=
  { handler with writes := handler.writeBuffer.arrayOne :: handler.writes }

/-- Buffer data to send.  Returns the number of bytes that were buffered. -/
def asyncSendDataToSerialPort (handler : SerialHandler) (sendData : List UInt8) :
    SerialHandler × Nat :=
  if handler.state ≠ .operational then (handler, 0)
  else
    let pushed := handler.writeBuffer.pushMany sendData
    let handler := { handler with writeBuffer := pushed.1 }
    if handler.writeInProgress then (handler, pushed.2)
    else ({ handler with writeInProgress := true }.asyncWriteSome, pushed.2)

/-- The loop.  The data pointer stays where it is from one turn to the next.  The
command on the stack is not initialised; it starts as zeros here, and none of them
is read. -/
def sendCommands (handler : SerialHandler) (dataBytes : List UInt8) (dataLen : Nat) :
    Option (SerialHandler × Bool) :=
  if 0 < dataLen then do
    let toSend := min fortAgentBufferUnitSz dataLen
    let (cmd, cmdLen) ← createSlipEncodedMessage (List.replicate fortAgentBufferUnitSz 0)
      dataBytes (UInt32.ofNat toSend)
    if cmdLen = 0 then return (handler, false)
    else
      let handler := (handler.asyncSendDataToSerialPort (cmd.take cmdLen.toNat)).1
      handler.sendCommands dataBytes (dataLen - toSend)
  else some (handler, true)
termination_by dataLen
decreasing_by
  have hunit : 0 < fortAgentBufferUnitSz := by decide
  omega

/-- Send a message.  `none` is a write past the end of the command. -/
def asyncSendMessageToSerialPort (handler : SerialHandler) (dataBytes : List UInt8)
    (dataLen : Nat) : Option (SerialHandler × Bool) :=
  if handler.state ≠ .operational then some (handler, false)
  else if handler.writeBuffer.reserve < dataLen then some (handler, false)
  else handler.sendCommands dataBytes dataLen

/-! ## What a call does -/

/-- An operational handler buffers as much as there is room for. -/
theorem contents_asyncSendData (handler : SerialHandler) (sendData : List UInt8)
    (hstate : handler.state = .operational) :
    (handler.asyncSendDataToSerialPort sendData).1.writeBuffer.contents =
      handler.writeBuffer.contents ++ sendData.take handler.writeBuffer.reserve := by
  obtain ⟨hcontents, -⟩ := handler.writeBuffer.contents_pushMany sendData
  rw [← hcontents, asyncSendDataToSerialPort, if_neg (not_not.mpr hstate)]
  simp only [asyncWriteSome, apply_ite Prod.fst, apply_ite SerialHandler.writeBuffer, ite_self]

theorem state_asyncSendData (handler : SerialHandler) (sendData : List UInt8) :
    (handler.asyncSendDataToSerialPort sendData).1.state = handler.state := by
  simp only [asyncSendDataToSerialPort, asyncWriteSome, apply_ite Prod.fst,
    apply_ite SerialHandler.state, ite_self]

/-- Data that fits takes as much room as it is long. -/
theorem reserve_asyncSendData (handler : SerialHandler) {sendData : List UInt8}
    (hstate : handler.state = .operational)
    (hfits : sendData.length ≤ handler.writeBuffer.reserve) :
    (handler.asyncSendDataToSerialPort sendData).1.writeBuffer.reserve =
      handler.writeBuffer.reserve - sendData.length := by
  have hlength := congrArg List.length (handler.contents_asyncSendData sendData hstate)
  rw [List.length_append, List.take_of_length_le hfits, RingBuffer.length_contents,
    RingBuffer.length_contents] at hlength
  rw [RingBuffer.reserve, RingBuffer.reserve, hlength, Nat.sub_add_eq]

/-- A command is a frame, if it fits. -/
theorem createSlipEncodedMessage_command {message : List UInt8}
    (hunit : message.length ≤ fortAgentBufferUnitSz) :
    createSlipEncodedMessage (List.replicate fortAgentBufferUnitSz 0) message
        (UInt32.ofNat message.length) =
      let frame := slip.frame message
      if frame.length ≤ fortAgentBufferUnitSz then
        some (frame ++ List.replicate (fortAgentBufferUnitSz - frame.length) 0,
          UInt32.ofNat frame.length)
      else none := by
  have hlen : (UInt32.ofNat message.length).toNat = message.length :=
    UInt32.toNat_ofNat_of_lt' (Nat.lt_of_le_of_lt hunit (by decide))
  rw [createSlipEncodedMessage_eq _ _ _ (by rw [hlen]; exact hunit) (Nat.le_of_eq hlen), hlen,
    List.take_length]
  simp only [List.length_replicate, List.drop_replicate]

/-- A message of at most 512 bytes takes one turn of the loop. -/
theorem sendCommands_eq (handler : SerialHandler) {message : List UInt8} (hne : message ≠ [])
    (hunit : message.length ≤ fortAgentBufferUnitSz) :
    handler.sendCommands message message.length =
      if (slip.frame message).length ≤ fortAgentBufferUnitSz then
        some ((handler.asyncSendDataToSerialPort (slip.frame message)).1, true)
      else none := by
  rw [sendCommands, if_pos (List.length_pos_iff.mpr hne)]
  simp only [Nat.min_eq_right hunit, createSlipEncodedMessage_command hunit, Nat.sub_self]
  split
  · next hframe =>
      have hcmdLen : (UInt32.ofNat (slip.frame message).length).toNat =
          (slip.frame message).length :=
        UInt32.toNat_ofNat_of_lt' (Nat.lt_of_le_of_lt hframe (by decide))
      have hpos : UInt32.ofNat (slip.frame message).length ≠ 0 := by
        intro hzero
        have hlength := slip.length_frame message
        rw [hzero] at hcmdLen
        exact absurd (hcmdLen.trans hlength) (Nat.succ_ne_zero _).symm
      simp only [Option.bind_eq_bind, Option.bind_some, if_neg hpos, hcmdLen, List.take_left]
      rw [sendCommands, if_neg (Nat.lt_irrefl 0)]
  · rfl

/-- **A call.**  A message that passes the check is sent as one command: what fits
of the frame is buffered. -/
theorem asyncSendMessageToSerialPort_eq (handler : SerialHandler) (message : List UInt8) :
    handler.asyncSendMessageToSerialPort message message.length =
      if handler.state ≠ .operational ∨ handler.writeBuffer.reserve < message.length then
        some (handler, false)
      else if message = [] then some (handler, true)
      else if (slip.frame message).length ≤ fortAgentBufferUnitSz then
        some ((handler.asyncSendDataToSerialPort (slip.frame message)).1, true)
      else none := by
  have hcapacity : handler.writeBuffer.reserve ≤ fortAgentBufferUnitSz := Nat.sub_le _ _
  rw [asyncSendMessageToSerialPort]
  by_cases hstate : handler.state ≠ .operational
  · rw [if_pos hstate, if_pos (Or.inl hstate)]
  by_cases hreserve : handler.writeBuffer.reserve < message.length
  · rw [if_neg hstate, if_pos hreserve, if_pos (Or.inr hreserve)]
  rw [if_neg hstate, if_neg hreserve, if_neg (not_or.mpr ⟨hstate, hreserve⟩)]
  by_cases hnil : message = []
  · rw [if_pos hnil, hnil, List.length_nil, sendCommands, if_neg (Nat.lt_irrefl 0)]
  · rw [if_neg hnil]
    exact handler.sendCommands_eq hnil (Nat.le_trans (Nat.not_lt.mp hreserve) hcapacity)

/-! ## All or nothing -/

/-- A call either takes a message, and then adds whole frames to the buffer that
carry the message, or it refuses the message, and then leaves the buffer alone. -/
def AllOrNothing (message : List UInt8) (before after : SerialHandler) (taken : Bool) : Prop :=
  if taken then
    ∃ frames payloads, List.Forall₂ slip.IsFrame frames payloads ∧
      payloads.flatten = message ∧
      after.writeBuffer.contents = before.writeBuffer.contents ++ frames.flatten
  else after.writeBuffer = before.writeBuffer

/-- The call returns, and takes the whole message or nothing. -/
def SendsAllOrNothing (handler : SerialHandler) (message : List UInt8) : Prop :=
  ∃ after taken, handler.asyncSendMessageToSerialPort message message.length =
      some (after, taken) ∧ AllOrNothing message handler after taken

/-- However a message is cut into frames, they are no shorter than the one frame of
the whole. -/
theorem length_frame_le_of_payloads {frames payloads : List (List UInt8)}
    (hframes : List.Forall₂ slip.IsFrame frames payloads) (hne : payloads.flatten ≠ []) :
    (slip.frame payloads.flatten).length ≤ frames.flatten.length := by
  have hpos : 0 < payloads.length := List.length_pos_iff.mpr fun hnil ↦ hne (by rw [hnil]; rfl)
  rw [slip.flatten_of_isFrame hframes, slip.length_flatMap_frame, slip.length_frame]
  omega

/-- A message that passes the check is taken whole exactly if its frame fits. -/
theorem sendsAllOrNothing_iff (handler : SerialHandler) {message : List UInt8}
    (hstate : handler.state = .operational)
    (hreserve : message.length ≤ handler.writeBuffer.reserve) (hne : message ≠ []) :
    handler.SendsAllOrNothing message ↔
      (slip.frame message).length ≤ handler.writeBuffer.reserve := by
  have hcapacity : handler.writeBuffer.reserve ≤ fortAgentBufferUnitSz := Nat.sub_le _ _
  have hcheck : ¬(handler.state ≠ .operational ∨
      handler.writeBuffer.reserve < message.length) :=
    not_or.mpr ⟨not_not.mpr hstate, Nat.not_lt.mpr hreserve⟩
  have hcontents := handler.contents_asyncSendData (slip.frame message) hstate
  unfold SendsAllOrNothing
  rw [asyncSendMessageToSerialPort_eq, if_neg hcheck, if_neg hne]
  constructor
  · rintro ⟨after, taken, hsend, hall⟩
    split at hsend
    · cases hsend
      obtain ⟨frames, payloads, hframes, hpayloads, hafter⟩ := hall
      -- the frames are what fits of the one frame, and no shorter than all of it
      have hflatten : frames.flatten = (slip.frame message).take handler.writeBuffer.reserve :=
        List.append_cancel_left (hafter.symm.trans hcontents)
      have hle := length_frame_le_of_payloads hframes (by rw [hpayloads]; exact hne)
      rw [hpayloads, hflatten] at hle
      exact Nat.le_trans hle (List.length_take_le _ _)
    · cases hsend
  · intro hframe
    rw [if_pos (Nat.le_trans hframe hcapacity)]
    refine ⟨_, true, rfl, [slip.frame message], [message], ?_, List.flatten_singleton, ?_⟩
    · exact .cons (slip.isFrame_iff.mpr rfl) .nil
    · rw [hcontents, List.take_of_length_le hframe, List.flatten_singleton]

/-- The frame of a message, with what it takes beyond the message. -/
theorem length_slip_frame (message : List UInt8) :
    (slip.frame message).length = message.length + message.countP (fun byte ↦
      byte = slipSpecialByteEnd ∨ byte = slipSpecialByteEsc) + 2 := by
  rw [slip.length_frame, slip.length_escape]
  rfl

/-- **All or nothing.**  A call takes the whole message or nothing of it exactly if
the handler is not operational, or the message is longer than the free space, or it
is empty, or there is also room for two delimiters and for an escape for each byte
that needs one. -/
theorem all_or_nothing (handler : SerialHandler) (message : List UInt8) :
    handler.SendsAllOrNothing message ↔
      handler.state ≠ .operational ∨ handler.writeBuffer.reserve < message.length ∨
        message = [] ∨
        message.length + message.countP (fun byte ↦ byte = slipSpecialByteEnd ∨
            byte = slipSpecialByteEsc) + 2 ≤ handler.writeBuffer.reserve := by
  rw [← length_slip_frame]
  by_cases hcheck : handler.state ≠ .operational ∨ handler.writeBuffer.reserve < message.length
  · refine iff_of_true ⟨handler, false, ?_, rfl⟩ ?_
    · rw [asyncSendMessageToSerialPort_eq, if_pos hcheck]
    · exact hcheck.imp_right Or.inl
  obtain ⟨hstate, hreserve⟩ := not_or.mp hcheck
  by_cases hnil : message = []
  · refine iff_of_true ⟨handler, true, ?_, [], [], .nil, hnil.symm, ?_⟩
      (Or.inr (Or.inr (Or.inl hnil)))
    · rw [asyncSendMessageToSerialPort_eq, if_neg hcheck, if_pos hnil]
    · exact (List.append_nil _).symm
  · rw [handler.sendsAllOrNothing_iff (not_not.mp hstate) (Nat.not_lt.mp hreserve) hnil]
    simp only [hstate, hreserve, hnil, false_or]

/-- Two bytes are free. -/
def nearlyFull : SerialHandler where
  state := .operational
  writeBuffer :=
    { slots := Vector.replicate txBufferSize 0
      first := 0
      size := 510
      first_lt := by decide
      size_le := by decide }
  writeInProgress := true
  writes := [(0, 510)]

/-- A message of two bytes passes the check, and is reported sent.  What is buffered
is the beginning of its frame. -/
theorem truncated_frame_taken :
    (∃ after, nearlyFull.asyncSendMessageToSerialPort [1, 2] 2 = some (after, true) ∧
      after.writeBuffer.contents = nearlyFull.writeBuffer.contents ++ [slipSpecialByteEnd, 1]) ∧
      ¬nearlyFull.SendsAllOrNothing [1, 2] := by
  have hreserve : nearlyFull.writeBuffer.reserve = 2 := rfl
  have hsend := nearlyFull.asyncSendMessageToSerialPort_eq [1, 2]
  have hcontents := nearlyFull.contents_asyncSendData (slip.frame [1, 2]) rfl
  refine ⟨⟨_, ?_, hcontents⟩, ?_⟩
  · rw [hreserve, if_neg (by decide), if_neg (by decide), if_pos (by decide)] at hsend
    exact hsend
  · rw [nearlyFull.sendsAllOrNothing_iff rfl (by decide) (by decide), hreserve]
    decide

/-! ## The bounds of the command -/

/-- A message passes the check that is made before it is encoded. -/
def PassesCheck (handler : SerialHandler) (message : List UInt8) : Prop :=
  handler.state = .operational ∧ message.length ≤ handler.writeBuffer.reserve

/-- A call writes at no index from 512 on, and with any buffer that is long enough the
16-bit counter of the encoder ends at the length of what has been written. -/
def EncodesInside (handler : SerialHandler) (message : List UInt8) : Prop :=
  handler.asyncSendMessageToSerialPort message message.length ≠ none ∧
    ∀ buffer written length,
      createSlipEncodedMessage buffer message (UInt32.ofNat message.length) =
        some (written, length) → length.toNat = (slip.frame message).length

/-- The counter does not wrap. -/
theorem length_of_encoded {message buffer written : List UInt8} {length : UInt32}
    (hunit : message.length ≤ fortAgentBufferUnitSz)
    (h : createSlipEncodedMessage buffer message (UInt32.ofNat message.length) =
      some (written, length)) : length.toNat = (slip.frame message).length := by
  have hlen : (UInt32.ofNat message.length).toNat = message.length :=
    UInt32.toNat_ofNat_of_lt' (Nat.lt_of_le_of_lt hunit (by decide))
  have hescape := slip.length_escape_le message
  rw [createSlipEncodedMessage_eq _ _ _ (by rw [hlen]; exact hunit) (Nat.le_of_eq hlen), hlen,
    List.take_length] at h
  dsimp only at h
  split at h
  · obtain ⟨-, rfl⟩ := Prod.mk.inj (Option.some.inj h)
    refine UInt32.toNat_ofNat_of_lt' ?_
    rw [slip.length_frame]
    simp only [fortAgentBufferUnitSz] at hunit
    simp only [UInt32.size]
    omega
  · cases h

/-- **The bounds of the command.**  The frame of a message that passes the check stays
inside the command exactly if the message, an escape for each byte that needs one, and
two delimiters are no more than 512 bytes.  The counter is right in any case. -/
theorem encodesInside_iff {handler : SerialHandler} {message : List UInt8}
    (hcheck : handler.PassesCheck message) :
    handler.EncodesInside message ↔
      message.length + message.countP (fun byte ↦ byte = slipSpecialByteEnd ∨
          byte = slipSpecialByteEsc) + 2 ≤ fortAgentBufferUnitSz := by
  obtain ⟨hstate, hreserve⟩ := hcheck
  have hunit : message.length ≤ fortAgentBufferUnitSz :=
    Nat.le_trans hreserve (Nat.sub_le _ _)
  have hpass : ¬(handler.state ≠ .operational ∨
      handler.writeBuffer.reserve < message.length) :=
    not_or.mpr ⟨not_not.mpr hstate, Nat.not_lt.mpr hreserve⟩
  rw [EncodesInside, and_iff_left fun _ _ _ ↦ length_of_encoded hunit,
    asyncSendMessageToSerialPort_eq, if_neg hpass, ← length_slip_frame]
  by_cases hnil : message = []
  · subst hnil
    exact iff_of_true (Option.some_ne_none _) (by decide)
  · rw [if_neg hnil]
    split
    · next hframe => exact iff_of_true (Option.some_ne_none _) hframe
    · next hframe => exact iff_of_false (not_not.mpr rfl) hframe

/-- Two bytes into a buffer with room for two. -/
theorem encodesInside_pair : nearlyFull.EncodesInside [1, 2] :=
  (encodesInside_iff ⟨rfl, by decide⟩).mpr (by decide)

/-- Nothing is buffered. -/
def drained : SerialHandler where
  state := .operational
  writeBuffer := .empty (Vector.replicate txBufferSize 0) txBufferSize_pos
  writeInProgress := false
  writes := []

/-- A message of 511 zeros passes the check, and its frame of 513 bytes is written past
the end of the command. -/
theorem command_overrun :
    drained.PassesCheck (List.replicate 511 0) ∧
      drained.asyncSendMessageToSerialPort (List.replicate 511 0) 511 = none ∧
      ¬drained.EncodesInside (List.replicate 511 0) := by
  have hcheck : drained.PassesCheck (List.replicate 511 0) := ⟨rfl, by decide +kernel⟩
  have hlength : (List.replicate 511 (0 : UInt8)).length = 511 := List.length_replicate
  have hsend := drained.asyncSendMessageToSerialPort_eq (List.replicate 511 0)
  rw [hlength, if_neg (by decide +kernel), if_neg (by simp), if_neg (by decide +kernel)] at hsend
  refine ⟨hcheck, hsend, fun hinside ↦ hinside.1 ?_⟩
  rw [hlength]
  exact hsend

end SerialHandler

end FortAgent.Serial
