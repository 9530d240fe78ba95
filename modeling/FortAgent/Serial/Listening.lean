import FortAgent.Serial.Handler

/-!
# Listening on the serial port

The receiving half of `SerialHandler`.  A read completes with up to 512 bytes, which go
from the temporary buffer of the read into a ring buffer of 512 bytes, and from there one
by one to `slip_read_byte`; then the next read is started.

The ring buffer is emptied in every completion, so it is empty when the next one pushes
into it, and always has room for a whole read.  How the port has cut the stream into reads
therefore makes no difference (`read_chunking`).
-/

namespace FortAgent.Serial

open Transducer

/-! ## The listener -/

/-- `RX_BUFFER_SIZE`. -/
def rxBufferSize : Nat := fortAgentBufferUnitSz

theorem rxBufferSize_pos : 0 < rxBufferSize := by decide

/-- The bytes of a read, at least one, and no more than the temporary buffer holds. -/
structure SerialRead where
  bytes : List UInt8
  bytes_ne_nil : bytes ≠ []
  length_le : bytes.length ≤ fortAgentBufferUnitSz

/-- What `async_read_some` completes with. -/
inductive ReadCompletion
  | data (read : SerialRead)
  /-- `operation_aborted`. -/
  | aborted
  | failed (message : String)

/-- The bytes that have been read. -/
def ReadCompletion.bytes : ReadCompletion → List UInt8
  | .data read => read.bytes
  | _ => []

/-- What happens in a completion: the messages that `onData` is called with, and the text
that `onFailure` is called with. -/
structure ListenEffects where
  onData : List (List UInt8)
  onFailure : Option String
deriving DecidableEq, Repr

/-- The fields of a handler that listening reads or changes, what `onData` works on, and
whether a read has been started. -/
structure SerialListener (ω : Type*) where
  state : State
  readTempBuffer : Vector UInt8 fortAgentBufferUnitSz
  readBuffer : RingBuffer UInt8 rxBufferSize
  slipHandle : SlipHandler fortAgentBufferUnitSz
  client : ω
  listening : Bool

/-- `onData` is given the buffer itself.  It may change the state it works on, and may leave
anything in the buffer. -/
abbrev OnData (ω : Type*) :=
  ω → Vector UInt8 fortAgentBufferUnitSz → Nat → ω × Vector UInt8 fortAgentBufferUnitSz

section Listener

variable {ω : Type*} (onData : OnData ω)

/-- `slip_read_byte`, with `onData` as its callback. -/
def slipReadByte (receiver : ω × SlipHandler fortAgentBufferUnitSz) (byte : UInt8) :
    (ω × SlipHandler fortAgentBufferUnitSz) × ReadResult :=
  let read := receiver.2.readByte (fun buf size ↦ (onData receiver.1 buf size).2) byte
  let client :=
    match read.2.received with
    | none => receiver.1
    | some _ => (onData receiver.1 receiver.2.buf receiver.2.size).1
  ((client, read.1), read.2)

namespace SerialListener

/-- What reads bytes. -/
def receiver (listener : SerialListener ω) : ω × SlipHandler fortAgentBufferUnitSz :=
  (listener.client, listener.slipHandle)

/-- The bytes that were read are put into the temporary buffer. -/
def fillTempBuffer (buf : Vector UInt8 fortAgentBufferUnitSz) (read : SerialRead) :
    Vector UInt8 fortAgentBufferUnitSz :=
  ⟨(read.bytes ++ buf.toList.drop read.bytes.length).toArray, by
    have hle := read.length_le
    simp
    omega⟩

def operationalFailure (listener : SerialListener ω) (errMsg : String) :
    SerialListener ω × ListenEffects :=
  ({ listener with state := .operationalError }, ⟨[], some errMsg⟩)

/-- The completion handler of `listenToSerialPort`. -/
def readCompleted (listener : SerialListener ω) :
    ReadCompletion → SerialListener ω × ListenEffects
  | .aborted => ({ listener with listening := false }, ⟨[], none⟩)
  | .failed message =>
    { listener with listening := false }.operationalFailure
      ("Error reading serial port: " ++ message)
  | .data read =>
    let readTempBuffer := fillTempBuffer listener.readTempBuffer read
    let pushed := listener.readBuffer.pushMany (readTempBuffer.toList.take read.bytes.length)
    let drained := pushed.1.drain (slipReadByte onData) listener.receiver
    ({ listener with
        readTempBuffer := readTempBuffer
        readBuffer := drained.1
        client := drained.2.1.1
        slipHandle := drained.2.1.2
        listening := listener.state == .operational },
      ⟨drained.2.2.filterMap ReadResult.received, none⟩)

/-- A handler that has been constructed.  The temporary buffer has been zeroed, the others
have not been initialised. -/
def new (slots : Vector UInt8 rxBufferSize) (slipBuffer : Vector UInt8 fortAgentBufferUnitSz)
    (client : ω) : SerialListener ω where
  state := .operational
  readTempBuffer := Vector.replicate fortAgentBufferUnitSz 0
  readBuffer := .empty slots rxBufferSize_pos
  slipHandle := .init slipBuffer
  client := client
  listening := true

/-! ## One completion -/

/-- What is taken out of the temporary buffer is what has been read into it. -/
theorem take_fillTempBuffer (buf : Vector UInt8 fortAgentBufferUnitSz) (read : SerialRead) :
    (fillTempBuffer buf read).toList.take read.bytes.length = read.bytes := by
  simp [fillTempBuffer]

/-- An empty ring buffer has room for a whole read. -/
theorem contents_pushMany_read {readBuffer : RingBuffer UInt8 rxBufferSize}
    (hempty : readBuffer.contents = []) (read : SerialRead) :
    (readBuffer.pushMany read.bytes).1.contents = read.bytes := by
  have hsize : readBuffer.size = 0 := by rw [← readBuffer.length_contents, hempty]; rfl
  have hreserve : read.bytes.length ≤ readBuffer.reserve := by
    rw [RingBuffer.reserve, hsize]
    exact read.length_le
  rw [(readBuffer.contents_pushMany read.bytes).1, hempty, List.nil_append,
    List.take_of_length_le hreserve]

/-- **One completion** with an empty ring buffer feeds what has been read to the receiver,
byte by byte, and leaves the ring buffer empty. -/
theorem readCompleted_eq {listener : SerialListener ω} (hempty : listener.readBuffer.contents = [])
    (completion : ReadCompletion) :
    let completed := listener.readCompleted onData completion
    completed.1.readBuffer.contents = [] ∧
      completed.1.receiver = final (slipReadByte onData) listener.receiver completion.bytes ∧
      completed.2.onData = (outputs (slipReadByte onData) listener.receiver
        completion.bytes).filterMap ReadResult.received := by
  cases completion with
  | aborted => exact ⟨hempty, rfl, rfl⟩
  | failed message => exact ⟨hempty, rfl, rfl⟩
  | data read =>
      let pushed := (listener.readBuffer.pushMany ((fillTempBuffer listener.readTempBuffer
        read).toList.take read.bytes.length)).1
      have hpushed : pushed.contents = read.bytes := by
        rw [← contents_pushMany_read hempty read, ← take_fillTempBuffer listener.readTempBuffer]
      obtain ⟨hdrained, hrun⟩ := pushed.drain_eq (slipReadByte onData) listener.receiver
      rw [hpushed] at hrun
      obtain ⟨hfinal, houtputs⟩ := Prod.ext_iff.mp hrun
      exact ⟨hdrained, hfinal, congrArg (List.filterMap ReadResult.received) houtputs⟩

/-! ## Runs -/

/-- What holds after the history `h` of a listener that has begun with this receiver. -/
structure ReadInvariant (start : ω × SlipHandler fortAgentBufferUnitSz)
    (h : List (Step (SerialListener ω) ReadCompletion ListenEffects))
    (listener : SerialListener ω) : Prop where
  empty : listener.readBuffer.contents = []
  receiver : listener.receiver =
    final (slipReadByte onData) start (h.flatMap fun r ↦ r.input.bytes)
  delivered : h.flatMap (fun r ↦ r.output.onData) = (outputs (slipReadByte onData) start
    (h.flatMap fun r ↦ r.input.bytes)).filterMap ReadResult.received

variable {onData}

/-- Every completion keeps the invariant. -/
theorem ReadInvariant.step {start : ω × SlipHandler fortAgentBufferUnitSz}
    {h : List (Step (SerialListener ω) ReadCompletion ListenEffects)}
    {listener : SerialListener ω} (hI : ReadInvariant onData start h listener)
    (completion : ReadCompletion) :
    ReadInvariant onData start (h ++ [record (readCompleted onData) listener completion])
      (listener.readCompleted onData completion).1 := by
  obtain ⟨hempty, hreceiver, hdelivered⟩ := readCompleted_eq onData hI.empty completion
  have hbytes : (h ++ [record (readCompleted onData) listener completion]).flatMap
      (fun r ↦ r.input.bytes) = h.flatMap (fun r ↦ r.input.bytes) ++ completion.bytes := by
    rw [List.flatMap_append, List.flatMap_singleton, record_input]
  refine ⟨hempty, ?_, ?_⟩
  · rw [hbytes, final_append, ← hI.receiver, hreceiver]
  · rw [hbytes, outputs_append, ← hI.receiver, List.filterMap_append, ← hI.delivered,
      ← hdelivered, List.flatMap_append, List.flatMap_singleton, record_output]

theorem readInvariant_run (onData : OnData ω) {listener : SerialListener ω}
    (hempty : listener.readBuffer.contents = []) (completions : List ReadCompletion) :
    ReadInvariant onData listener.receiver
      (history (readCompleted onData) listener completions)
      (final (readCompleted onData) listener completions) :=
  history_invariant' _ ⟨hempty, rfl, rfl⟩ (fun _ _ completion hI ↦ hI.step completion) completions

/-- **Chunking.**  However the stream is cut into reads, `onData` is called with the messages
that the same bytes lead to when they are read one by one, and the handler and what `onData`
works on end in the same state.  The ring buffer is empty when a read completes, so that
pushing the bytes of the read drops none. -/
theorem read_chunking (onData : OnData ω) (slots : Vector UInt8 rxBufferSize)
    (slipBuffer : Vector UInt8 fortAgentBufferUnitSz) (client : ω)
    (completions : List ReadCompletion) :
    let listener := SerialListener.new slots slipBuffer client
    let stream := completions.flatMap ReadCompletion.bytes
    (outputs (readCompleted onData) listener completions).flatMap ListenEffects.onData =
        (outputs (slipReadByte onData) listener.receiver stream).filterMap ReadResult.received ∧
      (final (readCompleted onData) listener completions).receiver =
        final (slipReadByte onData) listener.receiver stream ∧
      ∀ r ∈ history (readCompleted onData) listener completions,
        r.before.readBuffer.contents = [] ∧
          ∀ read, r.input = .data read →
            (r.before.readBuffer.pushMany read.bytes).1.contents = read.bytes := by
  intro listener stream
  have hnew : listener.readBuffer.contents = [] :=
    List.length_eq_zero_iff.mp listener.readBuffer.length_contents
  have hI := readInvariant_run onData hnew completions
  have hstream : (history (readCompleted onData) listener completions).flatMap
      (fun r ↦ r.input.bytes) = stream := by
    rw [← List.flatMap_map, history_inputs]
  refine ⟨?_, ?_, forall_mem_history (fun earlier completion ↦ ?_) completions⟩
  · rw [← hstream, ← hI.delivered, outputs, List.flatMap_map]
  · rw [hI.receiver, hstream]
  · have hempty := (readInvariant_run onData hnew earlier).empty
    exact ⟨hempty, fun read _ ↦ contents_pushMany_read hempty read⟩

end SerialListener

end Listener

end FortAgent.Serial
