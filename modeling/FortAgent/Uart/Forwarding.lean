import FortAgent.Uart.Bridge
import FortAgent.Serial.SlipStream

/-!
# Datagrams that can be forwarded

A datagram of up to 512 bytes is received, up to three bytes are added to it, and
the result is encoded into a command of 512 bytes, which is pushed into a ring
buffer of 512 bytes.  The encoding adds two bytes more, and one for each byte that
is escaped, so not everything that is received can be forwarded.  What cannot is
refused, if it is longer than the ring buffer before it is encoded; if it is only
longer afterwards, the encoder writes past the end of the command.

`forwards_iff` says which messages go through.
-/

namespace FortAgent.Uart

open Coap Serial Transducer

/-- The number of bytes that are escaped. -/
def specialBytes (bytes : List UInt8) : ℕ :=
  bytes.countP fun byte ↦ byte = slipSpecialByteEnd ∨ byte = slipSpecialByteEsc

theorem specialBytes_append (bytes bytes' : List UInt8) :
    specialBytes (bytes ++ bytes') = specialBytes bytes + specialBytes bytes' :=
  List.countP_append

theorem specialBytes_cons (byte : UInt8) (bytes : List UInt8) :
    specialBytes (byte :: bytes) = specialBytes [byte] + specialBytes bytes :=
  specialBytes_append [byte] bytes

theorem length_slipFrame (message : List UInt8) :
    (slip.frame message).length = message.length + specialBytes message + 2 :=
  SerialHandler.length_slip_frame message

/-- The first byte of a message is never escaped. -/
theorem specialBytes_headerByte (type : MessageType) {tokenLen : UInt8} (h : tokenLen ≤ 8) :
    specialBytes [headerByte type tokenLen] = 0 := by
  have hplain : ∀ header : UInt8, header &&& 0xC0 = 0x40 → specialBytes [header] = 0 := by
    decide +kernel
  exact hplain _ (version_headerByte type h)

/-- Tracking bytes add their own special bytes, and nothing else is changed in this
respect. -/
theorem specialBytes_withTracking (crc8 : List UInt8 → UInt8) (m : Message) (port : UInt16)
    (h : m.token.length ≤ 4) :
    specialBytes (m.withTracking crc8 port h).bytes =
      specialBytes m.bytes + specialBytes (trackingToken crc8 port) := by
  have hheader (m : Message) : specialBytes m.header =
      specialBytes [m.code, highByte m.mid, lowByte m.mid] := by
    rw [Message.header, specialBytes_cons, specialBytes_headerByte m.type m.tokenLen_le,
      Nat.zero_add]
  simp only [Message.bytes, specialBytes_append, hheader]
  simp only [Message.withTracking, Message.withToken, specialBytes_append]
  omega

/-- A fresh decoder delivers a frame. -/
theorem received_frame
    (recvMessage : Vector UInt8 fortAgentBufferUnitSz → Nat → Vector UInt8 fortAgentBufferUnitSz)
    (buf : Vector UInt8 fortAgentBufferUnitSz) {message : List UInt8}
    (hleast : 2 ≤ message.length) (hunit : message.length ≤ fortAgentBufferUnitSz) :
    (outputs (SlipHandler.readByte recvMessage) (.init buf) (slip.frame message)).filterMap
      ReadResult.received = [message] := by
  have hevents := outputs_of_simulation (SlipHandler.receive_toReceiver recvMessage) (.init buf)
    (slip.frame message)
  obtain ⟨-, hframe⟩ := slip.outputs_frame fortAgentBufferUnitSz 2 Nat.zero_lt_two hleast hunit
  have hinitial : (SlipHandler.init buf).toReceiver = .initial := rfl
  rw [hinitial, hframe] at hevents
  rw [← ReadResult.messages_event, ← hevents, Stuffing.messages_append, Stuffing.messages_silent]
  rfl

section Forwards

variable (crc8 : List UInt8 → UInt8)
  (recvMessage : Vector UInt8 fortAgentBufferUnitSz → Nat → Vector UInt8 fortAgentBufferUnitSz)
  (buf : Vector UInt8 fortAgentBufferUnitSz)

/-- A datagram that is received from this port is forwarded: the serial handler
reports it sent, and from the bytes that are queued a fresh decoder reads exactly the
message that the tracker has made of it. -/
def Forwards (bridge : UartCoapBridge) (now : SteadyTime) (port : UInt16)
    (datagram : List UInt8) : Prop :=
  ∃ after message queued,
    bridge.receiveFromRemote crc8 now true port datagram =
        .returned (after, .sent message true) ∧
      after.serialHandler.writeBuffer.contents =
        bridge.serialHandler.writeBuffer.contents ++ queued ∧
      (outputs (SlipHandler.readByte recvMessage) (.init buf) queued).filterMap
        ReadResult.received = [message]

/-- A message goes through exactly if its frame fits the command. -/
theorem forwards_iff_length_frame {bridge : UartCoapBridge}
    (hstate : bridge.serialHandler.state = .operational)
    (hempty : bridge.serialHandler.writeBuffer.size = 0) (now : SteadyTime) (port : UInt16)
    {m : Message} (hunit : m.bytes.length ≤ fortAgentBufferUnitSz) :
    Forwards crc8 recvMessage buf bridge now port m.bytes ↔
      (slip.frame (m.forwarded crc8 port).bytes).length ≤ fortAgentBufferUnitSz := by
  have hreserve : bridge.serialHandler.writeBuffer.reserve = fortAgentBufferUnitSz :=
    congrArg (fortAgentBufferUnitSz - ·) hempty
  have hmax : fortAgentBufferUnitSz + 3 ≤
      (m.bytes ++ List.replicate (fortAgentBufferUnitSz + 3 - m.bytes.length) 0).length := by
    rw [List.length_append, List.length_replicate]
    omega
  have hforward := bridge.forward_message crc8 now port (Nat.add_le_add_right hunit 3) hmax
  have hlength := length_slipFrame (m.forwarded crc8 port).bytes
  unfold Forwards
  rw [bridge.receiveFromRemote_message crc8 now port (List.take_of_length_le hunit), hforward]
  dsimp only
  rw [SerialHandler.asyncSendMessageToSerialPort_eq, hreserve,
    if_neg (UartCoapBridge.bytes_ne_nil _)]
  by_cases hlong : fortAgentBufferUnitSz < (m.forwarded crc8 port).bytes.length
  · rw [if_pos (.inr hlong)]
    refine iff_of_false ?_ (by omega)
    rintro ⟨after, message, queued, hsent, -⟩
    cases hsent
  rw [if_neg (not_or.mpr ⟨not_not.mpr hstate, hlong⟩)]
  by_cases hframe : (slip.frame (m.forwarded crc8 port).bytes).length ≤ fortAgentBufferUnitSz
  · rw [if_pos hframe]
    refine iff_of_true ⟨_, _, slip.frame (m.forwarded crc8 port).bytes, rfl, ?_, ?_⟩ hframe
    · rw [SerialHandler.contents_asyncSendData _ _ hstate, hreserve,
        List.take_of_length_le hframe]
    · refine received_frame recvMessage buf ?_ (Nat.not_lt.mp hlong)
      rw [Message.length_bytes, minLen]
      omega
  · rw [if_neg hframe]
    refine iff_of_false ?_ hframe
    rintro ⟨after, message, queued, hsent, -⟩
    cases hsent

/-- **Datagrams that can be forwarded.**  With an operational handler and an empty
buffer, a message of at most 512 bytes goes through exactly if there is room in 512
bytes for the message, for the tracking bytes of a request with a short token, for an
escape for each special byte in them, and for two delimiters. -/
theorem forwards_iff {bridge : UartCoapBridge}
    (hstate : bridge.serialHandler.state = .operational)
    (hempty : bridge.serialHandler.writeBuffer.size = 0) (now : SteadyTime) (port : UInt16)
    {m : Message} (hunit : m.bytes.length ≤ fortAgentBufferUnitSz) :
    Forwards crc8 recvMessage buf bridge now port m.bytes ↔
      m.bytes.length + specialBytes m.bytes +
        (if m.isRequest = true ∧ m.token.length ≤ 4 then
          3 + specialBytes (trackingToken crc8 port) else 0) + 2 ≤ fortAgentBufferUnitSz := by
  rw [forwards_iff_length_frame crc8 recvMessage buf hstate hempty now port hunit,
    length_slipFrame]
  by_cases hshort : m.isRequest = true ∧ m.token.length ≤ 4
  · rw [if_pos hshort, m.forwarded_of_short crc8 port hshort.1 hshort.2,
      m.length_withTracking crc8 port hshort.2, specialBytes_withTracking]
    omega
  · rw [if_neg hshort, m.forwarded_of_not crc8 port hshort, Nat.add_zero]

end Forwards

/-! ## Concrete datagrams -/

/-- A GET without token goes through. -/
theorem forwards_get :
    Forwards crc8Poly07 (fun buf _ ↦ buf) (Vector.replicate fortAgentBufferUnitSz 0) idleBridge 0
      7777 getRequest.bytes :=
  (forwards_iff crc8Poly07 _ _ rfl rfl 0 7777 (by decide)).mpr (by decide +kernel)

/-- A GET without token, with a payload of this byte. -/
def requestWith (count : ℕ) (byte : UInt8) : Message :=
  ⟨.con, 0x01, 0x3333, [], 0xFF :: List.replicate count byte, Nat.zero_le _⟩

theorem length_requestWith (count : ℕ) (byte : UInt8) :
    (requestWith count byte).bytes.length = count + 5 := by
  simp [requestWith, Message.length_bytes, minLen]
  omega

/-- A GET of 512 bytes is refused, because of its tracking bytes; and one of 265 bytes,
if most of them are escaped, makes the encoder write past the end of the command. -/
theorem large_requests_lost :
    (requestWith 507 0x41).bytes.length = 512 ∧ (requestWith 260 0xC0).bytes.length = 265 ∧
      ¬Forwards crc8Poly07 (fun buf _ ↦ buf) (Vector.replicate fortAgentBufferUnitSz 0) idleBridge
        0 7777 (requestWith 507 0x41).bytes ∧
      idleBridge.receiveFromRemote crc8Poly07 0 true 7777 (requestWith 260 0xC0).bytes =
        .undefined := by
  have hfull : (requestWith 507 0x41).bytes.length ≤ fortAgentBufferUnitSz :=
    Nat.le_of_eq (length_requestWith 507 0x41)
  have hescaped : (requestWith 260 0xC0).bytes.length ≤ fortAgentBufferUnitSz := by
    rw [length_requestWith]
    decide
  refine ⟨length_requestWith 507 0x41, length_requestWith 260 0xC0, ?_, ?_⟩
  · rw [forwards_iff_length_frame crc8Poly07 _ _ rfl rfl 0 7777 hfull]
    decide +kernel
  · rw [idleBridge.receiveFromRemote_message crc8Poly07 0 7777 (List.take_of_length_le hescaped),
      idleBridge.forward_message crc8Poly07 0 7777 (Nat.add_le_add_right hescaped 3)
        (by decide +kernel)]
    dsimp only
    rw [SerialHandler.asyncSendMessageToSerialPort_eq, if_neg (by decide +kernel),
      if_neg (UartCoapBridge.bytes_ne_nil _), if_neg (by decide +kernel)]

end FortAgent.Uart
