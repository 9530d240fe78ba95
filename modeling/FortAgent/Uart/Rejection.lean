import FortAgent.Uart.Bridge

/-!
# Messages that are not sent on

The tracking rules name three classes of messages, requests, responses and Empty, and
say of any other that it is not sent.  The codes of the others are reserved.  Towards
the remote host the tracker throws, and so nothing is sent.  Towards the serial port
`udpToSerial` writes a line to the log and returns, and its caller sends.
-/

namespace FortAgent.Uart

open Coap Serial Jaus

/-! ## Classes of messages -/

/-- What the tracking rules let through. -/
def Admissible (bytes : List UInt8) : Prop :=
  looksLikeCoap bytes bytes.length = some true ∧
    (isRequest bytes = some true ∨ isResponse bytes = some true ∨ isEmpty bytes = some true)

/-- A CoAP message with a code of a reserved class. -/
def Reserved (bytes : List UInt8) : Prop :=
  looksLikeCoap bytes bytes.length = some true ∧
    ∃ code, getCode bytes = some code ∧
      (codeClass code = 1 ∨ codeClass code = 6 ∨ codeClass code = 7)

/-- The reserved classes are those that the three predicates leave over. -/
theorem codeClass_reserved_iff (code : UInt8) :
    (codeClass code = 1 ∨ codeClass code = 6 ∨ codeClass code = 7) ↔
      ¬(codeIsRequest code = true ∨ codeIsResponse code = true ∨ codeIsEmpty code = true) := by
  revert code
  decide +kernel

theorem admissible_bytes (m : Message) :
    Admissible m.bytes ↔ m.isRequest = true ∨ m.isResponse = true ∨ m.isEmpty = true := by
  have hlooks := m.looksLikeCoap_bytes []
  have hrequest := m.isRequest_bytes []
  have hresponse := m.isResponse_bytes []
  have hempty := m.isEmpty_bytes []
  rw [List.append_nil] at hlooks hrequest hresponse hempty
  simp only [Admissible, hlooks, hrequest, hresponse, hempty, true_and, Option.some.injEq]

/-- A message is reserved if it is not let through. -/
theorem reserved_bytes (m : Message) : Reserved m.bytes ↔ ¬Admissible m.bytes := by
  have hlooks := m.looksLikeCoap_bytes []
  have hcode : getCode m.bytes = some m.code := rfl
  rw [List.append_nil] at hlooks
  rw [admissible_bytes, Reserved, hcode, Message.isRequest, Message.isResponse, Message.isEmpty,
    ← codeClass_reserved_iff]
  simp only [hlooks, true_and, Option.some.injEq, exists_eq_left']

/-- What is not a message is in no class. -/
theorem not_reserved_of_not_message {bytes : List UInt8} (h : ∀ m : Message, bytes ≠ m.bytes) :
    ¬Reserved bytes := by
  rintro ⟨hlooks, -⟩
  obtain ⟨m, slack, hbytes, hlen⟩ := (looksLikeCoap_iff (Nat.le_refl _)).mp hlooks
  obtain rfl : slack = [] := by
    have hlength := congrArg List.length hbytes
    rw [List.length_append, hlen] at hlength
    exact List.length_eq_zero_iff.mp (Nat.left_eq_add.mp hlength)
  exact h m (by rw [hbytes, List.append_nil])

section Directions

variable (crc8 : List UInt8 → UInt8)

/-! ## Towards the serial port -/

/-- A call has asked the serial handler to send.  The handler may still refuse; if the
frame of the message is too long for the command, the call is undefined. -/
def HandsOver : Outcome (UartCoapBridge × Forwarded) → Prop
  | .returned (_, .sent _ _) | .undefined => True
  | _ => False

namespace UartCoapBridge

variable (bridge : UartCoapBridge)

/-- A message is handed over, whatever its class. -/
theorem handsOver_message (now : SteadyTime) (port : UInt16) {datagram : List UInt8} {m : Message}
    (hm : datagram.take fortAgentBufferUnitSz = m.bytes) :
    HandsOver (bridge.receiveFromRemote crc8 now true port datagram) := by
  have hunit : m.bytes.length ≤ fortAgentBufferUnitSz := by
    rw [← hm]
    exact List.length_take_le _ _
  rw [bridge.receiveFromRemote_message crc8 now port hm,
    bridge.forward_message crc8 now port (Nat.add_le_add_right hunit 3) (by simp; omega)]
  dsimp only
  split <;> trivial

/-- Other bytes are not. -/
theorem not_handsOver_of_not_message (now : SteadyTime) (port : UInt16) {datagram : List UInt8}
    (h : ∀ m : Message, datagram.take fortAgentBufferUnitSz ≠ m.bytes) :
    ¬HandsOver (bridge.receiveFromRemote crc8 now true port datagram) := by
  have hunit : (datagram.take fortAgentBufferUnitSz).length ≤ fortAgentBufferUnitSz :=
    List.length_take_le _ _
  unfold receiveFromRemote
  generalize datagram.take fortAgentBufferUnitSz = data at h hunit
  by_cases hnil : data = []
  · simp only [hnil, if_true]
    exact id
  · have hlooks := looksLikeCoap_of_not_message hnil h
      (List.replicate (fortAgentBufferUnitSz + 3 - data.length) 0)
    have hroom : data.length ≤ fortAgentBufferUnitSz + 3 := Nat.le_add_right_of_le hunit
    simp only [hnil, if_false, Bool.not_true, Bool.false_eq_true, forward]
    rw [run_udpToSerial_of_not_coap]
    · exact id
    · exact hroom
    · exact hlooks

/-- A datagram of the remote host is handed over exactly if what is received of it is a
message. -/
theorem handsOver_iff (now : SteadyTime) (port : UInt16) (datagram : List UInt8) :
    HandsOver (bridge.receiveFromRemote crc8 now true port datagram) ↔
      ∃ m : Message, datagram.take fortAgentBufferUnitSz = m.bytes := by
  constructor
  · intro hover
    by_contra hnot
    exact bridge.not_handsOver_of_not_message crc8 now port (fun m hm ↦ hnot ⟨m, hm⟩) hover
  · rintro ⟨m, hm⟩
    exact bridge.handsOver_message crc8 now port hm

end UartCoapBridge

/-! ## From the serial port -/

/-- A message from the serial port is sent by UDP or given to the JAUS bridge. -/
def Passes : Outcome Delivery → Prop
  | .returned (.jaus _ _) | .returned (.remote _ _) => True
  | _ => False

/-- The tracker knows no port for a message of another class. -/
theorem destination_eq_none_iff (tracker : CoapPortTracker) (m : Message) :
    tracker.destination crc8 m = none ↔ ¬Admissible m.bytes := by
  rw [admissible_bytes, CoapPortTracker.destination]
  cases m.isRequest <;> cases m.isResponse <;> cases m.isEmpty <;> simp

namespace UartCoapBridge

variable (bridge : UartCoapBridge)

theorem passes_message_iff (m : Message) :
    Passes (bridge.route crc8 m.bytes) ↔ Admissible m.bytes := by
  rw [bridge.route_message crc8 m]
  cases hport : bridge.coapPorts.destination crc8 m with
  | none =>
      rw [deliveryOf_of_no_destination crc8 hport]
      exact iff_of_false id ((destination_eq_none_iff crc8 bridge.coapPorts m).mp hport)
  | some port =>
      have hclass : Admissible m.bytes := by
        by_contra hnot
        rw [(destination_eq_none_iff crc8 bridge.coapPorts m).mpr hnot] at hport
        cases hport
      refine iff_of_true ?_ hclass
      cases hjaus : isJausPort port with
      | true =>
          rw [deliveryOf_of_jaus crc8 hport hjaus]
          trivial
      | false =>
          rw [deliveryOf_of_remote crc8 hport hjaus]
          trivial

/-- From the serial port nothing passes but what is admissible. -/
theorem admissible_of_passes {message : List UInt8} (h : Passes (bridge.route crc8 message)) :
    Admissible message := by
  by_cases hmessage : ∃ m : Message, message = m.bytes
  · obtain ⟨m, rfl⟩ := hmessage
    exact (bridge.passes_message_iff crc8 m).mp h
  · by_cases hnil : message = []
    · rw [route, if_pos hnil] at h
      exact h.elim
    · rw [bridge.route_of_not_message crc8 hnil fun m hm ↦ hmessage ⟨m, hm⟩] at h
      exact h.elim

/-! ## Both directions -/

/-- Neither direction lets anything through but requests, responses and Empty: a datagram
of the remote host that is handed to the serial handler is one of these, as far as it
is received, and so is a message from the serial port that is passed on. -/
def RejectsOthers (now : SteadyTime) (port : UInt16) (message : List UInt8) : Prop :=
  (HandsOver (bridge.receiveFromRemote crc8 now true port message) →
      Admissible (message.take fortAgentBufferUnitSz)) ∧
    (Passes (bridge.route crc8 message) → Admissible message)

/-- **Rejection.**  Both directions reject what the tracking rules reject exactly if the
message, as it is received from the remote host, is not of a reserved class. -/
theorem rejectsOthers_iff (now : SteadyTime) (port : UInt16) (message : List UInt8) :
    bridge.RejectsOthers crc8 now port message ↔
      ¬Reserved (message.take fortAgentBufferUnitSz) := by
  rw [RejectsOthers, and_iff_left (bridge.admissible_of_passes crc8), handsOver_iff]
  constructor
  · rintro hrejects hreserved
    by_cases hmessage : ∃ m : Message, message.take fortAgentBufferUnitSz = m.bytes
    · have hadmissible := hrejects hmessage
      obtain ⟨m, hm⟩ := hmessage
      rw [hm] at hreserved hadmissible
      exact (reserved_bytes m).mp hreserved hadmissible
    · exact not_reserved_of_not_message (fun m hm ↦ hmessage ⟨m, hm⟩) hreserved
  · rintro hreserved ⟨m, hm⟩
    rw [hm] at hreserved ⊢
    exact not_not.mp ((reserved_bytes m).not.mp hreserved)

end UartCoapBridge

end Directions

/-- A message with the code 1.00. -/
def reservedMessage : Message := ⟨.con, 0x20, 0x1234, [], [], Nat.zero_le _⟩

/-- The message is dropped on its way from the serial port, and queued on its way to it. -/
theorem reserved_sent_to_serial :
    ¬idleBridge.RejectsOthers crc8Poly07 0 7777 reservedMessage.bytes ∧
      idleBridge.route crc8Poly07 reservedMessage.bytes =
        .returned (.dropped "Packet from serial is not valid CoAP") ∧
      ∃ after, idleBridge.receiveFromRemote crc8Poly07 0 true 7777 reservedMessage.bytes =
          .returned (after, .sent reservedMessage.bytes true) ∧
        after.serialHandler.writeBuffer.contents = slip.frame reservedMessage.bytes := by
  have hunit : reservedMessage.bytes.length ≤ fortAgentBufferUnitSz := by decide
  let frame := slip.frame reservedMessage.bytes
  let after : UartCoapBridge :=
    ⟨idleBridge.coapPorts, (idleBridge.serialHandler.asyncSendDataToSerialPort frame).1⟩
  refine ⟨?_, idleBridge.route_message crc8Poly07 reservedMessage, after, ?_,
    idleBridge.serialHandler.contents_asyncSendData frame rfl⟩
  · intro hrejects
    have hadmissible := hrejects.1 ((idleBridge.handsOver_iff crc8Poly07 0 7777 _).mpr
      ⟨reservedMessage, List.take_of_length_le hunit⟩)
    rw [List.take_of_length_le hunit, admissible_bytes] at hadmissible
    exact absurd hadmissible (by decide)
  · rw [idleBridge.receiveFromRemote_message crc8Poly07 0 7777 (List.take_of_length_le hunit),
      idleBridge.forward_message crc8Poly07 0 7777 (Nat.add_le_add_right hunit 3)
        (by decide +kernel)]
    dsimp only
    rw [SerialHandler.asyncSendMessageToSerialPort_eq, if_neg (by decide +kernel),
      if_neg (UartCoapBridge.bytes_ne_nil _), if_pos (by decide +kernel)]
    rfl

end FortAgent.Uart
