import FortAgent.Uart.Bridge

/-!
# Frames from the serial port

A message from the serial port chooses its own way: its code, its token and its
message id decide about the port, and with the port about the function that reads its
payload.  `serialDataReceived` catches the exceptions of CoAP and no others.  So a
message ends the agent, or makes it read beyond the payload, exactly if it finds the
way to a function that cannot take its payload.
-/

namespace FortAgent.Uart

open Coap Jaus Joystick

section Frames

variable (crc8 : List UInt8 → UInt8) {Double : Type} (cbor : Tinycbor Double)

/-- A message in a tracker that finds the way to a function that cannot take its payload. -/
def Misfit (tracker : CoapPortTracker) (m : Message) : Prop :=
  ∃ port, tracker.destination crc8 m = some port ∧ BadPayload cbor port (walk m.rest).tail

/-- A payload that a call cannot take belongs to a port of the JAUS bridge. -/
theorem isJausPort_of_badPayload {port : UInt16} {payload : List UInt8}
    (h : BadPayload cbor port payload) : isJausPort port = true := by
  rcases h with ⟨-, ⟨rfl, -⟩ | ⟨rfl, -⟩⟩
  · exact isJausPort_value (by decide)
  · exact isJausPort_value (by decide)

theorem misfit_iff {tracker : CoapPortTracker} {m : Message} {port : UInt16}
    (hport : tracker.destination crc8 m = some port) :
    Misfit crc8 cbor tracker m ↔ BadPayload cbor port (walk m.rest).tail := by
  constructor
  · rintro ⟨port', hport', h⟩
    rwa [Option.some.inj (hport.symm.trans hport')]
  · intro h
    exact ⟨port, hport, h⟩

namespace UartCoapBridge

variable [Zero Double] (bridge : UartCoapBridge) (key : ℕ → List UInt8) (jausBridge : JausBridge)
  (telemetry : JausTelemetry Double)

/-- Some number of turns is enough for a call to fail. -/
def Fails (message : List UInt8) : Prop :=
  ∃ turns,
    (bridge.serialDataReceived crc8 cbor turns key message jausBridge telemetry).Failed

/-- The call for a message that goes to the JAUS bridge. -/
theorem fails_iff_of_jaus {message payload : List UInt8} {port : UInt16}
    (hroute : bridge.route crc8 message = .returned (.jaus port payload)) :
    bridge.Fails crc8 cbor key jausBridge telemetry message ↔ BadPayload cbor port payload := by
  simp only [Fails, serialDataReceived, hroute, Outcome.failed_map,
    evaluateCoapJausMessage_failed_iff]

/-- The call for a message that goes elsewhere. -/
theorem not_fails_of_not_jaus {message : List UInt8} {delivery : Delivery}
    (hroute : bridge.route crc8 message = .returned delivery)
    (hjaus : ∀ port payload, delivery ≠ .jaus port payload) :
    ¬bridge.Fails crc8 cbor key jausBridge telemetry message := by
  rintro ⟨turns, h⟩
  rw [serialDataReceived, hroute] at h
  cases delivery with
  | jaus port payload => exact hjaus port payload rfl
  | ignored | dropped what | remote port data => exact h

theorem fails_message_iff (m : Message) :
    bridge.Fails crc8 cbor key jausBridge telemetry m.bytes ↔
      Misfit crc8 cbor bridge.coapPorts m := by
  have hroute := bridge.route_message crc8 m
  cases hport : bridge.coapPorts.destination crc8 m with
  | none =>
      rw [deliveryOf_of_no_destination crc8 hport] at hroute
      refine iff_of_false (not_fails_of_not_jaus crc8 cbor bridge key jausBridge telemetry hroute
        fun _ _ ↦ Delivery.noConfusion) ?_
      rintro ⟨port, hsome, -⟩
      exact Option.some_ne_none port (hsome.symm.trans hport)
  | some port =>
      rw [misfit_iff crc8 cbor hport]
      cases hjaus : isJausPort port with
      | true =>
          rw [deliveryOf_of_jaus crc8 hport hjaus] at hroute
          exact fails_iff_of_jaus crc8 cbor bridge key jausBridge telemetry hroute
      | false =>
          rw [deliveryOf_of_remote crc8 hport hjaus] at hroute
          refine iff_of_false (not_fails_of_not_jaus crc8 cbor bridge key jausBridge telemetry
            hroute fun _ _ ↦ Delivery.noConfusion) fun h ↦ ?_
          exact Bool.false_ne_true (hjaus.symm.trans (isJausPort_of_badPayload cbor h))

/-- Other bytes are ignored or dropped. -/
theorem not_fails_of_not_message {message : List UInt8} (h : ∀ m : Message, message ≠ m.bytes) :
    ¬bridge.Fails crc8 cbor key jausBridge telemetry message := by
  by_cases hnil : message = []
  · have hroute : bridge.route crc8 message = .returned .ignored := by rw [route, if_pos hnil]
    exact not_fails_of_not_jaus crc8 cbor bridge key jausBridge telemetry hroute
      fun _ _ ↦ Delivery.noConfusion
  · exact not_fails_of_not_jaus crc8 cbor bridge key jausBridge telemetry
      (bridge.route_of_not_message crc8 hnil h) fun _ _ ↦ Delivery.noConfusion

end UartCoapBridge

end Frames

/-- As much of CBOR as it takes to tell the types of items of one byte. -/
def oneByteCbor : Tinycbor ℕ where
  Value := List UInt8
  parserInit payload := if payload = [] then none else some payload
  isMap it := it.head?.any fun initial : UInt8 ↦ initial >>> 5 == 5
  enterContainer it := it.tail
  atEnd it := it.isEmpty
  isTextString it := it.head?.any fun initial : UInt8 ↦ initial >>> 5 == 3
  copyTextString _ key := key
  afterTextString it := it.tail
  getInt _ := 0
  getDouble _ := 0
  advance it := it.tail

/-- A response to the JAUS side, with a payload of one byte. -/
def responseTo (port : JausPort) (byte : UInt8) : Message :=
  ⟨.ack, 0x45, 0x3333, trackingToken crc8Poly07 port.value, [0xFF, byte], by
    simp [trackingToken, tokenMaxLen]⟩

end FortAgent.Uart
