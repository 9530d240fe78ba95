import FortAgent.Jaus.Bridge
import FortAgent.Joystick.Battery

/-!
# JAUS ports and their payloads

A response that belongs to the bridge comes with a port number, from which
`evaluateCoapJausMessage` knows what was asked for.  The payload is passed as a
pointer and a length.  Here it is the list of the bytes that belong to it, and a
read beyond them is `Outcome.undefined`.
-/

namespace FortAgent.Jaus

open Joystick

/-! ## Ports -/

/-- `JausBridge::JausPort`, in the order that gives the values; `START` and `END`
are no ports of their own. -/
inductive JausPort
  | start | safety | diagnostics | safetyCombined | radioMode | radioPower | radioChannel
  | radioStatus | radioUsed | firmwareVersion | cpuTemp | deviceTemp | gaugeTemp | gyroTemp
  | batteryStatus | systemStatus | lockdownStatus | serialNumber | modelNumber | deviceMac
  | deviceUid | deviceRev | systemReset | displayMode | vibrationLeft | vibrationRight
  | vibrationBoth | firmwareFileData | firmwareFileMetadata | joystickCalibrated | keypad
  | combinedJoystickKeypad | mode | displayText | secureElementId | fsoId | fsoData | fsoCrc
  | fsoErase | fsoLength | optKey | optCommit | lockdownProcessorKey | scp03Rotate
  | otpWriteDevTest | rangeEnd
deriving DecidableEq, Repr

/-- All enumerators, in order. -/
def JausPort.all : List JausPort :=
  [.start, .safety, .diagnostics, .safetyCombined, .radioMode, .radioPower, .radioChannel,
    .radioStatus, .radioUsed, .firmwareVersion, .cpuTemp, .deviceTemp, .gaugeTemp, .gyroTemp,
    .batteryStatus, .systemStatus, .lockdownStatus, .serialNumber, .modelNumber, .deviceMac,
    .deviceUid, .deviceRev, .systemReset, .displayMode, .vibrationLeft, .vibrationRight,
    .vibrationBoth, .firmwareFileData, .firmwareFileMetadata, .joystickCalibrated, .keypad,
    .combinedJoystickKeypad, .mode, .displayText, .secureElementId, .fsoId, .fsoData, .fsoCrc,
    .fsoErase, .fsoLength, .optKey, .optCommit, .lockdownProcessorKey, .scp03Rotate,
    .otpWriteDevTest, .rangeEnd]

/-- The value of an enumerator. -/
def JausPort.value (port : JausPort) : UInt16 := 900 + UInt16.ofNat (JausPort.all.idxOf port)

/-- The enumerator with a value, for the `switch` on a port that was cast. -/
def JausPort.ofValue (port : UInt16) : Option JausPort := JausPort.all.find? (·.value == port)

/-- A port of the bridge, as opposed to the two ends of the range. -/
def JausPort.IsRequested (port : JausPort) : Prop := port ≠ .start ∧ port ≠ .rangeEnd

instance (port : JausPort) : Decidable port.IsRequested := inferInstanceAs (Decidable (_ ∧ _))

/-- The test by which `serialDataReceived` knows that a port is one of the bridge. -/
def isJausPort (port : UInt16) : Bool :=
  JausPort.start.value < port && port < JausPort.rangeEnd.value

/-- The ports of the bridge, and no others of the enumerators, pass the test. -/
theorem isJausPort_value_iff (port : JausPort) :
    isJausPort port.value = true ↔ port.IsRequested := by
  cases port <;> decide

theorem isJausPort_value {port : JausPort} (h : port.IsRequested) : isJausPort port.value = true :=
  (isJausPort_value_iff port).mpr h

theorem JausPort.ofValue_value (port : JausPort) : JausPort.ofValue port.value = some port := by
  cases port <;> decide

theorem JausPort.ofValue_eq_some {port : UInt16} {jausPort : JausPort}
    (h : JausPort.ofValue port = some jausPort) : jausPort.value = port := by
  have hvalue : (jausPort.value == port) = true :=
    List.find?_some (p := fun jausPort : JausPort ↦ jausPort.value == port) h
  exact beq_iff_eq.mp hvalue

/-! ## Payloads -/

/-- What the controller has told the bridge. -/
structure JausTelemetry (Double : Type) where
  serialNumber : List UInt8
  modelNumber : List UInt8
  batteryStatus : BatteryStatus Double
deriving DecidableEq, Repr

/-- What a call of `evaluateCoapJausMessage` returns, leaves behind and writes to the
console, each line a text and some bytes. -/
structure Evaluation (Double : Type) where
  handled : Bool
  bridge : JausBridge
  telemetry : JausTelemetry Double
  printed : List (String × List UInt8)
deriving DecidableEq, Repr

/-- A payload written to a stream as a C string: the bytes before the first NUL.
Without a NUL in it, the payload is read beyond its end. -/
def cString (payload : List UInt8) : Option (List UInt8) :=
  if 0 ∈ payload then some (payload.takeWhile (· ≠ 0)) else none

section Evaluate

variable {Double : Type} [Zero Double] (cbor : Tinycbor Double)

/-- The port is the one of the request; `turns` and `key` are those of the battery
decoder. -/
def evaluateCoapJausMessage (turns : ℕ) (key : ℕ → List UInt8) (jausPort : UInt16)
    (payload : List UInt8) (bridge : JausBridge) (telemetry : JausTelemetry Double) :
    Outcome (Evaluation Double) :=
  let done (printed : List (String × List UInt8)) : Outcome (Evaluation Double) :=
    .returned ⟨true, bridge, telemetry, printed⟩
  match JausPort.ofValue jausPort with
  | some .firmwareVersion =>
    done (if payload ≠ [] then [("JAUS: Received Firmware Version: ", payload)] else [])
  | some .cpuTemp =>
    if payload ≠ [] then
      match cString payload with
      | some text => done [("JAUS: CPU Temperature: ", text)]
      | none => .undefined
    else done []
  | some .batteryStatus =>
    if payload ≠ [] then
      (decodeBatteryPayload cbor turns key payload).map fun batteryStatus ↦
        ⟨true, bridge, { telemetry with batteryStatus := batteryStatus }, []⟩
    else done []
  | some .systemStatus =>
    done (if payload ≠ [] then [("JAUS: System Status: ", payload)] else [])
  | some .serialNumber =>
    if payload ≠ [] then
      .returned ⟨true, bridge, { telemetry with serialNumber := payload },
        [("JAUS: Received Serial Number: ", payload)]⟩
    else done []
  | some .modelNumber =>
    if payload ≠ [] then
      .returned ⟨true, bridge, { telemetry with modelNumber := payload },
        [("JAUS: Received Model Number: ", payload)]⟩
    else done []
  | some .combinedJoystickKeypad =>
    let evaluated := bridge.evaluateCombinedJoystickKeypad payload
    .returned ⟨true, evaluated.1, telemetry, evaluated.2.printed.map fun line ↦ (line, [])⟩
  -- the enumerators without a case of their own
  | none | some .start | some .rangeEnd | some .mode | some .secureElementId | some .fsoId
  | some .fsoCrc | some .fsoErase | some .fsoLength =>
    .returned ⟨false, bridge, telemetry, []⟩
  | some _ => done []

/-- The payloads that a call cannot take: a temperature that is not a C string, and
battery telemetry that is bad. -/
def BadPayload (jausPort : UInt16) (payload : List UInt8) : Prop :=
  payload ≠ [] ∧
    (jausPort = JausPort.cpuTemp.value ∧ 0 ∉ payload ∨
      jausPort = JausPort.batteryStatus.value ∧ BadBatteryPayload cbor payload)

/-- Only two ports have payloads that a call cannot take. -/
theorem evaluateCoapJausMessage_not_failed {jausPort : UInt16}
    (hcpuTemp : jausPort ≠ JausPort.cpuTemp.value)
    (hbattery : jausPort ≠ JausPort.batteryStatus.value) (turns : ℕ) (key : ℕ → List UInt8)
    (payload : List UInt8) (bridge : JausBridge) (telemetry : JausTelemetry Double) :
    ¬(evaluateCoapJausMessage cbor turns key jausPort payload bridge telemetry).Failed := by
  unfold evaluateCoapJausMessage
  cases hport : JausPort.ofValue jausPort with
  | none => exact id
  | some port =>
      have hvalue := JausPort.ofValue_eq_some hport
      cases port with
      | cpuTemp => exact absurd hvalue.symm hcpuTemp
      | batteryStatus => exact absurd hvalue.symm hbattery
      | serialNumber | modelNumber =>
          dsimp only
          split <;> exact id
      | _ => exact id

/-- **When a call fails**: within some number of turns it does so exactly if the
payload is bad. -/
theorem evaluateCoapJausMessage_failed_iff (key : ℕ → List UInt8) (jausPort : UInt16)
    (payload : List UInt8) (bridge : JausBridge) (telemetry : JausTelemetry Double) :
    (∃ turns,
        (evaluateCoapJausMessage cbor turns key jausPort payload bridge telemetry).Failed) ↔
      BadPayload cbor jausPort payload := by
  by_cases hcpuTemp : jausPort = JausPort.cpuTemp.value
  · have hne : JausPort.cpuTemp.value ≠ JausPort.batteryStatus.value := by decide
    subst hcpuTemp
    simp only [BadPayload, hne, false_and, or_false, true_and, evaluateCoapJausMessage,
      JausPort.ofValue_value, cString]
    by_cases hnil : payload = []
    · simp [hnil, Outcome.Failed]
    · by_cases hnul : 0 ∈ payload
      · simp [hnil, hnul, Outcome.Failed]
      · simp [hnil, hnul, Outcome.Failed]
  by_cases hbattery : jausPort = JausPort.batteryStatus.value
  · have hne : JausPort.batteryStatus.value ≠ JausPort.cpuTemp.value := by decide
    subst hbattery
    simp only [BadPayload, hne, false_and, false_or, true_and, evaluateCoapJausMessage,
      JausPort.ofValue_value]
    by_cases hnil : payload = []
    · simp [hnil, Outcome.Failed]
    · simp only [ne_eq, hnil, not_false_eq_true, if_true, true_and, Outcome.failed_map,
        decodeBatteryPayload_failed_iff]
  · refine iff_of_false ?_ ?_
    · rintro ⟨turns, h⟩
      exact evaluateCoapJausMessage_not_failed cbor hcpuTemp hbattery turns key payload bridge
        telemetry h
    · rintro ⟨-, ⟨h, -⟩ | ⟨h, -⟩⟩
      · exact hcpuTemp h
      · exact hbattery h

end Evaluate

end FortAgent.Jaus
