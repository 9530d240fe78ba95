import FortAgent.Coap.Build
import FortAgent.Coap.Destination
import FortAgent.Jaus.Evaluate
import FortAgent.Jaus.StateMachine
import FortAgent.Joystick.CborHelpers

/-!
# Requests to the joystick

`coapSRCPro` has one function for each thing that can be asked of the joystick.  All of
them build a confirmable message without a token and send it for a port of the JAUS
bridge, so that what tells one from another is a `SrcRequest`.

The tracker puts the port of a request into its token.  `SrcRequest.decode_forwarded`
says what the joystick then reads: what has been asked for, and where to answer it.
-/

namespace FortAgent.Uart

open Coap Jaus Joystick
open CoapFormat (Packet)

/-! ## URIs -/

/-- The segments and the queries of an URI, as bytes.  They are short enough for the length
of an option. -/
structure Uri where
  segments : List (List UInt8)
  queries : List (List UInt8)
  segments_short : ∀ segment ∈ segments, segment.length < UInt16.size
  queries_short : ∀ query ∈ queries, query.length < UInt16.size

/-- The URI with these segments. -/
def Uri.path (segments : List String)
    (h : ∀ segment ∈ segments, segment.length < UInt16.size := by decide) : Uri where
  segments := segments.map ascii
  queries := []
  segments_short := by
    intro segment hsegment
    obtain ⟨text, htext, rfl⟩ := List.mem_map.mp hsegment
    rw [ascii, List.length_map, String.length_toList]
    exact h text htext
  queries_short := nofun

/-- A number of 32 bits has at most ten digits and a sign. -/
theorem length_toString_le (value : Int32) : (toString value.toInt).length ≤ 11 := by
  have hlt : value.toInt < 2 ^ 31 := value.toInt_lt
  have hle : -2 ^ 31 ≤ value.toInt := value.le_toInt
  cases hvalue : value.toInt with
  | ofNat n =>
      rw [hvalue, Int.ofNat_eq_natCast] at hlt
      have hlength : n.repr.length ≤ 11 := (Nat.length_repr_le_iff (by decide)).mpr (by omega)
      exact hlength
  | negSucc n =>
      rw [hvalue] at hle
      have hlength : (n + 1).repr.length ≤ 10 :=
        (Nat.length_repr_le_iff (by decide)).mpr (by omega)
      rw [show toString (Int.negSucc n) = "-" ++ (n + 1).repr from rfl, String.length_append]
      exact Nat.add_le_add_left hlength 1

/-- `sf/<idx>/s`, and one segment more for the diagnostics. -/
def Uri.smcu (idx : Int32) (more : List String)
    (h : ∀ segment ∈ more, segment.length < UInt16.size := by decide) : Uri :=
  .path ("sf" :: toString idx.toInt :: "s" :: more) (by
    intro segment hsegment
    rcases List.mem_cons.mp hsegment with rfl | hsegment
    · decide
    · rcases List.mem_cons.mp hsegment with rfl | hsegment
      · exact Nat.lt_of_le_of_lt (length_toString_le idx) (by decide)
      · rcases List.mem_cons.mp hsegment with rfl | hsegment
        · decide
        · exact h segment hsegment)

namespace URIs

def smcuSafety (idx : Int32) : Uri := .smcu idx []

def smcuSafetyDiagnostics (idx : Int32) : Uri := .smcu idx ["safety_diagnostics"]

def smcuSystemDiagnostics (idx : Int32) : Uri := .smcu idx ["system_diagnostics"]

def smcuCombinedSafety : Uri := .path ["sf", "transmitter", "combined"]

/-- Two lists of one string each are read as one list of two strings, since `Uri` has a
constructor from a list of strings, and its second argument has a default.  So what is
written `{{"deviceInfo"}, {"radioMode"}}` is a path of two segments, without a query. -/
def deviceInfo (resource : String)
    (h : resource.length < UInt16.size := by decide) : Uri :=
  .path ["deviceInfo", resource] (by
    intro segment hsegment
    rcases List.mem_cons.mp hsegment with rfl | hsegment
    · decide
    · exact (List.mem_singleton.mp hsegment) ▸ h)

def radioMode : Uri := deviceInfo "radioMode"

def radioPower : Uri := deviceInfo "radioPowerDB"

def radioChannel : Uri := deviceInfo "radioChannel"

def radioUsed : Uri := deviceInfo "radioUsed"

def firmwareVersion : Uri := deviceInfo "fwVersion"

def cpuTemp : Uri := deviceInfo "cpuTempC"

def deviceTemp : Uri := deviceInfo "deviceTempC"

def gaugeTemp : Uri := deviceInfo "gaugeTempC"

def gyroTemp : Uri := deviceInfo "gyroTempC"

def batteryStatus : Uri := deviceInfo "batteryStatus"

def systemStatus : Uri := deviceInfo "sys1"

def lockdownStatus : Uri := deviceInfo "lockdownStatus"

def serialNumber : Uri := .path ["cfg", "setup", "serialNumber"]

def modelNumber : Uri := .path ["cfg", "setup", "modelNumber"]

def deviceMac : Uri := .path ["cfg", "setup", "deviceMac"]

def deviceUid : Uri := .path ["cfg", "setup", "deviceUID"]

def deviceRev : Uri := .path ["cfg", "setup", "deviceRev"]

def systemReset : Uri := .path ["cfg", "setup", "systemReset"]

/-- `DisplayMode`, `VibrateLeft`, `VibrateRight` and `VibrateBoth`. -/
def userSettings : Uri := .path ["cfg", "setup", "userSettings"]

def firmwareMetaData : Uri := .path ["fs", "metadata"]

def joystickCalibrated : Uri := .path ["st", "joystick", "calibrated"]

def keypad : Uri := .path ["st", "keypad"]

def combinedJoystickKeypad : Uri := .path ["st", "joystick", "combined"]

def mode : Uri := .path ["st", "mode"]

def displayText : Uri := .path ["st", "display", "text"]

def secureElementId : Uri := .path ["sec", "dev", "seuid"]

def fsoId : Uri := .path ["sec", "dev", "fso", "id"]

def fsoLength : Uri := .path ["sec", "dev", "fso", "length"]

def fsoCrc : Uri := .path ["sec", "dev", "fso", "crc"]

def fsoErase : Uri := .path ["sec", "dev", "fso", "erase"]

def fsoData : Uri := .path ["sec", "dev", "fso", "data"]

def otp : Uri := .path ["sec", "lockdown", "otp"]

def lockdownProcessor : Uri := .path ["sec", "lockdown", "processor"]

def scp03 : Uri := .path ["sec", "lockdown", "scp03"]

def otpWrite : Uri := .path ["sec", "lockdown", "otpWrite"]

end URIs

/-! ## Requests -/

/-- What `sendRequest` is instantiated with and called with, but for the message id.  The
port is one of the bridge. -/
structure SrcRequest where
  method : Method
  format : Format
  port : JausPort
  uri : Uri
  payload : List UInt8
  observe : Bool
  observeValue : UInt16
  port_requested : port.IsRequested := by decide

/-- The overload of `sendRequest` for a request that may observe. -/
def SrcRequest.get (format : Format) (port : JausPort) (uri : Uri) (observe : Bool)
    (observeValue : UInt16) (h : port.IsRequested := by decide) : SrcRequest :=
  ⟨.get, format, port, uri, [], observe, observeValue, h⟩

/-- The overload of `sendRequest` for a request with a payload. -/
def SrcRequest.withPayload (method : Method) (format : Format) (port : JausPort) (uri : Uri)
    (payload : List UInt8) (h : port.IsRequested := by decide) : SrcRequest :=
  ⟨method, format, port, uri, payload, false, 0, h⟩

/-- A call of a function of `coapSRCPro`, without its message id.  The two functions for the
data of a firmware file are left out: their URI is read as one list of strings too, but the
two strings of its first part as the ends of a range of characters. -/
inductive SrcCall
  | getSMCUSafety (smcuIndex : Int32) (observe : Bool) (observeValue : UInt16)
  | postSMCUSafety (smcuIndex : Int32) (raw : List UInt8)
  | getSMCUSafetyDiagnostics (smcuIndex : Int32) (observe : Bool) (observeValue : UInt16)
  | getSMCUSystemDiagnostics (smcuIndex : Int32) (observe : Bool) (observeValue : UInt16)
  | getSMCUCombinedSafety (observe : Bool) (observeValue : UInt16)
  | getRadioMode
  | getRadioPowerDb
  | getRadioChannel
  | getRadioStatus
  | getRadioUsed
  | getFirmwareVersion (observe : Bool) (observeValue : UInt16)
  | getCpuTempC (observe : Bool) (observeValue : UInt16)
  | getDeviceTempC (observe : Bool) (observeValue : UInt16)
  | getGaugeTempC (observe : Bool) (observeValue : UInt16)
  | getGyroTempC (observe : Bool) (observeValue : UInt16)
  | getBatteryStatus (observe : Bool) (observeValue : UInt16)
  | getSystemStatus
  | getLockdownStatus
  | getSerialNumber (observe : Bool) (observeValue : UInt16)
  | postSerialNumber (serial : List UInt8)
  | getModelNumber (observe : Bool) (observeValue : UInt16)
  | postModelNumber (model : List UInt8)
  | getDeviceMac (observe : Bool) (observeValue : UInt16)
  | getDeviceUID
  | getDeviceRev
  | postSystemReset (mode : UInt8)
  | getDisplayMode
  | postDisplayMode (mode : UInt8)
  | postVibrateLeft
  | postVibrateRight
  | postVibrateBoth
  | getFirmwareFileMetadata
  | postFirmwareFileMetadata (filename : List UInt8) (length crc32 : UInt32)
  | getJoystickCalibrated (observe : Bool) (observeValue : UInt16)
  | getKeypad (observe : Bool) (observeValue : UInt16)
  | getCombinedJoystickKeypad (observe : Bool) (observeValue : UInt16)
  | getMode
  | postDisplayTextRawLines (line0 line1 : List UInt8) (upperHalf : Bool)
  | postDisplayTextSegment (line segment : UInt8) (text6chars : List UInt8)
  | getSecureElementID
  | postFsoId (idString : List UInt8)
  | getFsoLength
  | getFsoCrc
  | getFsoErase
  | getFsoData
  | postFsoData (der : List UInt8)
  | getOtpKey
  | postOtpCommit (phrase seedHex : List UInt8)
  | getLockdownProcessorKey
  | postLockdownProcessor (phrase keyHex : List UInt8)
  | getScp03Rotate
  | postOtpWriteDevTest (asciiHex : List UInt8)

namespace SrcCall

open SrcRequest (get withPayload)

/-- The request that a function sends.  `getRadioStatus` asks for the channel, and the
payload of `getDisplayMode` will not be sent, as it is no POST. -/
def request (lib : TinycborEncoder) : SrcCall → SrcRequest
  | getSMCUSafety idx observe value =>
    get .applicationOctetStream .safety (URIs.smcuSafety idx) observe value
  | postSMCUSafety idx raw =>
    withPayload .post .applicationOctetStream .safety (URIs.smcuSafety idx) raw
  | getSMCUSafetyDiagnostics idx observe value =>
    get .applicationCbor .diagnostics (URIs.smcuSafetyDiagnostics idx) observe value
  | getSMCUSystemDiagnostics idx observe value =>
    get .applicationCbor .diagnostics (URIs.smcuSystemDiagnostics idx) observe value
  | getSMCUCombinedSafety observe value =>
    get .applicationOctetStream .safetyCombined URIs.smcuCombinedSafety observe value
  | getRadioMode => get .textPlain .radioMode URIs.radioMode false 0
  | getRadioPowerDb => get .textPlain .radioPower URIs.radioPower false 0
  | getRadioChannel => get .textPlain .radioChannel URIs.radioChannel false 0
  | getRadioStatus => get .applicationCbor .radioStatus URIs.radioChannel false 0
  | getRadioUsed => get .textPlain .radioUsed URIs.radioUsed false 0
  | getFirmwareVersion observe value =>
    get .textPlain .firmwareVersion URIs.firmwareVersion observe value
  | getCpuTempC observe value => get .textPlain .cpuTemp URIs.cpuTemp observe value
  | getDeviceTempC observe value => get .textPlain .deviceTemp URIs.deviceTemp observe value
  | getGaugeTempC observe value => get .textPlain .gaugeTemp URIs.gaugeTemp observe value
  | getGyroTempC observe value => get .textPlain .gyroTemp URIs.gyroTemp observe value
  | getBatteryStatus observe value =>
    get .textPlain .batteryStatus URIs.batteryStatus observe value
  | getSystemStatus => get .applicationOctetStream .systemStatus URIs.systemStatus false 0
  | getLockdownStatus => get .applicationOctetStream .lockdownStatus URIs.lockdownStatus false 0
  | getSerialNumber observe value => get .textPlain .serialNumber URIs.serialNumber observe value
  | postSerialNumber serial =>
    withPayload .post .textPlain .serialNumber URIs.serialNumber serial
  | getModelNumber observe value => get .textPlain .modelNumber URIs.modelNumber observe value
  | postModelNumber model => withPayload .post .textPlain .modelNumber URIs.modelNumber model
  | getDeviceMac observe value => get .textPlain .deviceMac URIs.deviceMac observe value
  | getDeviceUID => get .applicationOctetStream .deviceUid URIs.deviceUid false 0
  | getDeviceRev => get .applicationOctetStream .deviceRev URIs.deviceRev false 0
  | postSystemReset mode => withPayload .post .textPlain .systemReset URIs.systemReset [mode]
  | getDisplayMode => withPayload .get .applicationCbor .displayMode URIs.userSettings [99]
  | postDisplayMode mode =>
    withPayload .post .applicationCbor .displayMode URIs.userSettings
      (encodeUserSettings lib .displayMode mode.toUInt32).bytes
  | postVibrateLeft =>
    withPayload .post .applicationCbor .vibrationLeft URIs.userSettings
      (encodeUserSettings lib .vibrateLeft 1).bytes
  | postVibrateRight =>
    withPayload .post .applicationCbor .vibrationRight URIs.userSettings
      (encodeUserSettings lib .vibrateRight 1).bytes
  | postVibrateBoth =>
    withPayload .post .applicationCbor .vibrationBoth URIs.userSettings
      (encodeUserSettings lib .vibrateBoth 1).bytes
  | getFirmwareFileMetadata =>
    get .applicationCbor .firmwareFileMetadata URIs.firmwareMetaData false 0
  | postFirmwareFileMetadata filename length crc32 =>
    withPayload .post .applicationCbor .firmwareFileMetadata URIs.firmwareMetaData
      (cborEncodeFileMetadata lib filename length crc32).bytes
  | getJoystickCalibrated observe value =>
    get .applicationOctetStream .joystickCalibrated URIs.joystickCalibrated observe value
  | getKeypad observe value => get .applicationOctetStream .keypad URIs.keypad observe value
  | getCombinedJoystickKeypad observe value =>
    get .applicationOctetStream .combinedJoystickKeypad URIs.combinedJoystickKeypad observe value
  | getMode => get .textPlain .mode URIs.mode false 0
  | postDisplayTextRawLines line0 line1 upperHalf =>
    withPayload .post .applicationCbor .displayText URIs.displayText
      (cborEncodeTwoLines18 lib line0 line1 upperHalf).bytes
  | postDisplayTextSegment line segment text6chars =>
    withPayload .post .applicationCbor .displayText URIs.displayText
      (cborEncodeDisplaySegment lib line segment text6chars).bytes
  | getSecureElementID => get .textPlain .secureElementId URIs.secureElementId false 0
  | postFsoId idString => withPayload .post .textPlain .fsoId URIs.fsoId idString
  | getFsoLength => get .textPlain .fsoLength URIs.fsoLength false 0
  | getFsoCrc => get .textPlain .fsoCrc URIs.fsoCrc false 0
  | getFsoErase => get .textPlain .fsoErase URIs.fsoErase false 0
  | getFsoData => get .textPlain .fsoData URIs.fsoData false 0
  | postFsoData der => withPayload .post .textPlain .fsoData URIs.fsoData der
  | getOtpKey => get .textPlain .optKey URIs.otp false 0
  | postOtpCommit phrase seedHex =>
    withPayload .post .textPlain .optCommit URIs.otp (phrase ++ ascii " " ++ seedHex)
  | getLockdownProcessorKey =>
    get .textPlain .lockdownProcessorKey URIs.lockdownProcessor false 0
  | postLockdownProcessor phrase keyHex =>
    withPayload .post .textPlain .lockdownProcessorKey URIs.lockdownProcessor
      (phrase ++ ascii " " ++ keyHex)
  | getScp03Rotate => get .textPlain .scp03Rotate URIs.scp03 false 0
  | postOtpWriteDevTest asciiHex =>
    withPayload .post .textPlain .otpWriteDevTest URIs.otpWrite asciiHex

end SrcCall

/-- The resources for which there are observe wrappers. -/
inductive Observable
  | combinedJoystickKeypad | cpuTempC | deviceTempC | gaugeTempC | gyroTempC | batteryStatus
  | firmwareVersion | serialNumber | modelNumber | deviceMac
deriving DecidableEq, Repr

/-- The function that a wrapper calls. -/
def Observable.get : Observable → Bool → UInt16 → SrcCall
  | .combinedJoystickKeypad => .getCombinedJoystickKeypad
  | .cpuTempC => .getCpuTempC
  | .deviceTempC => .getDeviceTempC
  | .gaugeTempC => .getGaugeTempC
  | .gyroTempC => .getGyroTempC
  | .batteryStatus => .getBatteryStatus
  | .firmwareVersion => .getFirmwareVersion
  | .serialNumber => .getSerialNumber
  | .modelNumber => .getModelNumber
  | .deviceMac => .getDeviceMac

def subscribe (resource : Observable) : SrcCall := resource.get true 0

def unsubscribe (resource : Observable) : SrcCall := resource.get true 1

/-! ## Messages -/

/-- `JS_MID`, the message id of all requests of the bridge. -/
def jsMid : UInt16 := 0x3000

namespace SrcRequest

/-- `build`. -/
def build (mid : UInt16) (r : SrcRequest) : List UInt8 :=
  buildMessage .con r.method mid r.uri.segments r.uri.queries r.payload [] r.format r.observe
    r.observeValue

/-- The message of a request. -/
def message (mid : UInt16) (r : SrcRequest) : Message :=
  requestedMessage .con r.method mid r.uri.segments r.uri.queries r.payload [] r.format r.observe
    r.observeValue (Nat.zero_le _)

theorem build_eq (mid : UInt16) (r : SrcRequest) : r.build mid = (r.message mid).bytes :=
  (buildMessage_eq .con r.method mid r.payload r.format r.observe r.observeValue (Nat.zero_le _)
    r.uri.segments_short r.uri.queries_short).1

theorem isRequest_message (mid : UInt16) (r : SrcRequest) : (r.message mid).isRequest = true := by
  show codeIsRequest r.method.value = true
  cases r.method <;> decide

/-- The options that a request asks for. -/
def options (r : SrcRequest) : List CoapFormat.Opt :=
  requestedOptions r.uri.segments r.uri.queries r.format r.observe r.observeValue

/-- What the joystick is to read: the request, with the tracking bytes of its port for a
token. -/
def packet (crc8 : List UInt8 → UInt8) (mid : UInt16) (r : SrcRequest) : Packet where
  version := 1
  type := MessageType.con.value.toNat
  code := r.method.value
  mid := mid.toNat
  token := trackingToken crc8 r.port.value
  options := r.options
  payload := requestedPayload r.method r.payload

/-- **A request is read as it was meant.**  From what the tracker makes of a request, the
reference decoder reads the method, the path, the options and the payload that were asked
for, and the tracking bytes of the port as the token. -/
theorem decode_forwarded (crc8 : List UInt8 → UInt8) (mid : UInt16) (r : SrcRequest) :
    CoapFormat.decode ((r.message mid).forwarded crc8 r.port.value).bytes =
      some (r.packet crc8 mid) := by
  have htoken : ([] : List UInt8).length ≤ tokenMaxLen := Nat.zero_le _
  obtain ⟨-, hascending⟩ := buildMessage_eq .con r.method mid r.payload r.format r.observe
    r.observeValue htoken r.uri.segments_short r.uri.queries_short
  have hrest : CoapFormat.decodeOptions 0 (r.message mid).rest =
      some (r.options, requestedPayload r.method r.payload) :=
    CoapFormat.decodeOptions_eq_some_iff.mpr ⟨rfl, hascending, requestedPayload_ne _ _⟩
  rw [Message.forwarded_of_short crc8 _ (r.isRequest_message mid) (Nat.zero_le 4), decode_bytes]
  show Option.map _ (CoapFormat.decodeOptions 0 (r.message mid).rest) = _
  rw [hrest]
  show some (Message.packet _ _ _) = _
  rw [Message.packet]
  congr 1

end SrcRequest

/-! ## What the state machine asks for -/

/-- `displayTextOnJoystick`, without what it prints. -/
def displayTextOnJoystick (text subtext : String) : List SrcCall :=
  [.postDisplayMode 1, .postDisplayTextRawLines (ascii text) (ascii subtext) true]

/-- `vibrateJoystick`, without what it prints. -/
def vibrateJoystick (leftMotor rightMotor : Bool) : List SrcCall :=
  if leftMotor && rightMotor then [.postVibrateBoth]
  else (if leftMotor then [.postVibrateLeft] else []) ++
    if rightMotor then [.postVibrateRight] else []

/-- The calls behind an effect of the state machine. -/
def srcCalls : Effect → List SrcCall
  | .displayTextOnJoystick text subtext => displayTextOnJoystick text subtext
  | .vibrateJoystick leftMotor rightMotor => vibrateJoystick leftMotor rightMotor
  | .client _ | .entered _ => []

/-- The calls that `startServiceLoop` makes before its thread runs, in which it constructs
the state machine. -/
def startServiceLoop : List SrcCall :=
  [.getSerialNumber false 0, .getModelNumber false 0, unsubscribe .combinedJoystickKeypad,
    subscribe .combinedJoystickKeypad, .postVibrateBoth] ++
      VehicleStateMachine.startEffects.flatMap srcCalls

end FortAgent.Uart
