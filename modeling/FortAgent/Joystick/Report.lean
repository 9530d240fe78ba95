import FortAgent.Basic

/-!
# Joystick and keypad reports

The packed structures of `FORTJoystickHelpers.h` and the two checks made on them
before anything else happens: the CRC-16 of each block, and the size.  A report
is 18 bytes, a 4-byte keypad block followed by a 14-byte joystick block, each
ending in the CRC of the rest of it; all words are little-endian.

The sample union `jsCal_t` is read here through its raw word.  Its reserved bits
are not modelled on their own: no code under `src/` reads them.
-/

namespace FortAgent.Joystick

/-! ## The packed structures -/

/-- A calibrated sample, as its raw word: 12 bits of signed data, then the
validity flag, then reserved bits. -/
structure JsCal where
  asRaw : UInt16
deriving DecidableEq, Repr

namespace JsCal

/-- `signed int data : 12`. -/
def data (sample : JsCal) : Int :=
  let low : Int := sample.asRaw.toNat % 4096
  if low < 2048 then low else low - 4096

/-- `bool dataOK : 1`. -/
def dataOK (sample : JsCal) : Bool := sample.asRaw &&& 0x1000 != 0

end JsCal

/-- The six calibrated axes and the CRC that guards them. -/
structure FrcJoystickData where
  leftXAxis : JsCal
  leftYAxis : JsCal
  leftZAxis : JsCal
  rightXAxis : JsCal
  rightYAxis : JsCal
  rightZAxis : JsCal
  crc16 : UInt16
deriving DecidableEq, Repr

/-- The keypad buttons and the CRC that guards them. -/
structure FrcKeypadData where
  buttonStatus : UInt16
  crc16 : UInt16
deriving DecidableEq, Repr

/-- A combined report: the keypad block, then the joystick block. -/
structure FrcCombinedData where
  keypadData : FrcKeypadData
  joystickData : FrcJoystickData
deriving DecidableEq, Repr

/-- The value of a zero-initialised report, `frc_combined_data_t x = {}`. -/
def FrcCombinedData.zero : FrcCombinedData :=
  ⟨⟨0, 0⟩, ⟨⟨0⟩, ⟨0⟩, ⟨0⟩, ⟨0⟩, ⟨0⟩, ⟨0⟩, 0⟩⟩

/-- The six axes, in the order of the structure. -/
def FrcJoystickData.axes (js : FrcJoystickData) : List JsCal :=
  [js.leftXAxis, js.leftYAxis, js.leftZAxis, js.rightXAxis, js.rightYAxis, js.rightZAxis]

/-! ## Buttons -/

/-- Bit flag identifiers for each keypad button. -/
inductive KeypadButton
  | menu | pause | power | lDown | lRight | lUp | lLeft | rDown | rRight | rUp | rLeft
deriving DecidableEq, Repr

/-- The bit of a button in the status word. -/
def KeypadButton.mask : KeypadButton → UInt16
  | .menu => (1 : UInt16) <<< 0
  | .pause => (1 : UInt16) <<< 1
  | .power => (1 : UInt16) <<< 2
  | .lDown => (1 : UInt16) <<< 3
  | .lRight => (1 : UInt16) <<< 4
  | .lUp => (1 : UInt16) <<< 5
  | .lLeft => (1 : UInt16) <<< 6
  | .rDown => (1 : UInt16) <<< 7
  | .rRight => (1 : UInt16) <<< 8
  | .rUp => (1 : UInt16) <<< 9
  | .rLeft => (1 : UInt16) <<< 10

/-- `isButtonPressed`. -/
def isButtonPressed (status : UInt16) (button : KeypadButton) : Bool :=
  status &&& button.mask != 0

/-! ## The CRC of a block -/

/-- One turn of the inner loop of `compute_crc16`. -/
def crc16Bit (crc : UInt16) : UInt16 :=
  if crc &&& 1 != 0 then (crc >>> 1) ^^^ 0xA001 else crc >>> 1

/-- `compute_crc16`: the outer loop runs over the bytes, the inner one eight
times for each. -/
def computeCrc16 (data : List UInt8) : UInt16 :=
  data.foldl (fun crc byte ↦ Nat.repeat crc16Bit 8 (crc ^^^ byte.toUInt16)) 0

/-- The bytes of a word in memory, low byte first. -/
def wordBytes (w : UInt16) : List UInt8 := [lowByte w, highByte w]

/-- The bytes of the joystick block that its CRC covers: all but the CRC. -/
def FrcJoystickData.guardedBytes (js : FrcJoystickData) : List UInt8 :=
  js.axes.flatMap fun axis ↦ wordBytes axis.asRaw

/-- The bytes of the keypad block that its CRC covers. -/
def FrcKeypadData.guardedBytes (keypad : FrcKeypadData) : List UInt8 :=
  wordBytes keypad.buttonStatus

/-- The 18 bytes of a combined report in memory. -/
def FrcCombinedData.bytes (report : FrcCombinedData) : List UInt8 :=
  report.keypadData.guardedBytes ++ wordBytes report.keypadData.crc16 ++
    (report.joystickData.guardedBytes ++ wordBytes report.joystickData.crc16)

/-- `std::memcpy(&payload, data, sizeof(payload))`: the report in the first 18
bytes, if there are that many. -/
def FrcCombinedData.ofBytes : List UInt8 → Option FrcCombinedData
  | b0 :: b1 :: b2 :: b3 :: x0 :: x1 :: y0 :: y1 :: z0 :: z1 ::
      u0 :: u1 :: v0 :: v1 :: w0 :: w1 :: c0 :: c1 :: _ =>
    some ⟨⟨wordOf b0 b1, wordOf b2 b3⟩,
      ⟨⟨wordOf x0 x1⟩, ⟨wordOf y0 y1⟩, ⟨wordOf z0 z1⟩,
        ⟨wordOf u0 u1⟩, ⟨wordOf v0 v1⟩, ⟨wordOf w0 w1⟩, wordOf c0 c1⟩⟩
  | _ => none

/-- The two CRC comparisons of `decode_combined_payload`, joystick block first. -/
def FrcCombinedData.crcValid (payload : FrcCombinedData) : Bool :=
  computeCrc16 payload.joystickData.guardedBytes == payload.joystickData.crc16 &&
    computeCrc16 payload.keypadData.guardedBytes == payload.keypadData.crc16

/-- `decode_combined_payload`. -/
def decodeCombinedPayload (data : List UInt8) : Bool :=
  match FrcCombinedData.ofBytes data with
  | none => false
  | some payload => payload.crcValid

/-- Copying the bytes of a report back out of memory gives the report. -/
@[simp] theorem FrcCombinedData.ofBytes_bytes (report : FrcCombinedData) :
    FrcCombinedData.ofBytes report.bytes = some report := by
  simp [FrcCombinedData.bytes, FrcCombinedData.ofBytes, FrcJoystickData.guardedBytes,
    FrcKeypadData.guardedBytes, FrcJoystickData.axes, wordBytes]

/-- A report passes `decode_combined_payload` exactly when both of its CRCs do. -/
theorem decodeCombinedPayload_bytes (report : FrcCombinedData) :
    decodeCombinedPayload report.bytes = report.crcValid := by
  rw [decodeCombinedPayload, FrcCombinedData.ofBytes_bytes]

/-- The report a controller sends for these buttons and axes: both blocks carry
the CRC of the rest of them. -/
def FrcCombinedData.withCrc (buttonStatus : UInt16) (lx ly lz rx ry rz : JsCal) :
    FrcCombinedData :=
  ⟨⟨buttonStatus, computeCrc16 (wordBytes buttonStatus)⟩,
    ⟨lx, ly, lz, rx, ry, rz,
      computeCrc16 ([lx, ly, lz, rx, ry, rz].flatMap fun axis ↦ wordBytes axis.asRaw)⟩⟩

/-- Such a report is accepted, whatever it says. -/
theorem FrcCombinedData.crcValid_withCrc (buttonStatus : UInt16) (lx ly lz rx ry rz : JsCal) :
    (withCrc buttonStatus lx ly lz rx ry rz).crcValid = true := by
  simp [crcValid, withCrc, FrcJoystickData.guardedBytes, FrcJoystickData.axes,
    FrcKeypadData.guardedBytes]

/-- A valid sample of a centred axis. -/
def JsCal.centred : JsCal := ⟨0x1000⟩

/-- The report of a controller whose axes are centred. -/
def FrcCombinedData.withButtons (buttonStatus : UInt16) : FrcCombinedData :=
  withCrc buttonStatus .centred .centred .centred .centred .centred .centred

/-- The report of a controller with its left stick deflected by 100 along X. -/
def FrcCombinedData.deflected : FrcCombinedData :=
  withCrc 0 ⟨0x1064⟩ .centred .centred .centred .centred .centred

/-! ## Pauses and efforts -/

/-- A report the bridge reads as a pause: the left X axis is flagged invalid, or
the Pause button is down. -/
def FrcCombinedData.isPause (report : FrcCombinedData) : Bool :=
  !report.joystickData.leftXAxis.dataOK ||
    isButtonPressed report.keypadData.buttonStatus .pause

/-- A joystick block that asks for no effort on any axis. -/
def FrcJoystickData.isZeroEffort (js : FrcJoystickData) : Bool :=
  js.axes.all fun axis ↦ axis.data == 0

end FortAgent.Joystick
