import FortAgent.Joystick.Report

/-!
# The vehicle states

The classes of `jaus/states/`, one structure each, with the private flags the
class keeps, and their common interface `IVehicleState` as a sum.

A method of a state talks to three things outside it: the JAUS client, the
display and vibration motors of the handheld, and the steady clock.  What it
does to the first two is returned as a list of `Effect`s, in the order of the
source; a call of the client is recorded *with the answer it got*.  The answers
themselves come from a `ClientAnswers`, which is an input: nothing is assumed
about them, so a statement about all answers is a statement about any client,
and about any thread that changes the client between two calls.  No method of a
state calls the same client method twice, so one answer for each suffices.
-/

namespace FortAgent.Jaus

open Joystick

/-! ## The client -/

/-- What the client answers, should it be asked, while a state handles one call. -/
structure ClientAnswers where
  discoverVehicle : Bool
  getComponentName : String
  sendRequestControl : Bool
  hasControl : Bool
  sendRequestResume : Bool
  queryStatus : Bool
  hasReadyState : Bool
  isHeartbeatAlive : Bool
deriving DecidableEq, Repr

/-- A client that answers every query favourably. -/
def ClientAnswers.favourable : ClientAnswers where
  discoverVehicle := true
  getComponentName := "vehicle"
  sendRequestControl := true
  hasControl := true
  sendRequestResume := true
  queryStatus := true
  hasReadyState := true
  isHeartbeatAlive := true

/-- A call of the client, with the answer it returned. -/
inductive ClientCall
  | discoverVehicle (found : Bool)
  | getComponentName (name : String)
  | sendRequestControl (sent : Bool)
  | hasControl (granted : Bool)
  | sendRequestResume (sent : Bool)
  | queryStatus (sent : Bool)
  | hasReadyState (ready : Bool)
  | isHeartbeatAlive (alive : Bool)
  | sendWrenchEffort (data : FrcJoystickData)
deriving DecidableEq, Repr

/-- The states a vehicle can be in, without their flags. -/
inductive Phase
  | initializeState | controlState | standbyState | readyState | emergencyState | shutdownState
deriving DecidableEq, Repr

/-- What a call of the state machine does to the world outside it.  `entered`
marks the point at which a new state became the current one. -/
inductive Effect
  | client (call : ClientCall)
  | displayTextOnJoystick (text subtext : String)
  | vibrateJoystick (leftMotor rightMotor : Bool)
  | entered (phase : Phase)
deriving DecidableEq, Repr

/-- `isRDown`, the same private helper in four of the classes. -/
def isRDown (status : UInt16) : Bool := status &&& ((1 : UInt16) <<< 7) != 0

/-! ## InitializeState -/

structure InitializeState where
  vehicleFound : Bool
  rDownPressed : Bool
deriving DecidableEq, Repr

namespace InitializeState

/-- The constructor. -/
def new : InitializeState := ⟨false, false⟩

def enter : List Effect := [.displayTextOnJoystick "Searching" "Press 1"]

def handleInput (st : InitializeState) (client : ClientAnswers) (input : FrcCombinedData) :
    InitializeState × List Effect :=
  if isRDown input.keypadData.buttonStatus && !st.rDownPressed then
    ({ rDownPressed := true, vehicleFound := client.discoverVehicle },
      .client (.discoverVehicle client.discoverVehicle) ::
        if client.discoverVehicle then
          [.client (.getComponentName client.getComponentName),
            .displayTextOnJoystick "Vehicle found" client.getComponentName]
        else
          [.displayTextOnJoystick "No vehicle" "Try again"])
  else if !isRDown input.keypadData.buttonStatus then
    ({ st with rDownPressed := false }, [])
  else (st, [])

end InitializeState

/-! ## ControlState -/

structure ControlState where
  controlRequested : Bool
  controlGranted : Bool
  rDownPressed : Bool
deriving DecidableEq, Repr

namespace ControlState

/-- The constructor. -/
def new : ControlState := ⟨false, false, false⟩

def enter : List Effect :=
  [.displayTextOnJoystick "Control Vehicle" "Press 1 to enter Standby"]

def handleInput (st : ControlState) (client : ClientAnswers) (input : FrcCombinedData) :
    ControlState × List Effect :=
  if isRDown input.keypadData.buttonStatus && !st.rDownPressed then
    if !st.controlRequested then
      ({ st with rDownPressed := true, controlRequested := client.sendRequestControl },
        [.client (.sendRequestControl client.sendRequestControl),
          .displayTextOnJoystick "Requesting control" "..."])
    else ({ st with rDownPressed := true }, [])
  else if !isRDown input.keypadData.buttonStatus then
    ({ st with rDownPressed := false }, [])
  else (st, [])

/-- The retry is made whether or not `controlRequested` is set. -/
def handleResponse (st : ControlState) (client : ClientAnswers) : ControlState × List Effect :=
  if client.hasControl then
    ({ st with controlGranted := true }, [.client (.hasControl client.hasControl)])
  else
    (st, [.client (.hasControl client.hasControl),
      .displayTextOnJoystick "Requesting Control" "Retry...",
      .client (.sendRequestControl client.sendRequestControl)])

end ControlState

/-! ## StandbyState -/

structure StandbyState where
  resumeRequested : Bool
  readyStateGranted : Bool
  rDownPressed : Bool
deriving DecidableEq, Repr

namespace StandbyState

/-- The constructor. -/
def new : StandbyState := ⟨false, false, false⟩

def enter : List Effect := [.displayTextOnJoystick "Vehicle on Standby" "Press 1 to Activate"]

def handleInput (st : StandbyState) (client : ClientAnswers) (input : FrcCombinedData) :
    StandbyState × List Effect :=
  if isRDown input.keypadData.buttonStatus && !st.rDownPressed then
    if !st.resumeRequested then
      ({ st with rDownPressed := true, resumeRequested := client.sendRequestResume },
        [.client (.sendRequestResume client.sendRequestResume),
          .displayTextOnJoystick "Requesting" "Active state...",
          .client (.queryStatus client.queryStatus)])
    else ({ st with rDownPressed := true }, [])
  else if !isRDown input.keypadData.buttonStatus then
    ({ st with rDownPressed := false }, [])
  else (st, [])

/-- READY is granted whether or not `resumeRequested` is set. -/
def handleResponse (st : StandbyState) (client : ClientAnswers) : StandbyState × List Effect :=
  if client.hasReadyState == false then
    (st, [.client (.hasReadyState client.hasReadyState),
      .client (.queryStatus client.queryStatus),
      .displayTextOnJoystick "Requesting" "Active state Retry..."])
  else
    ({ st with readyStateGranted := true }, [.client (.hasReadyState client.hasReadyState)])

end StandbyState

/-! ## ReadyState -/

structure ReadyState where
  emergencyTriggered : Bool
  hasControl : Bool
  lastHeartbeatCheck : SteadyTime
deriving DecidableEq, Repr

namespace ReadyState

/-- The constructor, which reads the clock. -/
def new (now : SteadyTime) : ReadyState := ⟨false, true, now⟩

def enter : List Effect :=
  [.displayTextOnJoystick "Ready" "Joystick active", .vibrateJoystick true true]

def handleInput (st : ReadyState) (input : FrcCombinedData) : ReadyState × List Effect :=
  (st, [.client (.sendWrenchEffort input.joystickData)])

/-- The first half of `update`: ask for the heartbeat once a second. -/
def checkHeartbeat (st : ReadyState) (now : SteadyTime) (client : ClientAnswers) :
    ReadyState × List Effect :=
  if st.lastHeartbeatCheck + seconds 1 < now then
    ({ st with
        lastHeartbeatCheck := now
        emergencyTriggered := st.emergencyTriggered || !client.isHeartbeatAlive },
      [.client (.isHeartbeatAlive client.isHeartbeatAlive)])
  else (st, [])

def update (st : ReadyState) (now : SteadyTime) (client : ClientAnswers) :
    ReadyState × List Effect :=
  let checked := st.checkHeartbeat now client
  ({ checked.1 with hasControl := checked.1.hasControl && client.hasControl },
    checked.2 ++ [.client (.hasControl client.hasControl)])

end ReadyState

/-! ## EmergencyState and ShutdownState -/

/-- `EmergencyState::enter`; the class keeps no data and ignores every call. -/
def EmergencyState.enter : List Effect :=
  [.displayTextOnJoystick "EMERGENCY" "Vehicle disabled"]

structure ShutdownState where
  rDownPressed : Bool
  nextState : Option StandbyState
deriving DecidableEq, Repr

namespace ShutdownState

def enter : List Effect := [.displayTextOnJoystick "Shutdown" "Press 1 to restart"]

def handleInput (st : ShutdownState) (input : FrcCombinedData) : ShutdownState × List Effect :=
  if isRDown input.keypadData.buttonStatus && !st.rDownPressed then
    ({ rDownPressed := true, nextState := some .new }, [])
  else if !isRDown input.keypadData.buttonStatus then
    ({ st with rDownPressed := false }, [])
  else (st, [])

end ShutdownState

/-! ## IVehicleState -/

/-- The current state of a state machine: an object of one of the classes. -/
inductive VehicleState
  | initializeState (st : InitializeState)
  | controlState (st : ControlState)
  | standbyState (st : StandbyState)
  | readyState (st : ReadyState)
  | emergencyState
  | shutdownState (st : ShutdownState)
deriving DecidableEq, Repr

namespace VehicleState

/-- The class of the current object. -/
def phase : VehicleState → Phase
  | .initializeState _ => .initializeState
  | .controlState _ => .controlState
  | .standbyState _ => .standbyState
  | .readyState _ => .readyState
  | .emergencyState => .emergencyState
  | .shutdownState _ => .shutdownState

def enter : VehicleState → List Effect
  | .initializeState _ => InitializeState.enter
  | .controlState _ => ControlState.enter
  | .standbyState _ => StandbyState.enter
  | .readyState _ => ReadyState.enter
  | .emergencyState => EmergencyState.enter
  | .shutdownState _ => ShutdownState.enter

/-- The result of a method of one class, seen through the interface. -/
def through {α : Type} (toState : α → VehicleState) (result : α × List Effect) :
    VehicleState × List Effect :=
  (toState result.1, result.2)

@[simp] theorem through_fst {α : Type} (toState : α → VehicleState) (result : α × List Effect) :
    (through toState result).1 = toState result.1 := rfl

@[simp] theorem through_snd {α : Type} (toState : α → VehicleState) (result : α × List Effect) :
    (through toState result).2 = result.2 := rfl

def handleInput (client : ClientAnswers) (input : FrcCombinedData) :
    VehicleState → VehicleState × List Effect
  | .initializeState st => through .initializeState (st.handleInput client input)
  | .controlState st => through .controlState (st.handleInput client input)
  | .standbyState st => through .standbyState (st.handleInput client input)
  | .readyState st => through .readyState (st.handleInput input)
  | .emergencyState => (.emergencyState, [])
  | .shutdownState st => through .shutdownState (st.handleInput input)

def handleResponse (client : ClientAnswers) : VehicleState → VehicleState × List Effect
  | .controlState st => through .controlState (st.handleResponse client)
  | .standbyState st => through .standbyState (st.handleResponse client)
  | st => (st, [])

def update (now : SteadyTime) (client : ClientAnswers) :
    VehicleState → VehicleState × List Effect
  | .readyState st => through .readyState (st.update now client)
  | st => (st, [])

/-- The state to move to, if any.  A READY object reads the clock when it is
constructed; losing control requests no transition, the branch for it being
commented out. -/
def next (now : SteadyTime) : VehicleState → Option VehicleState
  | .initializeState st => if st.vehicleFound then some (.controlState .new) else none
  | .controlState st => if st.controlGranted then some (.standbyState .new) else none
  | .standbyState st => if st.readyStateGranted then some (.readyState (.new now)) else none
  | .readyState st => if st.emergencyTriggered then some .emergencyState else none
  | .emergencyState => none
  | .shutdownState st => st.nextState.map .standbyState

end VehicleState

end FortAgent.Jaus
