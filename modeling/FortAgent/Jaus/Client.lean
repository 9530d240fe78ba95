import FortAgent.Lib.Transducer

/-!
# The JAUS client

`JAUSClientImpl` asks the vehicle for control and for its status.  It sends one request
at a time, or means to: a flag, `requestPending`, is set after a request has been sent
and cleared by the callbacks for what comes in.

OpenJAUS is outside the repository.  What is assumed of it is that it puts a request on
the wire when it is told to, and that it runs the callback for every message that comes
in.  An `Exchange` is a client with the requests that are on the wire and not yet
answered.  Its events are whole calls, or the two halves of a call one by one: OpenJAUS
has a thread of its own, and a callback may run between them.
-/

namespace FortAgent.Jaus

open Transducer

/-! ## The client -/

/-- A request for which the client waits. -/
inductive Request
  | requestControl | queryStatus
deriving DecidableEq, Repr

/-- What a call for the request returns while another is pending. -/
def Request.whilePending : Request → Bool
  | .requestControl => true
  | .queryStatus => false

/-- The data that requests and callbacks use.  Of the address of the server only its
validity matters. -/
structure JAUSClientImpl (Status : Type) where
  serverValid : Bool
  controlGranted : Bool
  requestPending : Bool
  currentStatus : Status
deriving DecidableEq, Repr

namespace JAUSClientImpl

variable {Status : Type}

/-- The components found come with the validity of their addresses. -/
def discoverVehicle (client : JAUSClientImpl Status) (pdList : List Bool) :
    JAUSClientImpl Status × Bool :=
  match pdList with
  | [] => (client, false)
  | valid :: _ => ({ client with serverValid := valid }, true)

/-- A call up to the point where the request is sent, if it is, and what the call
returns. -/
def dispatch (client : JAUSClientImpl Status) (request : Request) : Option Request × Bool :=
  if !client.serverValid then (none, false)
  else if client.requestPending then (none, request.whilePending)
  else (some request, true)

/-- The rest of a call that has sent a request. -/
def setPending (client : JAUSClientImpl Status) : JAUSClientImpl Status :=
  { client with requestPending := true }

/-- A whole call. -/
def call (client : JAUSClientImpl Status) (request : Request) :
    JAUSClientImpl Status × Option Request × Bool :=
  let dispatched := client.dispatch request
  (if dispatched.1.isSome then client.setPending else client, dispatched)

def sendRequestControl (client : JAUSClientImpl Status) :
    JAUSClientImpl Status × Option Request × Bool :=
  client.call .requestControl

def queryStatus (client : JAUSClientImpl Status) : JAUSClientImpl Status × Option Request × Bool :=
  client.call .queryStatus

/-- The callbacks also post a JAUS response to the bridge. -/
def handleRequestControlResponse (client : JAUSClientImpl Status) (accepted : Bool) :
    JAUSClientImpl Status :=
  { client with controlGranted := accepted, requestPending := false }

def handleIncomingReportStatus (client : JAUSClientImpl Status) (status : Status) :
    JAUSClientImpl Status :=
  { client with currentStatus := status, requestPending := false }

/-- A request is sent to a valid address if none is pending. -/
theorem dispatch_fst (client : JAUSClientImpl Status) (request : Request) :
    (client.dispatch request).1 =
      if client.serverValid = true ∧ client.requestPending = false then some request
      else none := by
  unfold dispatch
  cases client.serverValid with
  | false => rfl
  | true => cases client.requestPending <;> rfl

end JAUSClientImpl

/-! ## The exchange with the vehicle -/

/-- A client, the requests that have been sent and not been answered, and those whose
calls have not set the flag yet. -/
structure Exchange (Status : Type) where
  client : JAUSClientImpl Status
  inFlight : List Request
  calls : List Request
deriving DecidableEq, Repr

/-- What comes in: the answer to a request of either kind, or a status that nobody has
asked for. -/
inductive Incoming (Status : Type)
  | requestControlResponse (accepted : Bool)
  | reportStatusAnswer (status : Status)
  | reportStatus (status : Status)
deriving DecidableEq, Repr

/-- An event, where calls are not interrupted. -/
inductive CallEvent (Status : Type)
  | sendRequestControl
  | queryStatus
  | incoming (message : Incoming Status)
  | discoverVehicle (pdList : List Bool)
deriving DecidableEq, Repr

/-- The message that comes in, if one does. -/
def CallEvent.message? {Status : Type} : CallEvent Status → Option (Incoming Status)
  | .incoming message => some message
  | _ => none

/-- The event is a call. -/
def CallEvent.isCall {Status : Type} : CallEvent Status → Bool
  | .sendRequestControl | .queryStatus => true
  | _ => false

/-- An event, where a call may be interrupted between its two halves. -/
inductive HalfCallEvent (Status : Type)
  | dispatch (request : Request)
  | setPending (request : Request)
  | incoming (message : Incoming Status)
  | discoverVehicle (pdList : List Bool)
deriving DecidableEq, Repr

/-- The message that comes in, if one does. -/
def HalfCallEvent.message? {Status : Type} : HalfCallEvent Status → Option (Incoming Status)
  | .incoming message => some message
  | _ => none

/-- The event is the second half of a call. -/
def HalfCallEvent.isSetPending {Status : Type} : HalfCallEvent Status → Bool
  | .setPending _ => true
  | _ => false

namespace Exchange

variable {Status : Type}

/-- A message that comes in. -/
def incoming (exchange : Exchange Status) : Incoming Status → Exchange Status
  | .requestControlResponse accepted =>
    { exchange with
      client := exchange.client.handleRequestControlResponse accepted
      inFlight := exchange.inFlight.erase .requestControl }
  | .reportStatusAnswer status =>
    { exchange with
      client := exchange.client.handleIncomingReportStatus status
      inFlight := exchange.inFlight.erase .queryStatus }
  | .reportStatus status =>
    { exchange with client := exchange.client.handleIncomingReportStatus status }

/-- An answer belongs to a request that has not been answered. -/
def Admits (exchange : Exchange Status) : Incoming Status → Prop
  | .requestControlResponse _ => .requestControl ∈ exchange.inFlight
  | .reportStatusAnswer _ => .queryStatus ∈ exchange.inFlight
  | .reportStatus _ => True

instance (exchange : Exchange Status) :
    (message : Incoming Status) → Decidable (exchange.Admits message)
  | .requestControlResponse _ => inferInstanceAs (Decidable (_ ∈ _))
  | .reportStatusAnswer _ => inferInstanceAs (Decidable (_ ∈ _))
  | .reportStatus _ => inferInstanceAs (Decidable True)

/-- A whole call, with the request that is sent. -/
def afterCall (exchange : Exchange Status)
    (result : JAUSClientImpl Status × Option Request × Bool) :
    Exchange Status × Option Request :=
  ({ exchange with
      client := result.1
      inFlight := exchange.inFlight ++ result.2.1.toList }, result.2.1)

/-- One event, with the request that is sent. -/
def step (exchange : Exchange Status) : CallEvent Status → Exchange Status × Option Request
  | .sendRequestControl => exchange.afterCall exchange.client.sendRequestControl
  | .queryStatus => exchange.afterCall exchange.client.queryStatus
  | .incoming message => (exchange.incoming message, none)
  | .discoverVehicle pdList =>
    ({ exchange with client := (exchange.client.discoverVehicle pdList).1 }, none)

/-- One event, with the request that is sent. -/
def halfStep (exchange : Exchange Status) :
    HalfCallEvent Status → Exchange Status × Option Request
  | .dispatch request =>
    let sent := (exchange.client.dispatch request).1
    ({ exchange with
        inFlight := exchange.inFlight ++ sent.toList
        calls := exchange.calls ++ sent.toList }, sent)
  | .setPending request =>
    ({ exchange with
        client := exchange.client.setPending
        calls := exchange.calls.erase request }, none)
  | .incoming message => (exchange.incoming message, none)
  | .discoverVehicle pdList =>
    ({ exchange with client := (exchange.client.discoverVehicle pdList).1 }, none)

/-- Nothing has happened yet. -/
structure Idle (exchange : Exchange Status) : Prop where
  notPending : exchange.client.requestPending = false
  noneInFlight : exchange.inFlight = []
  noCalls : exchange.calls = []

end Exchange

/-- The event of a whole call. -/
def Request.callEvent {Status : Type} : Request → CallEvent Status
  | .requestControl => .sendRequestControl
  | .queryStatus => .queryStatus

theorem CallEvent.isCall_iff {Status : Type} {event : CallEvent Status} :
    event.isCall = true ↔ ∃ request : Request, event = request.callEvent := by
  constructor
  · intro h
    cases event with
    | sendRequestControl => exact ⟨.requestControl, rfl⟩
    | queryStatus => exact ⟨.queryStatus, rfl⟩
    | incoming message => cases h
    | discoverVehicle pdList => cases h
  · rintro ⟨request, rfl⟩
    cases request <;> rfl

namespace Exchange

variable {Status : Type}

theorem step_callEvent (exchange : Exchange Status) (request : Request) :
    exchange.step request.callEvent = exchange.afterCall (exchange.client.call request) := by
  cases request with
  | requestControl => rfl
  | queryStatus => rfl

/-- **Whole calls** are calls that are not interrupted. -/
theorem step_callEvent_eq_halfStep {exchange : Exchange Status} (hcalls : exchange.calls = [])
    (request : Request) :
    exchange.step request.callEvent =
      let dispatched := exchange.halfStep (.dispatch request)
      (if dispatched.2.isSome then (dispatched.1.halfStep (.setPending request)).1
        else dispatched.1, dispatched.2) := by
  rw [step_callEvent, afterCall, JAUSClientImpl.call, halfStep, hcalls]
  rw [exchange.client.dispatch_fst request]
  split
  · simp [halfStep]
  · simp

end Exchange

end FortAgent.Jaus
