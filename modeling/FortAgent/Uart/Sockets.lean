import FortAgent.SpammyLogMsg
import FortAgent.Uart.Agent

/-!
# The UDP socket of the bridge

The bridge binds a socket, and starts a receive on it; the handler of a receive starts the
next one.  If the socket cannot be bound, a timer is set, and its handler tries again; if
a receive cannot be started, the socket is bound anew.  `bindLocal` and
`receiveFromRemote` call each other, and each call may turn out either way (`Binding`,
`Receiving`).

Operations are completed by the system, and their handlers are run later, in any order.
`localSocket.close()` cancels the receives and the sends in flight, and setting the timer
cancels the waits: their handlers are run all the same, with an error code.

The datagrams that come in share one variable `from`.  A comment in the source argues that
"only a single instance of receive() is ever run at a time".  `one_receive_in_flight` is
that argument for all runs: the bridge always waits for exactly one thing, a datagram or
the timer.
-/

namespace FortAgent.Uart

open Coap Serial Jaus Transducer

/-! ## The socket and its logs -/

/-- `spdlog::level`. -/
inductive Level
  | trace
  | debug
  | info
  | warn
  | err
  | critical
deriving DecidableEq, Repr

/-- `udp::endpoint`. -/
structure Endpoint (Address : Type*) where
  address : Address
  port : UInt16
deriving DecidableEq, Repr

/-- `boost::system::error_code`, other than success. -/
inductive ErrorCode
  | operationAborted
  | badDescriptor
  | other (value : ℤ)
deriving DecidableEq, Repr

/-- An argument of a log message. -/
inductive LogArg (Address : Type*)
  | address (address : Address)
  | endpoint (endpoint : Endpoint Address)
  | ec (ec : Option ErrorCode)
  | size (size : ℕ)
  | what (what : String)
deriving DecidableEq, Repr

mutual

/-- How a call of `bindLocal` turns out. -/
inductive Binding
  | fails
  | binds (receiving : Receiving)

/-- How a call of `receiveFromRemote` turns out. -/
inductive Receiving
  | starts
  | throws (binding : Binding)

end

/-- A handler that is ready to be run, with what it is called with; that of a send has
captured the message and the endpoint, which is a port of the remote host. -/
inductive Handler
  | received (ec : Option ErrorCode) (data : List UInt8)
  | sent (port : UInt16) (data : List UInt8) (ec : Option ErrorCode)
  | waited (ec : Option ErrorCode)
deriving DecidableEq, Repr

/-- The socket of a bridge with what is in flight on it, the timer, and the logs. -/
structure UdpSide (Address : Type*) where
  /-- `localSocket.is_open()`. -/
  isOpen : Bool
  /-- The receives in flight. -/
  receiving : ℕ
  /-- The sends in flight, each with the port it is for. -/
  sending : List (UInt16 × List UInt8)
  /-- The waits for `localBindRetryTimer`. -/
  waiting : ℕ
  ready : List Handler
  /-- The variable `from`. -/
  sender : Endpoint Address
  failedToBindLocal : SpammyLogMsg Level
  failedToReceiveFromRemote : SpammyLogMsg Level
  failedToSendSerial : SpammyLogMsg Level
  failedToListenSerial : SpammyLogMsg Level
  failedToSendToRemote : UInt16 → Option (SpammyLogMsg Level)
  /-- What has been logged. -/
  logged : List (LogRecord Level (LogArg Address))

/-! ## The functions -/

section Code

variable {Address : Type*}

namespace UdpSide

variable (localEndpoint : Endpoint Address) (remoteHost : Address)

/-- A call of the logger. -/
def write (udp : UdpSide Address) (level : Level) (fmt : String) (args : List (LogArg Address)) :
    UdpSide Address :=
  { udp with logged := udp.logged ++ [⟨level, fmt, args, none⟩] }

/-- The members of the constructor, before it calls `bindLocal`. -/
def closed (sender : Endpoint Address) : UdpSide Address where
  isOpen := false
  receiving := 0
  sending := []
  waiting := 0
  ready := []
  sender := sender
  failedToBindLocal := .new .err
  failedToReceiveFromRemote := .new .err
  failedToSendSerial := .new .warn
  failedToListenSerial := .new .warn
  failedToSendToRemote := fun _ ↦ none
  logged := []

/-- `localSocket.close()` cancels what is in flight. -/
def close (udp : UdpSide Address) : UdpSide Address :=
  { udp with
    isOpen := false
    receiving := 0
    sending := []
    ready := udp.ready ++
      (List.replicate udp.receiving (.received (some .operationAborted) []) ++
        udp.sending.map fun message ↦ .sent message.1 message.2 (some .operationAborted)) }

/-- `localSocket.async_receive_from`; on a closed socket the handler is run with an error. -/
def asyncReceiveFrom (udp : UdpSide Address) : UdpSide Address :=
  if udp.isOpen then { udp with receiving := udp.receiving + 1 }
  else { udp with ready := udp.ready ++ [.received (some .badDescriptor) []] }

/-- `expires_from_now` cancels the waits, and `async_wait` adds another. -/
def awaitRetry (udp : UdpSide Address) : UdpSide Address :=
  { udp with
    waiting := 1
    ready := udp.ready ++ List.replicate udp.waiting (.waited (some .operationAborted)) }

/-- The first part of `bindLocal`, where the socket has been bound. -/
def bound (udp : UdpSide Address) : UdpSide Address :=
  let udp := { udp with isOpen := true }.write .info "Successfully bound to \x7b\x7d"
    [.endpoint localEndpoint]
  { udp with failedToBindLocal := udp.failedToBindLocal.clear }

/-- The exception handler of `bindLocal`. -/
def notBound (udp : UdpSide Address) : UdpSide Address :=
  let log := udp.failedToBindLocal.log "Failed to bind to \x7b\x7d" [.endpoint localEndpoint]
  let udp := { udp with failedToBindLocal := log.1, logged := udp.logged ++ log.2.toList }
  (if udp.isOpen then udp.close else udp).awaitRetry

mutual

def bindLocal : Binding → UdpSide Address → UdpSide Address
  | .fails, udp => udp.close.notBound localEndpoint
  | .binds receiving, udp => receiveFromRemote receiving (udp.close.bound localEndpoint)

/-- The part of `receiveFromRemote` that starts a receive. -/
def receiveFromRemote : Receiving → UdpSide Address → UdpSide Address
  | .starts, udp => udp.asyncReceiveFrom
  | .throws binding, udp => bindLocal binding (udp.write .err "Bound socket receive failed" [])

end

def logFailedToSendToRemote (port : UInt16) (fmt : String) (args : List (LogArg Address))
    (udp : UdpSide Address) : UdpSide Address :=
  let log := ((udp.failedToSendToRemote port).getD (.new .err)).log fmt args
  { udp with
    failedToSendToRemote := Function.update udp.failedToSendToRemote port (some log.1)
    logged := udp.logged ++ log.2.toList }

def clearFailedToSendToRemote (port : UInt16) (udp : UdpSide Address) : UdpSide Address :=
  { udp with failedToSendToRemote := Function.update udp.failedToSendToRemote port none }

def sendToRemote (port : UInt16) (data : List UInt8) (udp : UdpSide Address) : UdpSide Address :=
  if udp.isOpen then { udp with sending := udp.sending ++ [(port, data)] }
  else
    udp.logFailedToSendToRemote port "Error sending to \x7b\x7d" [.endpoint ⟨remoteHost, port⟩]

/-- The handler of `sendToRemote`. -/
def onSent (port : UInt16) (ec : Option ErrorCode) (udp : UdpSide Address) : UdpSide Address :=
  match ec with
  | some .operationAborted => udp
  | some ec =>
    udp.logFailedToSendToRemote port "Got error when sending to \x7b\x7d, ec = \x7b\x7d"
      [.endpoint ⟨remoteHost, port⟩, .ec (some ec)]
  | none => udp.clearFailedToSendToRemote port

/-- The end of `serialDataReceived`.  A message that is no CoAP counts for port zero. -/
def deliver (udp : UdpSide Address) : Delivery → UdpSide Address
  | .remote port data => (udp.sendToRemote remoteHost port data).clearFailedToSendToRemote port
  | .dropped what =>
    udp.logFailedToSendToRemote 0 "Failed to forward received Serial data: Coap error: \x7b\x7d"
      [.what what]
  | .ignored | .jaus .. => udp

/-- A `CoapException` on the way to the serial port is logged. -/
def noteForwarded (udp : UdpSide Address) : Forwarded → UdpSide Address
  | .failed what =>
    let log := udp.failedToSendSerial.log "Failed to send message to serial: \x7b\x7d" [.what what]
    { udp with failedToSendSerial := log.1, logged := udp.logged ++ log.2.toList }
  | _ => udp

/-- A receive that has brought nothing is logged. -/
def failToListen (ec : Option ErrorCode) (size : ℕ) (udp : UdpSide Address) : UdpSide Address :=
  let log := udp.failedToListenSerial.log
    "Listen failure for \x7b\x7d, ec = \x7b\x7d, bytes_recvd = \x7b\x7d"
    [.endpoint localEndpoint, .ec ec, .size size]
  { udp with failedToListenSerial := log.1, logged := udp.logged ++ log.2.toList }

end UdpSide

/-! ## The agent with its socket -/

/-- The agent, and the socket that its datagrams come from and go to. -/
structure UdpAgent (Address : Type*) where
  udp : UdpSide Address
  agent : Agent

/-- What happens to an agent with its socket. -/
inductive UdpEvent (Address : Type*)
  /-- The system completes a receive with a datagram. -/
  | arrives (sender : Endpoint Address) (data : List UInt8)
  /-- A receive fails. -/
  | breaks (value : ℤ)
  /-- The system completes a send. -/
  | leaves (index : ℕ) (error : Option ℤ)
  /-- The timer expires. -/
  | expires
  /-- A handler that is ready is run. -/
  | runs (index : ℕ) (now : SteadyTime) (binding : Binding) (receiving : Receiving)
  /-- The JAUS side calls `sendSRCRequest`. -/
  | requests (jausPort : JausPort) (now : SteadyTime) (coapMsg : List UInt8)
  | removeOldMids (now : SteadyTime)
  /-- The serial port reports on a write. -/
  | written (bytesTransferred : ℕ)
  | failed
  /-- The serial port reports on a read. -/
  | read (completion : ReadCompletion)

namespace UdpAgent

variable (crc8 : List UInt8 → UInt8) (localEndpoint : Endpoint Address) (remoteHost : Address)

/-- The rest of a call that has forwarded a message.  One that does not return leaves
everything as it is. -/
def forwarded (udp : UdpSide Address) (agent : Agent) :
    Outcome (UartCoapBridge × Forwarded) → UdpAgent Address × AgentTraffic
  | .returned (bridge, forwarded) =>
    (⟨udp.noteForwarded forwarded, agent.withBridge bridge⟩, ⟨forwarded.handed, [], []⟩)
  | _ => (⟨udp, agent⟩, ⟨none, [], []⟩)

/-- The handler of `receiveFromRemote`, before it starts the next receive. -/
def onReceived [DecidableEq Address] (ec : Option ErrorCode) (data : List UInt8)
    (now : SteadyTime) (s : UdpAgent Address) : UdpAgent Address × AgentTraffic :=
  if ec = none ∧ 0 < data.length then
    if s.udp.sender.address = remoteHost then
      forwarded { s.udp with failedToReceiveFromRemote := s.udp.failedToReceiveFromRemote.clear }
        s.agent (s.agent.client.bridge.receiveFromRemote crc8 now true s.udp.sender.port data)
    else
      ({ s with
          udp := s.udp.write .trace
            "Received traffic from \x7b\x7d and not the desired remote \x7b\x7d"
            [.address s.udp.sender.address, .address remoteHost] },
        ⟨none, [], []⟩)
  else ({ s with udp := s.udp.failToListen localEndpoint ec data.length }, ⟨none, [], []⟩)

/-- A handler is run. -/
def handle [DecidableEq Address] (now : SteadyTime) (binding : Binding) (receiving : Receiving)
    (s : UdpAgent Address) : Handler → UdpAgent Address × AgentTraffic
  | .received (some .operationAborted) _ => (s, ⟨none, [], []⟩)
  | .received ec data =>
    let received := s.onReceived crc8 localEndpoint remoteHost ec data now
    ({ received.1 with udp := received.1.udp.receiveFromRemote localEndpoint receiving },
      received.2)
  | .sent port _ ec => ({ s with udp := s.udp.onSent remoteHost port ec }, ⟨none, [], []⟩)
  | .waited _ => ({ s with udp := s.udp.bindLocal localEndpoint binding }, ⟨none, [], []⟩)

/-- The agent takes a step of its own, and what it has delivered is sent. -/
def ofAgent (s : UdpAgent Address) (stepped : Agent × AgentTraffic) :
    UdpAgent Address × AgentTraffic :=
  (⟨(stepped.1.client.deliveries.drop s.agent.client.deliveries.length).foldl
      (UdpSide.deliver remoteHost) s.udp, stepped.1⟩, stepped.2)

def step [DecidableEq Address] (s : UdpAgent Address) :
    UdpEvent Address → UdpAgent Address × AgentTraffic
  | .arrives sender data =>
    if s.udp.receiving = 0 then (s, ⟨none, [], []⟩)
    else
      ({ s with
          udp := { s.udp with
            receiving := s.udp.receiving - 1
            sender := sender
            ready := s.udp.ready ++ [.received none data] } }, ⟨none, [], []⟩)
  | .breaks value =>
    if s.udp.receiving = 0 then (s, ⟨none, [], []⟩)
    else
      ({ s with
          udp := { s.udp with
            receiving := s.udp.receiving - 1
            ready := s.udp.ready ++ [.received (some (.other value)) []] } }, ⟨none, [], []⟩)
  | .leaves index error =>
    match s.udp.sending[index]? with
    | none => (s, ⟨none, [], []⟩)
    | some message =>
      ({ s with
          udp := { s.udp with
            sending := s.udp.sending.eraseIdx index
            ready := s.udp.ready ++ [.sent message.1 message.2 (error.map .other)] } },
        ⟨none, [], []⟩)
  | .expires =>
    if s.udp.waiting = 0 then (s, ⟨none, [], []⟩)
    else
      ({ s with
          udp := { s.udp with
            waiting := s.udp.waiting - 1
            ready := s.udp.ready ++ [.waited none] } }, ⟨none, [], []⟩)
  | .runs index now binding receiving =>
    match s.udp.ready[index]? with
    | none => (s, ⟨none, [], []⟩)
    | some handler =>
      handle crc8 localEndpoint remoteHost now binding receiving
        { s with udp := { s.udp with ready := s.udp.ready.eraseIdx index } } handler
  | .requests jausPort now coapMsg =>
    forwarded s.udp s.agent
      (s.agent.client.bridge.sendSRCRequest crc8 now coapMsg jausPort.value)
  | .removeOldMids now => s.ofAgent remoteHost (s.agent.step crc8 (.removeOldMids now))
  | .written bytesTransferred =>
    s.ofAgent remoteHost (s.agent.step crc8 (.written bytesTransferred))
  | .failed => s.ofAgent remoteHost (s.agent.step crc8 .failed)
  | .read completion => s.ofAgent remoteHost (s.agent.step crc8 (.read completion))

/-- The constructor. -/
def new (sender : Endpoint Address) (agent : Agent) (binding : Binding) : UdpAgent Address :=
  ⟨(UdpSide.closed sender).bindLocal localEndpoint binding, agent⟩

end UdpAgent

end Code

/-! ## What the bridge waits for -/

section Waiting

variable {Address : Type*}

namespace Handler

def isReceived : Handler → Bool
  | .received .. => true
  | _ => false

def isWaited : Handler → Bool
  | .waited .. => true
  | _ => false

/-- The datagram that a handler is called with. -/
def datagram : Handler → Option (List UInt8)
  | .received none data => some data
  | _ => none

/-- The operation was not cancelled by the bridge, nor started on a closed socket. -/
def Genuine : Handler → Prop
  | .received ec _ => ec ≠ some .operationAborted ∧ ec ≠ some .badDescriptor
  | .sent .. => True
  | .waited ec => ec = none

end Handler

/-- The part of the socket that decides what the bridge waits for. -/
structure Awaited (Address : Type*) where
  isOpen : Bool
  receiving : ℕ
  waiting : ℕ
  ready : List Handler
  sender : Endpoint Address

def UdpSide.awaited (udp : UdpSide Address) : Awaited Address :=
  ⟨udp.isOpen, udp.receiving, udp.waiting, udp.ready, udp.sender⟩

namespace Awaited

variable {awaited : Awaited Address}

/-- The receives whose handler has not been run. -/
def receives (awaited : Awaited Address) : ℕ :=
  awaited.receiving + awaited.ready.countP Handler.isReceived

/-- The waits whose handler has not been run. -/
def waits (awaited : Awaited Address) : ℕ :=
  awaited.waiting + awaited.ready.countP Handler.isWaited

/-- The datagrams whose handler has not been run, each with the sender that it will find. -/
def unread (awaited : Awaited Address) : List (Endpoint Address × List UInt8) :=
  (awaited.ready.filterMap Handler.datagram).map fun data ↦ (awaited.sender, data)

/-- `receives` and `waits` handlers of receives and waits are outstanding, all genuine. -/
structure Awaits (awaited : Awaited Address) (receives waits : ℕ) : Prop where
  receives : awaited.receives = receives
  waits : awaited.waits = waits
  genuine : ∀ handler ∈ awaited.ready, handler.Genuine

/-- **Exactly one thing.**  An open socket waits for a datagram, and a closed one for the
timer. -/
def Armed (awaited : Awaited Address) : Prop :=
  if awaited.isOpen then awaited.Awaits 1 0 else awaited.Awaits 0 1

theorem armed_of_open (hopen : awaited.isOpen = true) : awaited.Armed ↔ awaited.Awaits 1 0 := by
  rw [Armed, if_pos hopen]

theorem armed_of_closed (hclosed : awaited.isOpen = false) :
    awaited.Armed ↔ awaited.Awaits 0 1 := by
  rw [Armed, hclosed]
  rfl

/-- The handlers that are ready are those of sends. -/
def OnlySent (handlers : List Handler) : Prop :=
  ∀ handler ∈ handlers, ∃ port data ec, handler = .sent port data ec

theorem OnlySent.append {handlers handlers' : List Handler} (h : OnlySent handlers)
    (h' : OnlySent handlers') : OnlySent (handlers ++ handlers') := fun handler hmem ↦
  (List.mem_append.mp hmem).elim (h handler) (h' handler)

theorem onlySent_iff {handlers : List Handler} :
    OnlySent handlers ↔ handlers.countP Handler.isReceived = 0 ∧
      handlers.countP Handler.isWaited = 0 := by
  simp only [List.countP_eq_zero]
  constructor
  · intro h
    constructor
    · intro handler hmem
      obtain ⟨port, data, ec, rfl⟩ := h handler hmem
      exact Bool.false_ne_true
    · intro handler hmem
      obtain ⟨port, data, ec, rfl⟩ := h handler hmem
      exact Bool.false_ne_true
  · rintro ⟨hreceived, hwaited⟩ handler hmem
    cases handler with
    | received ec data => exact absurd rfl (hreceived _ hmem)
    | sent port data ec => exact ⟨port, data, ec, rfl⟩
    | waited ec => exact absurd rfl (hwaited _ hmem)

theorem OnlySent.genuine {handlers : List Handler} (h : OnlySent handlers) :
    ∀ handler ∈ handlers, handler.Genuine := by
  intro handler hmem
  obtain ⟨port, data, ec, rfl⟩ := h handler hmem
  trivial

theorem awaits_nothing_iff : awaited.Awaits 0 0 ↔
    awaited.receiving = 0 ∧ awaited.waiting = 0 ∧ OnlySent awaited.ready := by
  rw [onlySent_iff]
  constructor
  · rintro ⟨hreceives, hwaits, -⟩
    rw [Awaited.receives] at hreceives
    rw [Awaited.waits] at hwaits
    omega
  · rintro ⟨hreceiving, hwaiting, hsent⟩
    refine ⟨?_, ?_, (onlySent_iff.mpr hsent).genuine⟩
    · rw [Awaited.receives, hreceiving, hsent.1]
    · rw [Awaited.waits, hwaiting, hsent.2]

/-- What is outstanding has just been started. -/
structure Started (awaited : Awaited Address) : Prop where
  receiving : awaited.receiving = if awaited.isOpen then 1 else 0
  waiting : awaited.waiting = if awaited.isOpen then 0 else 1
  sent : OnlySent awaited.ready

theorem Started.armed (h : awaited.Started) : awaited.Armed := by
  obtain ⟨hreceived, hwaited⟩ := onlySent_iff.mp h.sent
  have hreceiving := h.receiving
  have hwaiting := h.waiting
  rw [Armed]
  split
  · next hopen =>
      rw [if_pos hopen] at hreceiving hwaiting
      exact ⟨by rw [receives, hreceiving, hreceived], by rw [waits, hwaiting, hwaited],
        h.sent.genuine⟩
  · next hopen =>
      rw [if_neg hopen] at hreceiving hwaiting
      exact ⟨by rw [receives, hreceiving, hreceived], by rw [waits, hwaiting, hwaited],
        h.sent.genuine⟩

theorem OnlySent.filterMap_datagram {handlers : List Handler} (h : OnlySent handlers) :
    handlers.filterMap Handler.datagram = [] := by
  refine List.filterMap_eq_nil_iff.mpr fun handler hmem ↦ ?_
  obtain ⟨port, data, ec, rfl⟩ := h handler hmem
  rfl

theorem OnlySent.unread (h : OnlySent awaited.ready) : awaited.unread = [] := by
  rw [Awaited.unread, h.filterMap_datagram, List.map_nil]

/-- All but one of the handlers that are ready are those of sends. -/
theorem unread_of_split {before after : List Handler} {handler : Handler}
    (hready : awaited.ready = before ++ handler :: after) (hsent : OnlySent (before ++ after)) :
    awaited.unread = (handler.datagram.map fun data ↦ (awaited.sender, data)).toList := by
  have hnone := hsent.filterMap_datagram
  rw [List.filterMap_append, List.append_eq_nil_iff] at hnone
  rw [unread, hready, List.filterMap_append, hnone.1, List.nil_append, List.filterMap_cons, hnone.2]
  cases handler.datagram <;> rfl

/-! ### One step -/

/-- A receive is in flight: the socket is open, and nothing else is waited for. -/
theorem Armed.of_receiving (h : awaited.Armed) (hne : awaited.receiving ≠ 0) :
    awaited.isOpen = true ∧ awaited.receiving = 1 ∧ awaited.waiting = 0 ∧
      OnlySent awaited.ready := by
  rw [onlySent_iff]
  cases hopen : awaited.isOpen with
  | true =>
      obtain ⟨hreceives, hwaits, -⟩ := (armed_of_open hopen).mp h
      rw [receives] at hreceives
      rw [waits] at hwaits
      exact ⟨rfl, by omega, by omega, by omega, by omega⟩
  | false =>
      obtain ⟨hreceives, -, -⟩ := (armed_of_closed hopen).mp h
      rw [receives] at hreceives
      omega

/-- The timer is set: the socket is closed, and nothing else is waited for. -/
theorem Armed.of_waiting (h : awaited.Armed) (hne : awaited.waiting ≠ 0) :
    awaited.isOpen = false ∧ awaited.receiving = 0 ∧ awaited.waiting = 1 ∧
      OnlySent awaited.ready := by
  rw [onlySent_iff]
  cases hopen : awaited.isOpen with
  | true =>
      obtain ⟨-, hwaits, -⟩ := (armed_of_open hopen).mp h
      rw [waits] at hwaits
      omega
  | false =>
      obtain ⟨hreceives, hwaits, -⟩ := (armed_of_closed hopen).mp h
      rw [receives] at hreceives
      rw [waits] at hwaits
      exact ⟨rfl, by omega, by omega, by omega, by omega⟩

/-- The handler of a receive is to be run: it is the only thing waited for. -/
theorem Armed.of_received (h : awaited.Armed) {before after : List Handler}
    {ec : Option ErrorCode} {data : List UInt8}
    (hready : awaited.ready = before ++ .received ec data :: after) :
    awaited.isOpen = true ∧ awaited.receiving = 0 ∧ awaited.waiting = 0 ∧
      OnlySent (before ++ after) ∧ (Handler.received ec data).Genuine := by
  have hreceived : awaited.ready.countP Handler.isReceived =
      (before ++ after).countP Handler.isReceived + 1 := by
    rw [hready, List.countP_append, List.countP_append, List.countP_cons_of_pos rfl, Nat.add_assoc]
  have hwaited : awaited.ready.countP Handler.isWaited =
      (before ++ after).countP Handler.isWaited := by
    rw [hready, List.countP_append, List.countP_append,
      List.countP_cons_of_neg Bool.false_ne_true]
  have hmem : Handler.received ec data ∈ awaited.ready := by
    rw [hready]
    exact List.mem_append_right _ (List.mem_cons_self ..)
  rw [onlySent_iff]
  cases hopen : awaited.isOpen with
  | true =>
      obtain ⟨hreceives, hwaits, hgenuine⟩ := (armed_of_open hopen).mp h
      rw [receives] at hreceives
      rw [waits] at hwaits
      exact ⟨rfl, by omega, by omega, ⟨by omega, by omega⟩, hgenuine _ hmem⟩
  | false =>
      obtain ⟨hreceives, -, -⟩ := (armed_of_closed hopen).mp h
      rw [receives] at hreceives
      omega

/-- The handler of the timer is to be run: it is the only thing waited for. -/
theorem Armed.of_waited (h : awaited.Armed) {before after : List Handler}
    {ec : Option ErrorCode} (hready : awaited.ready = before ++ .waited ec :: after) :
    awaited.isOpen = false ∧ awaited.receiving = 0 ∧ awaited.waiting = 0 ∧
      OnlySent (before ++ after) ∧ ec = none := by
  have hreceived : awaited.ready.countP Handler.isReceived =
      (before ++ after).countP Handler.isReceived := by
    rw [hready, List.countP_append, List.countP_append,
      List.countP_cons_of_neg Bool.false_ne_true]
  have hwaited : awaited.ready.countP Handler.isWaited =
      (before ++ after).countP Handler.isWaited + 1 := by
    rw [hready, List.countP_append, List.countP_append, List.countP_cons_of_pos rfl, Nat.add_assoc]
  have hmem : Handler.waited ec ∈ awaited.ready := by
    rw [hready]
    exact List.mem_append_right _ (List.mem_cons_self ..)
  rw [onlySent_iff]
  cases hopen : awaited.isOpen with
  | true =>
      obtain ⟨-, hwaits, -⟩ := (armed_of_open hopen).mp h
      rw [waits] at hwaits
      omega
  | false =>
      obtain ⟨hreceives, hwaits, hgenuine⟩ := (armed_of_closed hopen).mp h
      rw [receives] at hreceives
      rw [waits] at hwaits
      exact ⟨rfl, by omega, by omega, ⟨by omega, by omega⟩, hgenuine _ hmem⟩

/-- A receive has been completed. -/
theorem armed_of_one_received (hopen : awaited.isOpen = true) (hreceiving : awaited.receiving = 0)
    (hwaiting : awaited.waiting = 0) {before : List Handler} (hsent : OnlySent before)
    {ec : Option ErrorCode} {data : List UInt8} (hgenuine : (Handler.received ec data).Genuine)
    (hready : awaited.ready = before ++ [.received ec data]) : awaited.Armed := by
  obtain ⟨hreceived, hwaited⟩ := onlySent_iff.mp hsent
  refine (armed_of_open hopen).mpr ⟨?_, ?_, fun handler hmem ↦ ?_⟩
  · rw [receives, hreceiving, hready, List.countP_append, hreceived]
    rfl
  · rw [waits, hwaiting, hready, List.countP_append, hwaited]
    rfl
  · rw [hready] at hmem
    rcases List.mem_append.mp hmem with hbefore | hlast
    · exact hsent.genuine handler hbefore
    · rw [List.mem_singleton.mp hlast]
      exact hgenuine

/-- The timer has expired. -/
theorem armed_of_one_waited (hclosed : awaited.isOpen = false)
    (hreceiving : awaited.receiving = 0) (hwaiting : awaited.waiting = 0) {before : List Handler}
    (hsent : OnlySent before) (hready : awaited.ready = before ++ [.waited none]) :
    awaited.Armed := by
  obtain ⟨hreceived, hwaited⟩ := onlySent_iff.mp hsent
  refine (armed_of_closed hclosed).mpr ⟨?_, ?_, fun handler hmem ↦ ?_⟩
  · rw [receives, hreceiving, hready, List.countP_append, hreceived]
    rfl
  · rw [waits, hwaiting, hready, List.countP_append, hwaited]
    rfl
  · rw [hready] at hmem
    rcases List.mem_append.mp hmem with hbefore | hlast
    · exact hsent.genuine handler hbefore
    · rw [List.mem_singleton.mp hlast]
      rfl

/-- Each datagram that is not read is that of a receive. -/
theorem length_unread_le : awaited.unread.length ≤ awaited.receives := by
  rw [unread, List.length_map, receives]
  refine Nat.le_trans ?_ (Nat.le_add_left ..)
  generalize awaited.ready = handlers
  induction handlers with
  | nil => exact Nat.le_refl _
  | cons handler handlers ih =>
      cases handler with
      | received ec data =>
          rw [List.countP_cons_of_pos rfl]
          cases ec with
          | none => exact Nat.succ_le_succ ih
          | some ec => exact Nat.le_succ_of_le ih
      | sent port ec => exact ih
      | waited ec => exact ih

theorem Armed.summary (h : awaited.Armed) :
    (awaited.isOpen = true → awaited.receives = 1 ∧ awaited.waits = 0) ∧
      (awaited.isOpen = false → awaited.receives = 0 ∧ awaited.waits = 1) ∧
      (∀ handler ∈ awaited.ready, handler.Genuine) ∧ awaited.unread.length ≤ 1 := by
  have hle : awaited.unread.length ≤ awaited.receives := length_unread_le
  rw [Armed] at h
  split at h
  · next hopen =>
      refine ⟨fun _ ↦ ⟨h.receives, h.waits⟩, fun hclosed ↦ ?_, h.genuine, hle.trans h.receives.le⟩
      rw [hopen] at hclosed
      cases hclosed
  · next hopen =>
      refine ⟨fun h ↦ absurd h hopen, fun _ ↦ ⟨h.receives, h.waits⟩, h.genuine, ?_⟩
      exact hle.trans (h.receives.le.trans (Nat.zero_le 1))

/-- Handlers of sends come and go. -/
theorem Armed.congr (h : awaited.Armed) {ready : List Handler}
    (hreceived : ready.countP Handler.isReceived = awaited.ready.countP Handler.isReceived)
    (hwaited : ready.countP Handler.isWaited = awaited.ready.countP Handler.isWaited)
    (hgenuine : ∀ handler ∈ ready, handler ∈ awaited.ready ∨ handler.Genuine) :
    Armed { awaited with ready := ready } := by
  have hawaits {receives waits : ℕ} (h : awaited.Awaits receives waits) :
      Awaits { awaited with ready := ready } receives waits := by
    refine ⟨?_, ?_, fun handler hmem ↦ ?_⟩
    · rw [← h.receives, Awaited.receives, Awaited.receives, hreceived]
    · rw [← h.waits, Awaited.waits, Awaited.waits, hwaited]
    · exact (hgenuine handler hmem).elim (h.genuine handler) id
  rw [Armed] at h ⊢
  dsimp only
  split at h
  · next hopen =>
      rw [if_pos hopen]
      exact hawaits h
  · next hopen =>
      rw [if_neg hopen]
      exact hawaits h

end Awaited

namespace UdpSide

open Awaited

variable (localEndpoint : Endpoint Address) {udp : UdpSide Address}

/-- With nothing in flight but sends, closing the socket cancels nothing else. -/
theorem awaited_close (h : udp.awaited.Awaits 0 0) :
    udp.close.awaited.Awaits 0 0 ∧ udp.close.isOpen = false := by
  obtain ⟨hreceiving, hwaiting, hsent⟩ := awaits_nothing_iff.mp h
  refine ⟨awaits_nothing_iff.mpr ⟨rfl, hwaiting, hsent.append ?_⟩, rfl⟩
  have hnone :
      List.replicate udp.receiving (Handler.received (some .operationAborted) []) = [] := by
    rw [show udp.receiving = 0 from hreceiving, List.replicate_zero]
  rw [hnone, List.nil_append]
  intro handler hmem
  obtain ⟨message, -, rfl⟩ := List.mem_map.mp hmem
  exact ⟨_, _, _, rfl⟩

/-- The timer is set, and no wait was cancelled for it. -/
theorem started_notBound (h : udp.awaited.Awaits 0 0) (hclosed : udp.isOpen = false) :
    (udp.notBound localEndpoint).awaited.Started := by
  obtain ⟨hreceiving, hwaiting, hsent⟩ := awaits_nothing_iff.mp h
  have hnone : List.replicate udp.waiting (Handler.waited (some .operationAborted)) = [] := by
    rw [show udp.waiting = 0 from hwaiting, List.replicate_zero]
  have hawaited : (udp.notBound localEndpoint).awaited =
      { udp.awaited with waiting := 1, ready := udp.ready } := by
    simp only [notBound, hclosed, Bool.false_eq_true, if_false, awaitRetry, awaited, hnone,
      List.append_nil]
  rw [hawaited]
  refine ⟨?_, ?_, hsent⟩
  · exact hreceiving.trans (if_neg (by simp [awaited, hclosed])).symm
  · exact (if_neg (by simp [awaited, hclosed])).symm

theorem started_asyncReceiveFrom (h : udp.awaited.Awaits 0 0) (hopen : udp.isOpen = true) :
    udp.asyncReceiveFrom.awaited.Started := by
  obtain ⟨hreceiving, hwaiting, hsent⟩ := awaits_nothing_iff.mp h
  rw [asyncReceiveFrom, if_pos hopen]
  refine ⟨?_, ?_, hsent⟩
  · exact (congrArg (· + 1) hreceiving).trans (if_pos hopen).symm
  · exact hwaiting.trans (if_pos hopen).symm

mutual

/-- However binding the socket turns out, exactly one thing is waited for afterwards. -/
theorem started_bindLocal :
    ∀ (binding : Binding) {udp : UdpSide Address}, udp.awaited.Awaits 0 0 →
      (udp.bindLocal localEndpoint binding).awaited.Started
  | .fails, _, h => started_notBound localEndpoint (awaited_close h).1 (awaited_close h).2
  | .binds receiving, udp, h => by
      obtain ⟨hreceiving, hwaiting, hsent⟩ := awaits_nothing_iff.mp (awaited_close h).1
      have hbound : (udp.close.bound localEndpoint).awaited.Awaits 0 0 :=
        awaits_nothing_iff.mpr ⟨hreceiving, hwaiting, hsent⟩
      exact started_receiveFromRemote receiving hbound rfl

theorem started_receiveFromRemote :
    ∀ (receiving : Receiving) {udp : UdpSide Address}, udp.awaited.Awaits 0 0 →
      udp.isOpen = true → (udp.receiveFromRemote localEndpoint receiving).awaited.Started
  | .starts, _, h, hopen => started_asyncReceiveFrom h hopen
  | .throws binding, udp, h, _ => by
      have hwritten : (udp.write .err "Bound socket receive failed" []).awaited.Awaits 0 0 := h
      exact started_bindLocal binding hwritten

end

/-! ### What leaves the socket alone -/

section Frame

variable (remoteHost : Address)

theorem awaited_onSent (port : UInt16) (ec : Option ErrorCode) :
    (udp.onSent remoteHost port ec).awaited = udp.awaited := by
  rw [onSent.eq_def]
  split <;> rfl

theorem awaited_deliver (delivery : Delivery) :
    (udp.deliver remoteHost delivery).awaited = udp.awaited := by
  cases delivery with
  | remote port data =>
      rw [deliver, sendToRemote]
      split <;> rfl
  | _ => rfl

theorem awaited_foldl_deliver (deliveries : List Delivery) :
    (deliveries.foldl (deliver remoteHost) udp).awaited = udp.awaited := by
  induction deliveries generalizing udp with
  | nil => rfl
  | cons delivery deliveries ih => exact ih.trans (awaited_deliver remoteHost delivery)

theorem awaited_noteForwarded (forwarded : Forwarded) :
    (udp.noteForwarded forwarded).awaited = udp.awaited := by
  cases forwarded <;> rfl

end Frame

end UdpSide

namespace UdpAgent

open Awaited

variable (crc8 : List UInt8 → UInt8) (localEndpoint : Endpoint Address) (remoteHost : Address)

theorem awaited_forwarded (udp : UdpSide Address) (agent : Agent)
    (outcome : Outcome (UartCoapBridge × Forwarded)) :
    (forwarded udp agent outcome).1.udp.awaited = udp.awaited := by
  rw [forwarded.eq_def]
  split
  · exact UdpSide.awaited_noteForwarded _
  · rfl

theorem awaited_onReceived [DecidableEq Address] (ec : Option ErrorCode) (data : List UInt8)
    (now : SteadyTime) (s : UdpAgent Address) :
    (s.onReceived crc8 localEndpoint remoteHost ec data now).1.udp.awaited = s.udp.awaited := by
  rw [onReceived]
  split_ifs
  · exact awaited_forwarded _ _ _
  · rfl
  · rfl

theorem awaited_ofAgent (s : UdpAgent Address) (stepped : Agent × AgentTraffic) :
    (s.ofAgent remoteHost stepped).1.udp.awaited = s.udp.awaited :=
  UdpSide.awaited_foldl_deliver remoteHost _

/-- The handler of a receive that was not cancelled. -/
theorem handle_received [DecidableEq Address] {s : UdpAgent Address} (now : SteadyTime)
    (binding : Binding) (receiving : Receiving) {ec : Option ErrorCode} {data : List UInt8}
    (h : ec ≠ some .operationAborted) :
    s.handle crc8 localEndpoint remoteHost now binding receiving (.received ec data) =
      let received := s.onReceived crc8 localEndpoint remoteHost ec data now
      ({ received.1 with udp := received.1.udp.receiveFromRemote localEndpoint receiving },
        received.2) := by
  rw [handle.eq_def]
  split
  · next heq =>
      cases heq
      exact absurd rfl h
  · next heq =>
      cases heq
      rfl
  · next heq => cases heq
  · next heq => cases heq

/-! ### One event -/

/-- The datagram that the system hands over in an event. -/
def arrived (s : UdpAgent Address) : UdpEvent Address → Option (Endpoint Address × List UInt8)
  | .arrives sender data => if s.udp.receiving = 0 then none else some (sender, data)
  | _ => none

/-- The datagram whose handler is run in an event, with the sender that it finds. -/
def handled (s : UdpAgent Address) : UdpEvent Address → Option (Endpoint Address × List UInt8)
  | .runs index .. =>
    (s.udp.ready[index]?.bind Handler.datagram).map fun data ↦ (s.udp.sender, data)
  | _ => none

/-- An element of a list, and the list without it. -/
theorem eraseIdx_split {α : Type*} {l : List α} {index : ℕ} {a : α} (h : l[index]? = some a) :
    ∃ before after, l = before ++ a :: after ∧ l.eraseIdx index = before ++ after := by
  obtain ⟨hlt, rfl⟩ := List.getElem?_eq_some_iff.mp h
  refine ⟨l.take index, l.drop (index + 1), ?_, List.eraseIdx_eq_take_drop_succ ..⟩
  rw [← List.drop_eq_getElem_cons hlt, List.take_append_drop]

/-- The law of one event: exactly one thing is waited for, and a datagram that has arrived
is handled, by a handler that finds its sender, or is waiting to be. -/
structure Keeps (s : UdpAgent Address) (event : UdpEvent Address) (s' : UdpAgent Address) :
    Prop where
  armed : s'.udp.awaited.Armed
  datagrams : s.udp.awaited.unread ++ (s.arrived event).toList =
    (s.handled event).toList ++ s'.udp.awaited.unread

/-- An event without datagrams that leaves the awaited part of the socket as it is. -/
theorem Keeps.of_awaited {s s' : UdpAgent Address} {event : UdpEvent Address}
    (h : s.udp.awaited.Armed) (hawaited : s'.udp.awaited = s.udp.awaited)
    (harrived : s.arrived event = none) (hhandled : s.handled event = none) :
    Keeps s event s' := by
  refine ⟨hawaited ▸ h, ?_⟩
  rw [hawaited, harrived, hhandled, Option.toList_none, List.append_nil, List.nil_append]

variable [DecidableEq Address] {s : UdpAgent Address}

theorem keeps_arrives (h : s.udp.awaited.Armed) (sender : Endpoint Address) (data : List UInt8) :
    Keeps s (.arrives sender data)
      (s.step crc8 localEndpoint remoteHost (.arrives sender data)).1 := by
  by_cases hnone : s.udp.receiving = 0
  · rw [step, if_pos hnone]
    exact .of_awaited h rfl (if_pos hnone) rfl
  · obtain ⟨hopen, hreceiving, hwaiting, hsent⟩ := h.of_receiving hnone
    have hafter : s.udp.receiving - 1 = 0 := Nat.sub_eq_zero_of_le (Nat.le_of_eq hreceiving)
    rw [step, if_neg hnone]
    refine ⟨armed_of_one_received hopen hafter hwaiting hsent ?_ rfl, ?_⟩
    · exact ⟨by simp, by simp⟩
    have hunread : s.udp.awaited.unread = [] := hsent.unread
    have hdatagrams : s.udp.ready.filterMap Handler.datagram = [] := hsent.filterMap_datagram
    rw [hunread, arrived, if_neg hnone]
    simp only [unread, UdpSide.awaited, List.filterMap_append, hdatagrams]
    rfl

theorem keeps_breaks (h : s.udp.awaited.Armed) (value : ℤ) :
    Keeps s (.breaks value) (s.step crc8 localEndpoint remoteHost (.breaks value)).1 := by
  by_cases hnone : s.udp.receiving = 0
  · rw [step, if_pos hnone]
    exact .of_awaited h rfl rfl rfl
  · obtain ⟨hopen, hreceiving, hwaiting, hsent⟩ := h.of_receiving hnone
    have hafter : s.udp.receiving - 1 = 0 := Nat.sub_eq_zero_of_le (Nat.le_of_eq hreceiving)
    rw [step, if_neg hnone]
    refine ⟨armed_of_one_received hopen hafter hwaiting hsent ?_ rfl, ?_⟩
    · exact ⟨by simp, by simp⟩
    have hunread : s.udp.awaited.unread = [] := hsent.unread
    have hdatagrams : s.udp.ready.filterMap Handler.datagram = [] := hsent.filterMap_datagram
    rw [hunread]
    simp only [unread, UdpSide.awaited, List.filterMap_append, hdatagrams]
    rfl

theorem keeps_leaves (h : s.udp.awaited.Armed) (index : ℕ) (error : Option ℤ) :
    Keeps s (.leaves index error)
      (s.step crc8 localEndpoint remoteHost (.leaves index error)).1 := by
  rw [step]
  split
  · exact .of_awaited h rfl rfl rfl
  · next message hmessage =>
      have hone : OnlySent [.sent message.1 message.2 (error.map .other)] := by
        intro handler hmem
        exact ⟨_, _, _, List.mem_singleton.mp hmem⟩
      obtain ⟨hreceived, hwaited⟩ := onlySent_iff.mp hone
      refine ⟨h.congr ?_ ?_ fun handler hmem ↦ ?_, ?_⟩
      · rw [List.countP_append, hreceived]
        rfl
      · rw [List.countP_append, hwaited]
        rfl
      · exact (List.mem_append.mp hmem).imp id (hone.genuine handler)
      · simp only [unread, UdpSide.awaited, List.filterMap_append, hone.filterMap_datagram,
          List.append_nil]
        exact List.append_nil _

theorem keeps_expires (h : s.udp.awaited.Armed) :
    Keeps s .expires (s.step crc8 localEndpoint remoteHost .expires).1 := by
  by_cases hnone : s.udp.waiting = 0
  · rw [step, if_pos hnone]
    exact .of_awaited h rfl rfl rfl
  · obtain ⟨hclosed, hreceiving, hwaiting, hsent⟩ := h.of_waiting hnone
    have hafter : s.udp.waiting - 1 = 0 := Nat.sub_eq_zero_of_le (Nat.le_of_eq hwaiting)
    rw [step, if_neg hnone]
    refine ⟨armed_of_one_waited hclosed hreceiving hafter hsent rfl, ?_⟩
    have hunread : s.udp.awaited.unread = [] := hsent.unread
    have hdatagrams : s.udp.ready.filterMap Handler.datagram = [] := hsent.filterMap_datagram
    rw [hunread]
    simp only [unread, UdpSide.awaited, List.filterMap_append, hdatagrams]
    rfl

/-- The law of a handler, which is no longer among those that are ready. -/
theorem keeps_handle (h : s.udp.awaited.Armed) {before after : List Handler} {handler : Handler}
    (hready : s.udp.ready = before ++ handler :: after) (now : SteadyTime) (binding : Binding)
    (receiving : Receiving) :
    let erased : UdpAgent Address := { s with udp := { s.udp with ready := before ++ after } }
    let handled := erased.handle crc8 localEndpoint remoteHost now binding receiving handler
    handled.1.udp.awaited.Armed ∧
      s.udp.awaited.unread = (handler.datagram.map fun data ↦ (s.udp.sender, data)).toList ++
        handled.1.udp.awaited.unread := by
  intro erased handled
  cases handler with
  | received ec data =>
      obtain ⟨hopen, hreceiving, hwaiting, hsent, hgenuine⟩ := h.of_received hready
      have hnothing : erased.udp.awaited.Awaits 0 0 :=
        awaits_nothing_iff.mpr ⟨hreceiving, hwaiting, hsent⟩
      have hawaited := awaited_onReceived crc8 localEndpoint remoteHost ec data now erased
      have hstarted := UdpSide.started_receiveFromRemote localEndpoint receiving
        (hawaited ▸ hnothing) ((congrArg Awaited.isOpen hawaited).trans hopen)
      have hhandled : handled.1.udp = (erased.onReceived crc8 localEndpoint remoteHost ec data
          now).1.udp.receiveFromRemote localEndpoint receiving := by
        rw [show handled = _ from handle_received crc8 localEndpoint remoteHost now binding
          receiving hgenuine.1]
      rw [hhandled]
      refine ⟨hstarted.armed, ?_⟩
      rw [hstarted.sent.unread, unread_of_split hready hsent, List.append_nil]
      rfl
  | sent port data ec =>
      have hhandled : handled.1.udp.awaited = erased.udp.awaited :=
        UdpSide.awaited_onSent remoteHost port ec
      have hready' : s.udp.awaited.ready = before ++ .sent port data ec :: after := hready
      have hcongr : Armed { s.udp.awaited with ready := before ++ after } := by
        refine h.congr ?_ ?_ fun handler hmem ↦ .inl ?_
        · rw [hready']
          simp [Handler.isReceived]
        · rw [hready']
          simp [Handler.isWaited]
        · rw [hready']
          exact (List.mem_append.mp hmem).elim (List.mem_append_left _)
            fun hafter ↦ List.mem_append_right _ (List.mem_cons_of_mem _ hafter)
      have hunread : s.udp.awaited.unread =
          unread { s.udp.awaited with ready := before ++ after } := by
        rw [unread, unread, hready', List.filterMap_append, List.filterMap_append,
          List.filterMap_cons_none rfl]
      rw [hhandled]
      exact ⟨hcongr, hunread⟩
  | waited ec =>
      obtain ⟨hclosed, hreceiving, hwaiting, hsent, -⟩ := h.of_waited hready
      have hnothing : erased.udp.awaited.Awaits 0 0 :=
        awaits_nothing_iff.mpr ⟨hreceiving, hwaiting, hsent⟩
      have hstarted : handled.1.udp.awaited.Started :=
        UdpSide.started_bindLocal localEndpoint binding hnothing
      refine ⟨hstarted.armed, ?_⟩
      rw [hstarted.sent.unread, unread_of_split hready hsent]
      rfl

theorem keeps_runs (h : s.udp.awaited.Armed) (index : ℕ) (now : SteadyTime) (binding : Binding)
    (receiving : Receiving) :
    Keeps s (.runs index now binding receiving)
      (s.step crc8 localEndpoint remoteHost (.runs index now binding receiving)).1 := by
  rw [step]
  split
  · next hnone =>
      refine .of_awaited h rfl rfl ?_
      rw [handled, hnone]
      rfl
  · next handler hhandler =>
      obtain ⟨before, after, hready, herase⟩ := eraseIdx_split hhandler
      obtain ⟨harmed, hunread⟩ :=
        keeps_handle crc8 localEndpoint remoteHost h hready now binding receiving
      rw [herase]
      refine ⟨harmed, ?_⟩
      rw [handled, hhandler, hunread]
      exact List.append_nil _

/-- **One event.** -/
theorem step_keeps (h : s.udp.awaited.Armed) (event : UdpEvent Address) :
    Keeps s event (s.step crc8 localEndpoint remoteHost event).1 := by
  cases event with
  | arrives sender data => exact keeps_arrives crc8 localEndpoint remoteHost h sender data
  | breaks value => exact keeps_breaks crc8 localEndpoint remoteHost h value
  | leaves index error => exact keeps_leaves crc8 localEndpoint remoteHost h index error
  | expires => exact keeps_expires crc8 localEndpoint remoteHost h
  | runs index now binding receiving =>
      exact keeps_runs crc8 localEndpoint remoteHost h index now binding receiving
  | requests jausPort now coapMsg => exact .of_awaited h (awaited_forwarded _ _ _) rfl rfl
  | removeOldMids now => exact .of_awaited h (awaited_ofAgent remoteHost s _) rfl rfl
  | written bytesTransferred => exact .of_awaited h (awaited_ofAgent remoteHost s _) rfl rfl
  | failed => exact .of_awaited h (awaited_ofAgent remoteHost s _) rfl rfl
  | read completion => exact .of_awaited h (awaited_ofAgent remoteHost s _) rfl rfl

end UdpAgent

/-! ### Runs -/

/-- One recorded event of an agent with its socket. -/
abbrev UdpStep (Address : Type*) := Step (UdpAgent Address) (UdpEvent Address) AgentTraffic

/-- The datagrams that the system has handed over, in order. -/
def arrivedDatagrams (h : List (UdpStep Address)) : List (Endpoint Address × List UInt8) :=
  h.filterMap fun r ↦ r.before.arrived r.input

/-- The datagrams whose handlers have been run, each with the sender that it has found. -/
def handledDatagrams (h : List (UdpStep Address)) : List (Endpoint Address × List UInt8) :=
  h.filterMap fun r ↦ r.before.handled r.input

/-- The law of a run. -/
structure Listening (h : List (UdpStep Address)) (s : UdpAgent Address) : Prop where
  armed : s.udp.awaited.Armed
  datagrams : arrivedDatagrams h = handledDatagrams h ++ s.udp.awaited.unread

theorem listening_new (localEndpoint sender : Endpoint Address)
    (agent : Agent) (binding : Binding) :
    Listening [] (UdpAgent.new localEndpoint sender agent binding) := by
  have hclosed : (UdpSide.closed sender).awaited.Awaits 0 0 :=
    Awaited.awaits_nothing_iff.mpr ⟨rfl, rfl, nofun⟩
  have hstarted := UdpSide.started_bindLocal localEndpoint binding hclosed
  exact ⟨hstarted.armed, hstarted.sent.unread.symm⟩

variable [DecidableEq Address] (crc8 : List UInt8 → UInt8) (localEndpoint : Endpoint Address)
  (remoteHost : Address)

theorem Listening.step {h : List (UdpStep Address)} {s : UdpAgent Address}
    (hlistening : Listening h s) (event : UdpEvent Address) :
    Listening (h ++ [record (UdpAgent.step crc8 localEndpoint remoteHost) s event])
      (s.step crc8 localEndpoint remoteHost event).1 := by
  obtain ⟨harmed, hdatagrams⟩ :=
    UdpAgent.step_keeps crc8 localEndpoint remoteHost hlistening.armed event
  have hone {α : Type _} (see : UdpAgent Address → UdpEvent Address → Option α) :
      [record (UdpAgent.step crc8 localEndpoint remoteHost) s event].filterMap
        (fun r ↦ see r.before r.input) = (see s event).toList := by
    simp only [List.filterMap_cons, List.filterMap_nil, record_before, record_input]
    cases see s event <;> rfl
  refine ⟨harmed, ?_⟩
  rw [arrivedDatagrams, handledDatagrams, List.filterMap_append, List.filterMap_append,
    hone UdpAgent.arrived, hone UdpAgent.handled, List.append_assoc, ← hdatagrams,
    ← List.append_assoc]
  exact congrArg (· ++ _) hlistening.datagrams

theorem listening_run (sender : Endpoint Address) (agent : Agent) (binding : Binding)
    (events : List (UdpEvent Address)) :
    let start := UdpAgent.new localEndpoint sender agent binding
    Listening (history (UdpAgent.step crc8 localEndpoint remoteHost) start events)
      (final (UdpAgent.step crc8 localEndpoint remoteHost) start events) :=
  history_invariant' _ (listening_new localEndpoint sender agent binding)
    (fun _ _ event hlistening ↦ hlistening.step crc8 localEndpoint remoteHost event) events

/-- **Exactly one thing is waited for.**  In every run of the agent with its socket, however
the attempts to bind it and to receive turn out, and in whatever order the system completes
operations and runs handlers: while the socket is open exactly one receive is in flight or
has its handler yet to be run, and the timer is not set; while it is closed there is no
receive, and the timer is set exactly once; and no handler of a receive or of the timer is
ready that was cancelled.

So the handler of a datagram finds its sender in `from`: the datagrams that have arrived
have been handled, each once, in order and with its own sender, but for the last one, whose
handler may still have to be run. -/
theorem one_receive_in_flight (sender : Endpoint Address) (agent : Agent) (binding : Binding)
    (events : List (UdpEvent Address)) :
    let start := UdpAgent.new localEndpoint sender agent binding
    let h := history (UdpAgent.step crc8 localEndpoint remoteHost) start events
    let awaited := (final (UdpAgent.step crc8 localEndpoint remoteHost) start events).udp.awaited
    (awaited.isOpen = true → awaited.receives = 1 ∧ awaited.waits = 0) ∧
      (awaited.isOpen = false → awaited.receives = 0 ∧ awaited.waits = 1) ∧
      (∀ handler ∈ awaited.ready, handler.Genuine) ∧
      arrivedDatagrams h = handledDatagrams h ++ awaited.unread ∧ awaited.unread.length ≤ 1 := by
  intro start h awaited
  have hlistening := listening_run crc8 localEndpoint remoteHost sender agent binding events
  obtain ⟨hopen, hclosed, hgenuine, hle⟩ := hlistening.armed.summary
  exact ⟨hopen, hclosed, hgenuine, hlistening.datagrams, hle⟩

end Waiting

end FortAgent.Uart
