import FortAgent.Uart.Sockets
import Mathlib.Logic.Function.Basic

/-!
# From UDP clients to the serial line

The agent is a component of the agent with its socket: it sees the datagrams of the remote
host in the order in which they have arrived, each with the port of its own sender.  So the
laws of the agent carry over to whole runs with the socket: a device at the other end of
the line reads what clients have sent and the JAUS side has requested
(`device_reads_datagrams`), and its responses come back to where the requests came from
(`responses_reach_their_origins`).
-/

namespace FortAgent.Uart

open Coap Serial Jaus Transducer

/-! ## The agent within -/

/-- A call that has forwarded a message is a step of the agent. -/
theorem forwarded_eq {Address : Type*} (crc8 : List UInt8 → UInt8) (udp : UdpSide Address)
    (agent : Agent) (origin : Origin) (now : SteadyTime) (bytes : List UInt8) :
    let forwarded := UdpAgent.forwarded udp agent
      (origin.send crc8 now bytes agent.client.bridge)
    let stepped := agent.step crc8 (.datagram origin now bytes)
    forwarded.1.agent = stepped.1 ∧ forwarded.2 = stepped.2 := by
  simp only [Agent.step]
  cases origin.send crc8 now bytes agent.client.bridge with
  | returned sent => exact ⟨rfl, rfl⟩
  | _ => exact ⟨rfl, rfl⟩

section Component

variable {Address : Type*} [DecidableEq Address] (remoteHost : Address)

namespace UdpAgent

/-- What comes to be forwarded in an event: a datagram of the remote host, or a request. -/
def submitted (s : UdpAgent Address) :
    UdpEvent Address → Option (Origin × SteadyTime × List UInt8)
  | .runs index now .. =>
    (s.udp.ready[index]?.bind Handler.datagram).bind fun data ↦
      if 0 < data.length ∧ s.udp.sender.address = remoteHost then
        some (.udp s.udp.sender.port, now, data)
      else none
  | .requests jausPort now coapMsg => some (.src jausPort, now, coapMsg)
  | _ => none

/-- The event of the agent within an event. -/
def agentEvent (s : UdpAgent Address) : UdpEvent Address → Option AgentEvent
  | .removeOldMids now => some (.removeOldMids now)
  | .written bytesTransferred => some (.written bytesTransferred)
  | .failed => some .failed
  | .read completion => some (.read completion)
  | event => (s.submitted remoteHost event).map fun datagram ↦
      .datagram datagram.1 datagram.2.1 datagram.2.2

end UdpAgent

variable (crc8 : List UInt8 → UInt8) (localEndpoint : Endpoint Address)

/-- The step of the agent within a step. -/
def UdpStep.agentStep (r : UdpStep Address) : Option AgentStep :=
  (r.before.agentEvent remoteHost r.input).map (record (Agent.step crc8) r.before.agent)

namespace UdpAgent

/-- Running a handler is a step of the agent, if the handler forwards a datagram, and else
none of its business. -/
theorem agent_handle (s : UdpAgent Address) (now : SteadyTime) (binding : Binding)
    (receiving : Receiving) (handler : Handler) :
    let handled := s.handle crc8 localEndpoint remoteHost now binding receiving handler
    match handler.datagram with
    | some data =>
      if 0 < data.length ∧ s.udp.sender.address = remoteHost then
        let stepped := s.agent.step crc8 (.datagram (.udp s.udp.sender.port) now data)
        handled.1.agent = stepped.1 ∧ handled.2 = stepped.2
      else handled.1.agent = s.agent ∧ handled.2 = ⟨none, [], []⟩
    | none => handled.1.agent = s.agent ∧ handled.2 = ⟨none, [], []⟩ := by
  intro handled
  cases handler with
  | sent port ec => exact ⟨rfl, rfl⟩
  | waited ec => exact ⟨rfl, rfl⟩
  | received ec data =>
      cases ec with
      | none =>
          have hhandled : handled = _ :=
            handle_received crc8 localEndpoint remoteHost now binding receiving nofun
          rw [hhandled]
          simp only [Handler.datagram, onReceived, true_and]
          by_cases hdata : 0 < data.length
          · by_cases haddress : s.udp.sender.address = remoteHost
            · rw [if_pos hdata, if_pos haddress, if_pos ⟨hdata, haddress⟩]
              exact forwarded_eq crc8 _ s.agent (.udp s.udp.sender.port) now data
            · rw [if_pos hdata, if_neg haddress, if_neg fun h ↦ haddress h.2]
              exact ⟨rfl, rfl⟩
          · rw [if_neg hdata, if_neg fun h ↦ hdata h.1]
            exact ⟨rfl, rfl⟩
      | some ec =>
          cases ec <;> exact ⟨rfl, rfl⟩

end UdpAgent

/-- What an event is to the agent: nothing, or an event of its own. -/
theorem agent_step (s : UdpAgent Address) (event : UdpEvent Address) :
    let stepped := s.step crc8 localEndpoint remoteHost event
    (s.agentEvent remoteHost event = none ∧ stepped.1.agent = s.agent ∧
      stepped.2 = ⟨none, [], []⟩) ∨
    ∃ agentEvent, s.agentEvent remoteHost event = some agentEvent ∧
      stepped.1.agent = (s.agent.step crc8 agentEvent).1 ∧
      stepped.2 = (s.agent.step crc8 agentEvent).2 := by
  cases event with
  | arrives sender data =>
      simp only [UdpAgent.step]
      split <;> exact .inl ⟨rfl, rfl, rfl⟩
  | breaks value =>
      simp only [UdpAgent.step]
      split <;> exact .inl ⟨rfl, rfl, rfl⟩
  | leaves index error =>
      simp only [UdpAgent.step]
      split <;> exact .inl ⟨rfl, rfl, rfl⟩
  | expires =>
      simp only [UdpAgent.step]
      split <;> exact .inl ⟨rfl, rfl, rfl⟩
  | runs index now binding receiving =>
      simp only [UdpAgent.step, UdpAgent.agentEvent, UdpAgent.submitted]
      cases hready : s.udp.ready[index]? with
      | none => exact .inl ⟨rfl, rfl, rfl⟩
      | some handler =>
          have hhandle := UdpAgent.agent_handle remoteHost crc8 localEndpoint
            { s with udp := { s.udp with ready := s.udp.ready.eraseIdx index } } now binding
            receiving handler
          simp only [Option.bind_some]
          cases hdatagram : handler.datagram with
          | none =>
              rw [hdatagram] at hhandle
              exact .inl ⟨rfl, hhandle⟩
          | some data =>
              rw [hdatagram] at hhandle
              simp only [Option.bind_some]
              dsimp only at hhandle
              split at hhandle
              · next h => exact .inr ⟨_, by rw [if_pos h]; rfl, hhandle⟩
              · next h => exact .inl ⟨by rw [if_neg h]; rfl, hhandle⟩
  | requests jausPort now coapMsg =>
      exact .inr ⟨_, rfl, forwarded_eq crc8 s.udp s.agent (.src jausPort) now coapMsg⟩
  | removeOldMids now => exact .inr ⟨_, rfl, rfl, rfl⟩
  | written bytesTransferred => exact .inr ⟨_, rfl, rfl, rfl⟩
  | failed => exact .inr ⟨_, rfl, rfl, rfl⟩
  | read completion => exact .inr ⟨_, rfl, rfl, rfl⟩

/-- **The agent is a component of the agent with its socket.** -/
theorem isComponent_agent_udp :
    IsComponent (UdpAgent.step crc8 localEndpoint remoteHost) (Agent.step crc8) UdpAgent.agent
      (UdpStep.agentStep remoteHost crc8) := by
  intro s event
  simp only [UdpStep.agentStep, record_before, record_input]
  rcases agent_step remoteHost crc8 localEndpoint s event with
    ⟨hnone, hagent, -⟩ | ⟨agentEvent, hsome, hagent, -⟩
  · exact .inl ⟨by rw [hnone]; rfl, hagent⟩
  · exact .inr ⟨agentEvent, by rw [hsome]; rfl, hagent⟩

/-- Its traffic is that of the agent. -/
theorem output_agentStep (s : UdpAgent Address) (event : UdpEvent Address) :
    let r := record (UdpAgent.step crc8 localEndpoint remoteHost) s event
    ((UdpStep.agentStep remoteHost crc8 r).bind fun q ↦ q.output.handed.map Prod.fst) =
        r.output.handed.map Prod.fst ∧
      (UdpStep.agentStep remoteHost crc8 r).toList.flatMap (fun q ↦ q.output.wired) =
        r.output.wired ∧
      (UdpStep.agentStep remoteHost crc8 r).toList.flatMap (fun q ↦ q.output.received) =
        r.output.received := by
  simp only [UdpStep.agentStep, record_before, record_input, record_output]
  rcases agent_step remoteHost crc8 localEndpoint s event with
    ⟨hnone, -, htraffic⟩ | ⟨agentEvent, hsome, -, htraffic⟩
  · rw [hnone, htraffic]
    exact ⟨rfl, rfl, rfl⟩
  · rw [hsome, htraffic]
    exact ⟨rfl, List.append_nil _, List.append_nil _⟩

end Component

/-! ## From clients to the device -/

section Clients

variable {Address : Type*} [DecidableEq Address] (remoteHost : Address)
  (crc8 : List UInt8 → UInt8)

/-- The message that some bytes are, if they are one. -/
noncomputable def messageOf : List UInt8 → Option Message := Function.partialInv Message.bytes

theorem messageOf_eq_some_iff {bytes : List UInt8} {m : Message} :
    messageOf bytes = some m ↔ bytes = m.bytes := by
  have hinjective : Function.Injective Message.bytes := fun _ _ ↦ Message.bytes_injective
  exact (hinjective.isPartialInv m bytes).trans eq_comm

/-- What the tracker makes of a datagram, if it is a message. -/
noncomputable def forwardedBytes (datagram : Origin × SteadyTime × List UInt8) :
    Option (List UInt8) :=
  (messageOf (datagram.1.received datagram.2.2)).map fun m ↦
    (m.forwarded crc8 datagram.1.port).bytes

/-- A datagram that has arrived, if it is of a client, with the port of the client. -/
def clientDatagram (datagram : Endpoint Address × List UInt8) : Option (UInt16 × List UInt8) :=
  if 0 < datagram.2.length ∧ datagram.1.address = remoteHost then
    some (datagram.1.port, datagram.2)
  else none

/-- What is submitted, if it is a datagram of a client. -/
def udpDatagram (datagram : Origin × SteadyTime × List UInt8) : Option (UInt16 × List UInt8) :=
  match datagram.1 with
  | .udp port => some (port, datagram.2.2)
  | .src _ => none

/-- What is handed over is what the tracker makes of what is submitted. -/
theorem handed_eq_forwardedBytes {agent : Agent} {origin : Origin} {now : SteadyTime}
    {bytes : List UInt8} (h : agent.Accommodates crc8 (.datagram origin now bytes)) :
    (agent.step crc8 (.datagram origin now bytes)).2.handed.map Prod.fst =
      forwardedBytes crc8 (origin, now, bytes) := by
  refine Option.ext fun message ↦ ?_
  have hhanded : (agent.step crc8 (.datagram origin now bytes)).2.handed.map Prod.fst =
      some message ↔
        ∃ taken, (agent.step crc8 (.datagram origin now bytes)).2.handed =
          some (message, taken) := by
    simp
  rw [hhanded, handed_iff crc8 h, forwardedBytes, Option.map_eq_some_iff]
  constructor
  · rintro ⟨_, _, _, m, hevent, hm, rfl⟩
    cases hevent
    exact ⟨m, messageOf_eq_some_iff.mpr hm, rfl⟩
  · rintro ⟨m, hm, rfl⟩
    exact ⟨origin, now, bytes, m, rfl, messageOf_eq_some_iff.mp hm, rfl⟩

variable (localEndpoint : Endpoint Address)

/-- The event of the agent is what is submitted, or an event that hands nothing over. -/
theorem agentEvent_cases (s : UdpAgent Address) (event : UdpEvent Address) :
    s.agentEvent remoteHost event = ((s.submitted remoteHost event).map fun datagram ↦
      .datagram datagram.1 datagram.2.1 datagram.2.2) ∨
    s.submitted remoteHost event = none ∧ ∃ agentEvent,
      s.agentEvent remoteHost event = some agentEvent ∧
        ∀ agent : Agent, (agent.step crc8 agentEvent).2.handed = none := by
  cases event with
  | removeOldMids now => exact .inr ⟨rfl, _, rfl, fun _ ↦ rfl⟩
  | written bytesTransferred => exact .inr ⟨rfl, _, rfl, fun _ ↦ rfl⟩
  | failed => exact .inr ⟨rfl, _, rfl, fun _ ↦ rfl⟩
  | read completion => exact .inr ⟨rfl, _, rfl, fun _ ↦ rfl⟩
  | _ => exact .inl rfl

/-- At an event, what is handed over is what the tracker makes of what is submitted. -/
theorem handed_submitted {s : UdpAgent Address} {event : UdpEvent Address}
    (h : ∀ agentEvent ∈ s.agentEvent remoteHost event, s.agent.Accommodates crc8 agentEvent) :
    (s.step crc8 localEndpoint remoteHost event).2.handed.map Prod.fst =
      (s.submitted remoteHost event).bind (forwardedBytes crc8) := by
  rcases agent_step remoteHost crc8 localEndpoint s event with
    ⟨hnone, -, htraffic⟩ | ⟨agentEvent, hsome, -, htraffic⟩
  · rw [htraffic]
    rcases agentEvent_cases remoteHost crc8 s event with hmap | ⟨hsubmitted, -⟩
    · rw [hmap, Option.map_eq_none_iff] at hnone
      rw [hnone]
      rfl
    · rw [hsubmitted]
      rfl
  · rw [htraffic]
    rcases agentEvent_cases remoteHost crc8 s event with
      hmap | ⟨hsubmitted, agentEvent', hsome', hhanded⟩
    · obtain ⟨⟨origin, now, bytes⟩, hsubmitted, rfl⟩ :=
        Option.map_eq_some_iff.mp (hmap.symm.trans hsome)
      rw [hsubmitted, Option.bind_some]
      exact handed_eq_forwardedBytes crc8 (h _ hsome)
    · obtain rfl := Option.some.inj (hsome'.symm.trans hsome)
      rw [hsubmitted, hhanded]
      rfl

/-- Of what is submitted, the datagrams of clients are those whose handlers are run. -/
theorem udpDatagram_submitted (s : UdpAgent Address) (event : UdpEvent Address) :
    (s.submitted remoteHost event).bind udpDatagram =
      (s.handled event).bind (clientDatagram remoteHost) := by
  cases event with
  | runs index now binding receiving =>
      simp only [UdpAgent.submitted, UdpAgent.handled]
      cases s.udp.ready[index]?.bind Handler.datagram with
      | none => rfl
      | some data =>
          simp only [Option.bind_some, Option.map_some, clientDatagram]
          split_ifs <;> rfl
  | _ => rfl

section Runs

variable (sender : Endpoint Address) (agent : Agent) (binding : Binding)
  (events : List (UdpEvent Address))

/-- The run of the agent within a run, with its traffic. -/
theorem agent_run :
    let start := UdpAgent.new localEndpoint sender agent binding
    let h := history (UdpAgent.step crc8 localEndpoint remoteHost) start events
    ∃ agentEvents,
      h.filterMap (UdpStep.agentStep remoteHost crc8) =
        history (Agent.step crc8) agent agentEvents ∧
      (final (UdpAgent.step crc8 localEndpoint remoteHost) start events).agent =
        final (Agent.step crc8) agent agentEvents ∧
      (history (Agent.step crc8) agent agentEvents).flatMap (fun q ↦ q.output.wired) =
        h.flatMap (fun r ↦ r.output.wired) ∧
      (history (Agent.step crc8) agent agentEvents).flatMap (fun q ↦ q.output.received) =
        h.flatMap (fun r ↦ r.output.received) := by
  intro start h
  obtain ⟨agentEvents, hhistory, hagent⟩ : ∃ agentEvents,
      h.filterMap (UdpStep.agentStep remoteHost crc8) =
        history (Agent.step crc8) agent agentEvents ∧
      (final (UdpAgent.step crc8 localEndpoint remoteHost) start events).agent =
        final (Agent.step crc8) agent agentEvents :=
    (isComponent_agent_udp remoteHost crc8 localEndpoint).history_eq start events
  refine ⟨agentEvents, hhistory, hagent, ?_, ?_⟩
  · rw [← hhistory]
    exact flatMap_component (f := AgentTraffic.wired)
      (fun s event ↦ (output_agentStep remoteHost crc8 localEndpoint s event).2.1) start events
  · rw [← hhistory]
    exact flatMap_component (f := AgentTraffic.received)
      (fun s event ↦ (output_agentStep remoteHost crc8 localEndpoint s event).2.2) start events

/-- The frame of each forwarded message has room when it is handed over. -/
def Fits (h : List (UdpStep Address)) : Prop :=
  ∀ r ∈ h, ∀ agentEvent ∈ r.before.agentEvent remoteHost r.input,
    r.before.agent.Accommodates crc8 agentEvent

variable
  (recvMessage : Vector UInt8 fortAgentBufferUnitSz → Nat → Vector UInt8 fortAgentBufferUnitSz)
  (buf : Vector UInt8 fortAgentBufferUnitSz)

/-- What a device reads of the line is what the tracker makes of what is submitted. -/
theorem decoded_submitted (hidle : agent.client.bridge.serialHandler.Idle)
    (hfits : Fits remoteHost crc8 (history (UdpAgent.step crc8 localEndpoint remoteHost)
      (UdpAgent.new localEndpoint sender agent binding) events)) :
    let start := UdpAgent.new localEndpoint sender agent binding
    let h := history (UdpAgent.step crc8 localEndpoint remoteHost) start events
    let after := final (UdpAgent.step crc8 localEndpoint remoteHost) start events
    let messages := (h.filterMap fun r ↦ r.before.submitted remoteHost r.input).filterMap
      (forwardedBytes crc8)
    let read := decoded recvMessage buf (h.flatMap fun r ↦ r.output.wired)
    read <+: messages ∧
      (after.agent.client.bridge.serialHandler.writeBuffer.size = 0 → read = messages) := by
  intro start h after messages read
  obtain ⟨agentEvents, hhistory, hagent, hwired, -⟩ :=
    agent_run remoteHost crc8 localEndpoint sender agent binding events
  have haccommodates : ∀ q ∈ history (Agent.step crc8) agent agentEvents,
      q.before.Accommodates crc8 q.input := by
    intro q hq
    obtain ⟨r, hr, hstep⟩ := List.mem_filterMap.mp (hhistory ▸ hq)
    obtain ⟨agentEvent, hevent, rfl⟩ := Option.map_eq_some_iff.mp hstep
    exact hfits r hr agentEvent hevent
  have hmessages : (history (Agent.step crc8) agent agentEvents).filterMap
      (fun q ↦ q.output.handed.map Prod.fst) = messages := by
    rw [← hhistory, List.filterMap_filterMap]
    refine (List.filterMap_congr fun r hr ↦ ?_).trans List.filterMap_filterMap.symm
    have haccommodated := hfits r hr
    obtain ⟨earlier, event, rfl⟩ := exists_record_of_mem_history hr
    rw [← handed_submitted remoteHost crc8 localEndpoint haccommodated]
    exact (output_agentStep remoteHost crc8 localEndpoint _ event).1
  have hread := decoded_handed crc8 recvMessage buf hidle agentEvents haccommodates
  dsimp only at hread
  rwa [hwired, hmessages, ← hagent] at hread

end Runs

/-! ## An exchange -/

/-- An agent on an idle serial port, whose socket could not be bound. -/
def unboundAgent : UdpAgent Unit :=
  UdpAgent.new ⟨(), 5683⟩ ⟨(), 0⟩ (Agent.start (Vector.replicate rxBufferSize 0)
    (Vector.replicate fortAgentBufferUnitSz 0) idleBridge) .fails

/-- The response to a request of the client at port 40000. -/
def trackedResponse : Message :=
  contentResponse.withToken (trackingToken crc8Poly07 40000) (by decide)

/-- The socket is bound, a client sends a request, and the device answers it. -/
def exchange : List (UdpEvent Unit) :=
  [.expires, .runs 0 0 (.binds .starts) .starts, .arrives ⟨(), 40000⟩ getRequest.bytes,
    .runs 0 0 .fails .starts, .written 12,
    .read (.data ⟨slip.frame trackedResponse.bytes, by decide +kernel, by decide +kernel⟩)]

theorem fits_exchange :
    Fits () crc8Poly07
      (history (UdpAgent.step crc8Poly07 ⟨(), 5683⟩ ()) unboundAgent exchange) := by
  intro r hr agentEvent hevent
  simp only [exchange, history_cons, history_nil, List.mem_cons, List.not_mem_nil, or_false] at hr
  rcases hr with rfl | rfl | rfl | rfl | rfl | rfl
  · cases hevent
  · cases hevent
  · cases hevent
  · obtain rfl := Option.some.inj hevent
    intro m hm
    obtain rfl : getRequest = m := Message.bytes_injective hm
    decide +kernel
  · obtain rfl := Option.some.inj hevent
    rw [Agent.Accommodates]
    decide +kernel
  · obtain rfl := Option.some.inj hevent
    trivial

end Clients

end FortAgent.Uart
