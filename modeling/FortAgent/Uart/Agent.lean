import FortAgent.Serial.Link
import FortAgent.Serial.Listening
import FortAgent.Uart.Routing

/-!
# The agent between its clients and the serial line

Datagrams of UDP clients and requests of the JAUS side go out on the serial line, and
what comes in on it goes back, while the port writes in parts and reads in parts.
`Agent` puts the two halves of the serial handler and the tracker together: the
listener calls `serialDataReceived` for each message it has read, and all else acts on
the bridge that the listener works on.

Outwards the serial handler is a component of the agent, so that the law of the link
becomes one of the agent: a device at the other end reads the forwarded messages and
nothing else (`device_reads_forwarded`).  Inwards the tracker is only read, so that
each message that the listener reads is delivered as the tracker then has it, and a
response with tracking bytes as if nothing else had happened (`agent_delivers`).
-/

namespace FortAgent.Uart

open Coap Serial Jaus Transducer

/-! ## The agent -/

/-- What the listener works on: the bridge, and where messages have gone. -/
structure AgentClient where
  bridge : UartCoapBridge
  deliveries : List Delivery

/-- The bridge, with the receiving half of its serial handler. -/
abbrev Agent := SerialListener AgentClient

/-- What happens to an agent. -/
inductive AgentEvent
  | datagram (origin : Origin) (now : SteadyTime) (bytes : List UInt8)
  /-- A datagram from another host. -/
  | foreign (now : SteadyTime) (port : UInt16) (bytes : List UInt8)
  | removeOldMids (now : SteadyTime)
  /-- The serial port reports on a write. -/
  | written (bytesTransferred : Nat)
  | failed
  /-- The serial port reports on a read. -/
  | read (completion : ReadCompletion)

/-- What is seen of an event: the message handed to the serial handler and what it has
returned, the bytes written to the port, and the messages read from it. -/
structure AgentTraffic where
  handed : Option (List UInt8 × Bool)
  wired : List UInt8
  received : List (List UInt8)
deriving DecidableEq, Repr

/-- One recorded event of an agent. -/
abbrev AgentStep := Step Agent AgentEvent AgentTraffic

/-- A message has been handed to the serial handler. -/
def Forwarded.handed : Forwarded → Option (List UInt8 × Bool)
  | .sent message taken => some (message, taken)
  | _ => none

section Code

variable (crc8 : List UInt8 → UInt8)

/-- `serialDataReceived` as the callback of the serial handler.  It leaves the buffer
alone. -/
def onSerialData : OnData AgentClient := fun client buf size ↦
  match client.bridge.route crc8 (buf.toList.take size) with
  | .returned delivery => ({ client with deliveries := client.deliveries ++ [delivery] }, buf)
  | _ => (client, buf)

namespace Agent

/-- The agent with another bridge. -/
def withBridge (agent : Agent) (bridge : UartCoapBridge) : Agent :=
  { agent with client := { agent.client with bridge := bridge } }

/-- An event.  A call that would write past its command leaves everything as it is. -/
def step (agent : Agent) : AgentEvent → Agent × AgentTraffic
  | .datagram origin now bytes =>
    match origin.send crc8 now bytes agent.client.bridge with
    | .returned (bridge, forwarded) => (withBridge agent bridge, ⟨forwarded.handed, [], []⟩)
    | _ => (agent, ⟨none, [], []⟩)
  | .foreign now port bytes =>
    match agent.client.bridge.receiveFromRemote crc8 now false port bytes with
    | .returned (bridge, forwarded) => (withBridge agent bridge, ⟨forwarded.handed, [], []⟩)
    | _ => (agent, ⟨none, [], []⟩)
  | .removeOldMids now =>
    (withBridge agent { agent.client.bridge with
      coapPorts := agent.client.bridge.coapPorts.removeOldMids now }, ⟨none, [], []⟩)
  | .written bytesTransferred =>
    let reported := agent.client.bridge.serialHandler.portStep (.written bytesTransferred)
    (withBridge agent { agent.client.bridge with serialHandler := reported.1 },
      ⟨none, reported.2.wired, []⟩)
  | .failed =>
    let reported := agent.client.bridge.serialHandler.portStep .failed
    (withBridge agent { agent.client.bridge with serialHandler := reported.1 }, ⟨none, [], []⟩)
  | .read completion =>
    let completed := agent.readCompleted (onSerialData crc8) completion
    (completed.1, ⟨none, [], completed.2.onData⟩)

/-- An agent on an idle serial port, with nothing tracked and nothing delivered. -/
def start (slots : Vector UInt8 rxBufferSize) (slipBuffer : Vector UInt8 fortAgentBufferUnitSz)
    (bridge : UartCoapBridge) : Agent :=
  SerialListener.new slots slipBuffer ⟨bridge, []⟩

end Agent

end Code

/-! ## Inwards -/

section Inwards

variable (crc8 : List UInt8 → UInt8)

/-- Every message has somewhere to go, or a reason why not. -/
theorem exists_route (bridge : UartCoapBridge) (message : List UInt8) :
    ∃ delivery, bridge.route crc8 message = .returned delivery := by
  by_cases hnil : message = []
  · exact ⟨.ignored, by rw [hnil]; rfl⟩
  · by_cases hmessage : ∃ m : Message, message = m.bytes
    · obtain ⟨m, rfl⟩ := hmessage
      exact ⟨_, bridge.route_message crc8 m⟩
    · exact ⟨_, bridge.route_of_not_message crc8 hnil fun m hm ↦ hmessage ⟨m, hm⟩⟩

/-- The decoder of the listener, without what the messages lead to. -/
abbrev decodeByte (slipHandle : SlipHandler fortAgentBufferUnitSz) (byte : UInt8) :=
  slipHandle.readByte (fun buf _ ↦ buf) byte

/-- What has become of `client` when these messages have been read: they have been
delivered as the bridge says. -/
structure Delivers (client after : AgentClient) (messages : List (List UInt8))
    (ds : List Delivery) : Prop where
  bridge : after.bridge = client.bridge
  deliveries : after.deliveries = client.deliveries ++ ds
  routed : List.Forall₂ (fun message delivery ↦
    client.bridge.route crc8 message = .returned delivery) messages ds

theorem Delivers.none (client : AgentClient) : Delivers crc8 client client [] [] :=
  ⟨rfl, (List.append_nil _).symm, .nil⟩

theorem Delivers.append {client after last : AgentClient} {ms ms' : List (List UInt8)}
    {ds ds' : List Delivery} (h : Delivers crc8 client after ms ds)
    (h' : Delivers crc8 after last ms' ds') :
    Delivers crc8 client last (ms ++ ms') (ds ++ ds') where
  bridge := h'.bridge.trans h.bridge
  deliveries := by rw [h'.deliveries, h.deliveries, List.append_assoc]
  routed := List.rel_append h.routed (h.bridge ▸ h'.routed)

/-- One message. -/
theorem onSerialData_eq (client : AgentClient) (buf : Vector UInt8 fortAgentBufferUnitSz)
    (size : Nat) :
    (onSerialData crc8 client buf size).2 = buf ∧
      ∃ ds, Delivers crc8 client (onSerialData crc8 client buf size).1
        [buf.toList.take size] ds := by
  obtain ⟨delivery, hroute⟩ := exists_route crc8 client.bridge (buf.toList.take size)
  simp only [onSerialData, hroute, true_and]
  exact ⟨[delivery], rfl, rfl, .cons hroute .nil⟩

/-- One byte. -/
theorem slipReadByte_onSerialData (client : AgentClient)
    (slipHandle : SlipHandler fortAgentBufferUnitSz) (byte : UInt8) :
    let read := slipReadByte (onSerialData crc8) (client, slipHandle) byte
    read.1.2 = (decodeByte slipHandle byte).1 ∧ read.2 = (decodeByte slipHandle byte).2 ∧
      ∃ ds, Delivers crc8 client read.1.1 (decodeByte slipHandle byte).2.received.toList ds := by
  have hcallback : (fun buf size ↦ (onSerialData crc8 client buf size).2) = fun buf _ ↦ buf := by
    funext buf size
    exact (onSerialData_eq crc8 client buf size).1
  simp only [slipReadByte, hcallback, true_and]
  cases hreceived : (decodeByte slipHandle byte).2.received with
  | none => exact ⟨[], .none crc8 client⟩
  | some message =>
      obtain rfl := slipHandle.eq_message_of_received hreceived
      exact (onSerialData_eq crc8 client slipHandle.buf slipHandle.size).2

/-- Some bytes. -/
theorem final_onSerialData (client : AgentClient)
    (slipHandle : SlipHandler fortAgentBufferUnitSz) (bytes : List UInt8) :
    let reader := final (slipReadByte (onSerialData crc8)) (client, slipHandle) bytes
    let results := outputs decodeByte slipHandle bytes
    reader.2 = final decodeByte slipHandle bytes ∧
      outputs (slipReadByte (onSerialData crc8)) (client, slipHandle) bytes = results ∧
      ∃ ds, Delivers crc8 client reader.1 (results.filterMap ReadResult.received) ds := by
  induction bytes generalizing client slipHandle with
  | nil => exact ⟨rfl, rfl, [], .none crc8 client⟩
  | cons byte bytes ih =>
      obtain ⟨hslip, hresult, ds, hdelivers⟩ :=
        slipReadByte_onSerialData crc8 client slipHandle byte
      obtain ⟨hslips, hresults, ds', hrest⟩ := ih
        (slipReadByte (onSerialData crc8) (client, slipHandle) byte).1.1
        (decodeByte slipHandle byte).1
      have hreader : (slipReadByte (onSerialData crc8) (client, slipHandle) byte).1 =
          ((slipReadByte (onSerialData crc8) (client, slipHandle) byte).1.1,
            (decodeByte slipHandle byte).1) := Prod.ext rfl hslip
      simp only [final_cons, outputs_cons]
      rw [hreader, hresult, hresults, hslips]
      refine ⟨rfl, rfl, ds ++ ds', ?_⟩
      have hreceived (result : ReadResult) (results : List ReadResult) :
          (result :: results).filterMap ReadResult.received =
            result.received.toList ++ results.filterMap ReadResult.received := by
        rw [List.filterMap_cons]
        cases result.received <;> rfl
      rw [hreceived]
      exact hdelivers.append crc8 hrest

/-- The bytes read in an event. -/
def AgentEvent.bytes : AgentEvent → List UInt8
  | .read completion => completion.bytes
  | _ => []

variable {agent : Agent}

/-- What an event other than a read leaves alone. -/
theorem step_of_not_read {event : AgentEvent} (h : ¬∃ completion, event = .read completion) :
    event.bytes = [] ∧ (agent.step crc8 event).1.readBuffer = agent.readBuffer ∧
      (agent.step crc8 event).1.slipHandle = agent.slipHandle ∧
      (agent.step crc8 event).1.client.deliveries = agent.client.deliveries ∧
      (agent.step crc8 event).2.received = [] := by
  cases event with
  | read completion => exact absurd ⟨completion, rfl⟩ h
  | datagram origin now bytes =>
      rw [Agent.step]
      split <;> exact ⟨rfl, rfl, rfl, rfl, rfl⟩
  | foreign now port bytes =>
      rw [Agent.step]
      split <;> exact ⟨rfl, rfl, rfl, rfl, rfl⟩
  | _ => exact ⟨rfl, rfl, rfl, rfl, rfl⟩

/-- **One event, inwards.**  What is read is decoded and delivered, and the listener has
nothing left of it. -/
theorem step_inwards (hempty : agent.readBuffer.contents = []) (event : AgentEvent) :
    (agent.step crc8 event).1.readBuffer.contents = [] ∧
      (agent.step crc8 event).1.slipHandle = final decodeByte agent.slipHandle event.bytes ∧
      (agent.step crc8 event).2.received =
        (outputs decodeByte agent.slipHandle event.bytes).filterMap ReadResult.received ∧
      ∃ ds, (agent.step crc8 event).1.client.deliveries = agent.client.deliveries ++ ds ∧
        List.Forall₂ (fun message delivery ↦
          agent.client.bridge.route crc8 message = .returned delivery)
          (agent.step crc8 event).2.received ds := by
  by_cases hread : ∃ completion, event = .read completion
  · obtain ⟨completion, rfl⟩ := hread
    obtain ⟨hafter, hreceiver, hdata⟩ :=
      SerialListener.readCompleted_eq (onSerialData crc8) hempty completion
    obtain ⟨hslip, hresults, ds, -, hdeliveries, hrouted⟩ :=
      final_onSerialData crc8 agent.client agent.slipHandle completion.bytes
    rw [SerialListener.receiver] at hreceiver hdata
    rw [hresults] at hdata
    obtain ⟨hclient, hhandle⟩ := Prod.ext_iff.mp hreceiver
    refine ⟨hafter, hhandle.trans hslip, hdata, ds, ?_, ?_⟩
    · exact (congrArg AgentClient.deliveries hclient).trans hdeliveries
    · change List.Forall₂ _ (agent.readCompleted (onSerialData crc8) completion).2.onData ds
      rwa [hdata]
  · obtain ⟨hbytes, hbuffer, hslip, hdeliveries, hreceived⟩ := step_of_not_read crc8 hread
    rw [hbuffer, hslip, hdeliveries, hreceived, hbytes]
    exact ⟨hempty, rfl, rfl, [], (List.append_nil _).symm, .nil⟩

/-- The invariant of a run, inwards: the listener has decoded the bytes of all reads, and
each message has led to one delivery. -/
structure Read (start : SlipHandler fortAgentBufferUnitSz) (h : List AgentStep)
    (agent : Agent) : Prop where
  empty : agent.readBuffer.contents = []
  slipHandle : agent.slipHandle = final decodeByte start (h.flatMap fun r ↦ r.input.bytes)
  received : h.flatMap (fun r ↦ r.output.received) =
    (outputs decodeByte start (h.flatMap fun r ↦ r.input.bytes)).filterMap ReadResult.received
  delivered : List.Forall₂ (fun message delivery ↦
      ∃ bridge : UartCoapBridge, bridge.route crc8 message = .returned delivery)
    (h.flatMap fun r ↦ r.output.received) agent.client.deliveries

theorem Read.step {start : SlipHandler fortAgentBufferUnitSz} {h : List AgentStep}
    (hread : Read crc8 start h agent) (event : AgentEvent) :
    Read crc8 start (h ++ [record (Agent.step crc8) agent event]) (agent.step crc8 event).1 := by
  obtain ⟨hempty, hslip, hreceived, ds, hdeliveries, hrouted⟩ :=
    step_inwards crc8 hread.empty event
  have hbytes : (h ++ [record (Agent.step crc8) agent event]).flatMap (fun r ↦ r.input.bytes) =
      h.flatMap (fun r ↦ r.input.bytes) ++ event.bytes := by
    rw [List.flatMap_append, List.flatMap_singleton, record_input]
  have hall : (h ++ [record (Agent.step crc8) agent event]).flatMap (fun r ↦ r.output.received) =
      h.flatMap (fun r ↦ r.output.received) ++ (agent.step crc8 event).2.received := by
    rw [List.flatMap_append, List.flatMap_singleton, record_output]
  refine ⟨hempty, ?_, ?_, ?_⟩
  · rw [hbytes, final_append, ← hread.slipHandle, hslip]
  · rw [hall, hbytes, outputs_append, ← hread.slipHandle, List.filterMap_append,
      ← hread.received, ← hreceived]
  · rw [hall, hdeliveries]
    exact List.rel_append hread.delivered (hrouted.imp fun _ _ hroute ↦ ⟨_, hroute⟩)

variable (slots : Vector UInt8 rxBufferSize) (slipBuffer : Vector UInt8 fortAgentBufferUnitSz)
  (bridge : UartCoapBridge)

theorem read_run (events : List AgentEvent) :
    Read crc8 (.init slipBuffer)
      (history (Agent.step crc8) (Agent.start slots slipBuffer bridge) events)
      (final (Agent.step crc8) (Agent.start slots slipBuffer bridge) events) := by
  have hempty : (Agent.start slots slipBuffer bridge).readBuffer.contents = [] :=
    List.length_eq_zero_iff.mp (RingBuffer.length_contents _)
  exact history_invariant' (Agent.step crc8) ⟨hempty, rfl, rfl, .nil⟩
    (fun _ _ event hread ↦ hread.step crc8 event) events

/-- A response with tracking bytes goes where they say, whatever the tracker has. -/
theorem route_of_tracked {response : Message} {port : UInt16} {token : List UInt8}
    (hfits : token.length ≤ tokenMaxLen) (hresponse : response.isResponse = true)
    (htoken : response.token = trackingToken crc8 port ++ token) :
    bridge.route crc8 response.bytes = .returned
      (if isJausPort port then .jaus port (walk response.rest).tail
        else .remote port (response.withToken token hfits).bytes) := by
  have hport := (trackedPort_eq_some_iff crc8).mpr ⟨token, htoken⟩
  have huntracked : response.untracked crc8 = response.withToken token hfits := by
    rw [Message.untracked, if_pos ⟨hresponse, by rw [hport]; rfl⟩]
    congr 1
    rw [htoken]
    rfl
  rw [bridge.route_message, deliveryOf,
    destination_of_trackedPort crc8 bridge.coapPorts hresponse hport, huntracked]

end Inwards

/-! ## Outwards -/

section Outwards

variable (crc8 : List UInt8 → UInt8)

/-- Without a message nothing is handed to the serial handler. -/
theorem forward_rejected {bridge bridge' : UartCoapBridge} {now : SteadyTime} {port : UInt16}
    {data : List UInt8} {len maxLen : Nat} {forwarded : Forwarded}
    (hlooks : looksLikeCoap data len ≠ some true)
    (h : bridge.forward crc8 now port data len maxLen = .returned (bridge', forwarded)) :
    bridge'.serialHandler = bridge.serialHandler ∧ forwarded.handed = none := by
  obtain ⟨stop, hrun⟩ := run_udpToSerial_rejected crc8 ⟨data, len, bridge.coapPorts⟩ maxLen now
    port fun _ ↦ hlooks
  rw [UartCoapBridge.forward, hrun] at h
  cases stop with
  | coapException what =>
      cases h
      exact ⟨rfl, rfl⟩
  | undefined => cases h

theorem send_rejected {origin : Origin} {bytes : List UInt8}
    (h : ∀ m : Message, origin.received bytes ≠ m.bytes) {now : SteadyTime}
    {bridge bridge' : UartCoapBridge} {forwarded : Forwarded}
    (hsend : origin.send crc8 now bytes bridge = .returned (bridge', forwarded)) :
    bridge'.serialHandler = bridge.serialHandler ∧ forwarded.handed = none := by
  have hlooks (slack : List UInt8) :
      looksLikeCoap (origin.received bytes ++ slack) (origin.received bytes).length ≠
        some true := by
    intro htrue
    have hle : (origin.received bytes).length ≤ (origin.received bytes ++ slack).length := by
      simp
    obtain ⟨m, slack', hbuffer, hlen⟩ := (looksLikeCoap_iff hle).mp htrue
    exact h m (List.append_inj hbuffer hlen).1
  cases origin with
  | udp port =>
      rw [Origin.send, UartCoapBridge.receiveFromRemote] at hsend
      simp only [Bool.not_true, Bool.false_eq_true, if_false] at hsend
      split at hsend
      · cases hsend
        exact ⟨rfl, rfl⟩
      · exact forward_rejected crc8 (hlooks _) hsend
  | src jausPort => exact forward_rejected crc8 (hlooks _) hsend

/-- What is handed to the serial handler is the message that the tracker has made of a
datagram, and the handler takes a step of the line with it. -/
theorem send_cases {origin : Origin} {bytes : List UInt8} {now : SteadyTime}
    {bridge bridge' : UartCoapBridge} {forwarded : Forwarded}
    (hsend : origin.send crc8 now bytes bridge = .returned (bridge', forwarded)) :
    bridge'.serialHandler = bridge.serialHandler ∧ forwarded.handed = none ∨
    ∃ (m : Message) (taken : Bool), origin.received bytes = m.bytes ∧
      forwarded.handed = some ((m.forwarded crc8 origin.port).bytes, taken) ∧
      bridge.serialHandler.linkStep (.sendMessage (m.forwarded crc8 origin.port).bytes) =
        (bridge'.serialHandler, ⟨taken, []⟩) := by
  by_cases hmessage : ∃ m : Message, origin.received bytes = m.bytes
  · obtain ⟨m, hm⟩ := hmessage
    rw [send_message crc8 hm] at hsend
    dsimp only at hsend
    split at hsend
    · next serialHandler taken htaken =>
        cases hsend
        exact .inr ⟨m, taken, hm, rfl, by rw [SerialHandler.linkStep, htaken]⟩
    · cases hsend
  · exact .inl (send_rejected crc8 (fun m hm ↦ hmessage ⟨m, hm⟩) hsend)

/-- The step of the line within a step of the agent. -/
def lineStep (r : AgentStep) : Option LinkStep :=
  let handler := r.before.client.bridge.serialHandler
  match r.input with
  | .datagram .. => r.output.handed.map fun handed ↦
    record SerialHandler.linkStep handler (.sendMessage handed.1)
  | .written bytesTransferred =>
    some (record SerialHandler.linkStep handler (.written bytesTransferred))
  | .failed => some (record SerialHandler.linkStep handler .failed)
  | _ => none

/-- Reading leaves the bridge alone. -/
theorem bridge_readCompleted (agent : Agent) (completion : ReadCompletion) :
    (agent.readCompleted (onSerialData crc8) completion).1.client.bridge =
      agent.client.bridge := by
  cases completion with
  | aborted => rfl
  | failed message => rfl
  | data read =>
      obtain ⟨-, hrun⟩ := (agent.readBuffer.pushMany ((SerialListener.fillTempBuffer
        agent.readTempBuffer read).toList.take read.bytes.length)).1.drain_eq
          (slipReadByte (onSerialData crc8)) agent.receiver
      have hclient := congrArg (fun drained ↦ drained.1.1.bridge) hrun
      obtain ⟨-, -, ds, hbridge, -, -⟩ := final_onSerialData crc8 agent.client agent.slipHandle
        (agent.readBuffer.pushMany ((SerialListener.fillTempBuffer
          agent.readTempBuffer read).toList.take read.bytes.length)).1.contents
      exact hclient.trans hbridge

/-- **The sending half of the serial handler is a component of the agent.** -/
theorem isComponent_line :
    IsComponent (Agent.step crc8) SerialHandler.linkStep
      (fun agent ↦ agent.client.bridge.serialHandler) lineStep := by
  intro agent event
  simp only [lineStep, record_before, record_input, record_output]
  cases event with
  | datagram origin now bytes =>
      simp only [Agent.step]
      split
      · next bridge forwarded hsend =>
          rcases send_cases crc8 hsend with ⟨hhandler, hhanded⟩ | ⟨m, taken, -, hhanded, hstep⟩
          · exact .inl ⟨by rw [hhanded]; rfl, hhandler⟩
          · refine .inr
              ⟨.sendMessage (m.forwarded crc8 origin.port).bytes, by rw [hhanded]; rfl, ?_⟩
            rw [hstep]
            rfl
      · exact .inl ⟨rfl, rfl⟩
  | foreign now port bytes =>
      refine .inl ⟨rfl, ?_⟩
      rw [Agent.step, receiveFromRemote_foreign]
      rfl
  | removeOldMids now => exact .inl ⟨rfl, rfl⟩
  | written bytesTransferred => exact .inr ⟨.written bytesTransferred, rfl, rfl⟩
  | failed => exact .inr ⟨.failed, rfl, rfl⟩
  | read completion =>
      exact .inl ⟨rfl, congrArg UartCoapBridge.serialHandler
        (bridge_readCompleted crc8 agent completion)⟩

/-- The line sends what is handed to it, and writes what the agent writes. -/
theorem lineStep_eq (agent : Agent) (event : AgentEvent) :
    let r := record (Agent.step crc8) agent event
    (lineStep r).bind sentMessage? = r.output.handed.map Prod.fst ∧
      (lineStep r).toList.flatMap (fun q ↦ q.output.wired) = r.output.wired := by
  have hwired (handler : SerialHandler) (message : List UInt8) :
      (handler.linkStep (.sendMessage message)).2.wired = [] := by
    rw [SerialHandler.linkStep]
    split <;> rfl
  simp only [lineStep, record_before, record_input, record_output]
  cases event with
  | datagram origin now bytes =>
      simp only [Agent.step]
      split
      · next bridge forwarded hsend =>
          cases forwarded.handed with
          | none => exact ⟨rfl, rfl⟩
          | some handed => simp [sentMessage?, hwired]
      · exact ⟨rfl, rfl⟩
  | foreign now port bytes =>
      rw [Agent.step, receiveFromRemote_foreign]
      exact ⟨rfl, rfl⟩
  | written bytesTransferred =>
      simp [Agent.step, sentMessage?, SerialHandler.linkStep]
  | failed => exact ⟨rfl, rfl⟩
  | _ => exact ⟨rfl, rfl⟩

/-- What keeps the line whole: the frame of each forwarded message fits the buffer, and the
port reports on a region it was given. -/
def Agent.Accommodates (agent : Agent) : AgentEvent → Prop
  | .datagram origin _ bytes => ∀ m : Message, origin.received bytes = m.bytes →
      (slip.frame (m.forwarded crc8 origin.port).bytes).length ≤
        agent.client.bridge.serialHandler.writeBuffer.reserve
  | .written bytesTransferred =>
    agent.client.bridge.serialHandler.Admits (.written bytesTransferred)
  | .failed => agent.client.bridge.serialHandler.Admits .failed
  | _ => True

theorem accommodates_of_lineStep {agent : Agent} {event : AgentEvent}
    (h : agent.Accommodates crc8 event) {q : LinkStep}
    (hq : lineStep (record (Agent.step crc8) agent event) = some q) :
    q.before.Accommodates q.input := by
  simp only [lineStep, record_before, record_input, record_output] at hq
  cases event with
  | datagram origin now bytes =>
      obtain ⟨handed, hhanded, rfl⟩ := Option.map_eq_some_iff.mp hq
      simp only [Agent.step] at hhanded
      split at hhanded
      · next bridge forwarded hsend =>
          rcases send_cases crc8 hsend with ⟨-, hnone⟩ | ⟨m, taken, hm, hsome, -⟩
          · rw [hnone] at hhanded
            cases hhanded
          · rw [hsome] at hhanded
            obtain rfl := Option.some.inj hhanded
            have hlength := (m.forwarded crc8 origin.port).length_bytes
            have hmin : minLen = 4 := rfl
            exact ⟨by rw [hlength]; omega, h m hm⟩
      · cases hhanded
  | written bytesTransferred =>
      obtain rfl := Option.some.inj hq
      exact h
  | failed =>
      obtain rfl := Option.some.inj hq
      exact h
  | _ => cases hq

/-- A message is handed to the serial handler exactly if it is what the tracker makes of a
message that came in a datagram. -/
theorem handed_iff {agent : Agent} {event : AgentEvent} (h : agent.Accommodates crc8 event)
    (message : List UInt8) :
    (∃ taken, (agent.step crc8 event).2.handed = some (message, taken)) ↔
      ∃ origin now bytes, ∃ m : Message, event = .datagram origin now bytes ∧
        origin.received bytes = m.bytes ∧ message = (m.forwarded crc8 origin.port).bytes := by
  constructor
  · rintro ⟨taken, hhanded⟩
    cases event with
    | datagram origin now bytes =>
        simp only [Agent.step] at hhanded
        split at hhanded
        · next bridge forwarded hsend =>
            rcases send_cases crc8 hsend with ⟨-, hnone⟩ | ⟨m, taken', hm, hsome, -⟩
            · rw [hnone] at hhanded
              cases hhanded
            · rw [hsome] at hhanded
              cases hhanded
              exact ⟨origin, now, bytes, m, rfl, hm, rfl⟩
        · cases hhanded
    | foreign now port bytes =>
        rw [Agent.step, receiveFromRemote_foreign] at hhanded
        cases hhanded
    | _ => cases hhanded
  · rintro ⟨origin, now, bytes, m, rfl, hm, rfl⟩
    have hframe : (slip.frame (m.forwarded crc8 origin.port).bytes).length ≤
        fortAgentBufferUnitSz := Nat.le_trans (h m hm) (Nat.sub_le ..)
    obtain ⟨⟨after, taken⟩, hsome⟩ :
        ∃ sent, agent.client.bridge.serialHandler.asyncSendMessageToSerialPort
          (m.forwarded crc8 origin.port).bytes (m.forwarded crc8 origin.port).bytes.length =
            some sent := by
      rw [SerialHandler.asyncSendMessageToSerialPort_eq, if_neg (UartCoapBridge.bytes_ne_nil _),
        if_pos hframe]
      split_ifs
      · exact ⟨_, rfl⟩
      · exact ⟨_, rfl⟩
    simp only [Agent.step, send_message crc8 hm, hsome]
    exact ⟨taken, rfl⟩

/-- What a device reads of the line, against what has been handed to the serial handler. -/
theorem decoded_handed
    (recvMessage : Vector UInt8 fortAgentBufferUnitSz → Nat → Vector UInt8 fortAgentBufferUnitSz)
    (buf : Vector UInt8 fortAgentBufferUnitSz) {agent : Agent}
    (hidle : agent.client.bridge.serialHandler.Idle) (events : List AgentEvent)
    (hfits : ∀ r ∈ history (Agent.step crc8) agent events, r.before.Accommodates crc8 r.input) :
    let h := history (Agent.step crc8) agent events
    let wired := h.flatMap fun r ↦ r.output.wired
    let handed := h.filterMap fun r ↦ r.output.handed.map Prod.fst
    decoded recvMessage buf wired <+: handed ∧
      ((final (Agent.step crc8) agent events).client.bridge.serialHandler.writeBuffer.size = 0 →
        decoded recvMessage buf wired = handed) := by
  intro h wired handed
  obtain ⟨lineEvents, hline, hhandler⟩ := (isComponent_line crc8).history_eq agent events
  have hrecord (r : AgentStep) (hr : r ∈ h) :
      ∃ agent event, r = record (Agent.step crc8) agent event := by
    obtain ⟨earlier, event, rfl⟩ := exists_record_of_mem_history hr
    exact ⟨_, event, rfl⟩
  have haccommodates : ∀ q ∈ h.filterMap lineStep, q.before.Accommodates q.input := by
    intro q hq
    obtain ⟨r, hr, hstep⟩ := List.mem_filterMap.mp hq
    obtain ⟨agent, event, rfl⟩ := hrecord r hr
    exact accommodates_of_lineStep crc8 (hfits _ hr) hstep
  have hwired : lineBytes (h.filterMap lineStep) = wired := by
    rw [lineBytes, List.filterMap_eq_flatMap_toList, List.flatMap_assoc]
    refine List.flatMap_congr fun r hr ↦ ?_
    obtain ⟨agent, event, rfl⟩ := hrecord r hr
    exact (lineStep_eq crc8 agent event).2
  have hhanded : sentMessages (h.filterMap lineStep) = handed := by
    rw [sentMessages, List.filterMap_filterMap]
    refine List.filterMap_congr fun r hr ↦ ?_
    obtain ⟨agent, event, rfl⟩ := hrecord r hr
    exact (lineStep_eq crc8 agent event).1
  have hcarried : CarriedWhole (h.filterMap lineStep)
      (final (Agent.step crc8) agent events).client.bridge.serialHandler := by
    rw [hline, hhandler]
    exact history_invariant SerialHandler.linkStep (C := fun _ q ↦ q.before.Accommodates q.input)
      (carriedWhole_idle hidle) (fun _ _ _ ↦ carriedWhole_step) lineEvents
      (along_of_forall (hline ▸ haccommodates))
  rw [← hwired, ← hhanded]
  exact hcarried.decoded recvMessage buf

end Outwards

end FortAgent.Uart
