import FortAgent.Coap.UriPath
import FortAgent.Uart.Agent
import FortAgent.Uart.SrcPro

/-!
# From the state machine to the joystick

The service thread makes its requests one after the other, while it handles a call of the
state machine; the serial port, UDP clients and the sweeper of the tracker run beside it.
`JoystickLink` is the thread with its machine, together with the agent that carries the
requests.

Of all that is written to the port, a device at the other end reads the requests in the
order in which they were made (`joystick_reads_requests`).  So what the joystick displays
is what the machine wanted it to, and since no two phases of the machine have a screen in
common, the joystick tells its operator the phase of the machine
(`joystick_shows_phase`).
-/

namespace FortAgent.Jaus

open Transducer

/-! ## What the machine displays -/

/-- The texts displayed among some effects, in order. -/
def displays (effects : List Effect) : List (String × String) :=
  effects.filterMap fun
    | .displayTextOnJoystick text subtext => some (text, subtext)
    | _ => none

theorem displays_append (es fs : List Effect) : displays (es ++ fs) = displays es ++ displays fs :=
  List.filterMap_append

/-- The texts that are displayed in a phase. -/
def Phase.titles : Phase → List (String × String)
  | .initializeState => [("Searching", "Press 1"), ("No vehicle", "Try again")]
  | .controlState =>
    [("Control Vehicle", "Press 1 to enter Standby"), ("Requesting control", "..."),
      ("Requesting Control", "Retry...")]
  | .standbyState =>
    [("Vehicle on Standby", "Press 1 to Activate"), ("Requesting", "Active state..."),
      ("Requesting", "Active state Retry...")]
  | .readyState => [("Ready", "Joystick active")]
  | .emergencyState => [("EMERGENCY", "Vehicle disabled")]
  | .shutdownState => [("Shutdown", "Press 1 to restart")]

namespace VehicleStateMachine

/-- While a call is handled the texts of the phase are displayed, unless the phase is about
to be left: `Vehicle found` is only seen until the next state is entered. -/
theorem titles_of_mem_displays_dispatch (s : VehicleState) (t : Tick) :
    ∀ d ∈ displays (dispatch s t).2,
      d ∈ s.phase.titles ∨ ((dispatch s t).1.next t.now).isSome = true := by
  obtain ⟨now, client, call⟩ := t
  cases call with
  | handleInput msg =>
      cases s <;> simp only [dispatch, VehicleState.handleInput, VehicleState.through_snd,
        VehicleState.through_fst, InitializeState.handleInput, ControlState.handleInput,
        StandbyState.handleInput, ReadyState.handleInput, ShutdownState.handleInput]
      all_goals repeat' split
      all_goals simp_all [displays, Phase.titles, VehicleState.phase, VehicleState.next]
  | handleResponse =>
      cases s <;> simp only [dispatch, VehicleState.handleResponse, VehicleState.through_snd,
        ControlState.handleResponse, StandbyState.handleResponse]
      all_goals repeat' split
      all_goals simp [displays, Phase.titles, VehicleState.phase]
  | update =>
      cases s <;> simp only [dispatch, VehicleState.update, VehicleState.through_snd,
        ReadyState.update, ReadyState.checkHeartbeat]
      all_goals repeat' split
      all_goals simp [displays]

/-- A state displays one of its texts when it is entered. -/
theorem displays_enter (s : VehicleState) : ∃ d ∈ s.phase.titles, displays s.enter = [d] := by
  cases s <;> exact ⟨_, List.mem_cons_self, rfl⟩

/-- A call that displays something leaves one of the texts of the phase it ends in, and one
that displays nothing ends in the phase it has begun in. -/
theorem displays_step (s : VehicleState) (t : Tick) :
    displays (step s t).2 = [] ∧ (step s t).1.phase = s.phase ∨
      ∃ earlier, ∃ d ∈ (step s t).1.phase.titles, displays (step s t).2 = earlier ++ [d] := by
  have hhandled := titles_of_mem_displays_dispatch s t
  rw [step, displays_append, transitionIfNeeded]
  cases hnext : (dispatch s t).1.next t.now with
  | some next =>
      obtain ⟨d, hd, hdisplays⟩ := displays_enter next
      refine .inr ⟨displays (dispatch s t).2, d, hd, ?_⟩
      show _ ++ displays next.enter = _
      rw [hdisplays]
  | none =>
      show displays _ ++ displays [] = [] ∧ (dispatch s t).1.phase = s.phase ∨
        ∃ earlier, ∃ d ∈ (dispatch s t).1.phase.titles, displays _ ++ displays [] = earlier ++ [d]
      rw [phase_dispatch, show displays [] = [] from rfl, List.append_nil]
      rcases List.eq_nil_or_concat (displays (dispatch s t).2) with hnil | ⟨earlier, d, hconcat⟩
      · exact .inl ⟨hnil, rfl⟩
      · refine .inr ⟨earlier, d, ?_, by rw [hconcat, List.concat_eq_append]⟩
        refine (hhandled d ?_).resolve_right (by simp [hnext])
        rw [hconcat]
        simp

end VehicleStateMachine

end FortAgent.Jaus

namespace FortAgent.Uart

open Coap Serial Jaus Joystick Transducer
open CoapFormat (Packet)

/-! ## The link -/

/-- The service thread with its machine, and the agent. -/
structure JoystickLink where
  machine : VehicleState
  /-- The requests that are still to be made for the call that is handled. -/
  outstanding : List SrcCall
  agent : Agent

inductive JoystickEvent
  /-- The thread calls the machine, once it has made all requests of the last call. -/
  | call (tick : Tick)
  /-- The thread makes the next request. -/
  | send (now : SteadyTime)
  /-- Somebody else acts on the agent: a client, the sweeper, the serial port. -/
  | elsewhere (event : AgentEvent)

/-- What is seen of an event: the effects of a call of the machine, the request that is made,
and the bytes that are written to the port. -/
structure JoystickTraffic where
  effects : List Effect
  sent : Option SrcCall
  wired : List UInt8

abbrev JoystickStep := Step JoystickLink JoystickEvent JoystickTraffic

section Code

variable (crc8 : List UInt8 → UInt8) (lib : TinycborEncoder)

/-- `sendRequest`, as an event of the agent. -/
def SrcCall.event (now : SteadyTime) (call : SrcCall) : AgentEvent :=
  .datagram (.src (call.request lib).port) now ((call.request lib).build jsMid)

/-- The frame that a request takes on the line. -/
def SrcCall.frame (call : SrcCall) : List UInt8 :=
  slip.frame (((call.request lib).message jsMid).forwarded crc8 (call.request lib).port.value).bytes

namespace JoystickLink

def step (link : JoystickLink) : JoystickEvent → JoystickLink × JoystickTraffic
  | .call tick =>
    match link.outstanding with
    | [] =>
      let handled := VehicleStateMachine.step link.machine tick
      ({ link with machine := handled.1, outstanding := handled.2.flatMap srcCalls },
        ⟨handled.2, none, []⟩)
    | _ :: _ => (link, ⟨[], none, []⟩)
  | .send now =>
    match link.outstanding with
    | [] => (link, ⟨[], none, []⟩)
    | call :: rest =>
      let sent := link.agent.step crc8 (call.event lib now)
      ({ link with outstanding := rest, agent := sent.1 }, ⟨[], some call, sent.2.wired⟩)
  | .elsewhere event =>
    let acted := link.agent.step crc8 event
    ({ link with agent := acted.1 }, ⟨[], none, acted.2.wired⟩)

/-- The serial handler of the agent. -/
abbrev serialHandler (link : JoystickLink) : SerialHandler := link.agent.client.bridge.serialHandler

/-- The bridge when `startServiceLoop` is called. -/
def start (agent : Agent) : JoystickLink := ⟨VehicleStateMachine.start, startServiceLoop, agent⟩

/-- What keeps the line whole. -/
def Accommodates (link : JoystickLink) : JoystickEvent → Prop
  | .call _ => True
  | .send now => ∀ call ∈ link.outstanding.head?, link.agent.Accommodates crc8 (call.event lib now)
  | .elsewhere event => link.agent.Accommodates crc8 event

end JoystickLink

/-- The step of the agent within a step of the link. -/
def agentStep (r : JoystickStep) : Option AgentStep :=
  match r.input with
  | .call _ => none
  | .send now => r.before.outstanding.head?.map fun call ↦
    record (Agent.step crc8) r.before.agent (call.event lib now)
  | .elsewhere event => some (record (Agent.step crc8) r.before.agent event)

end Code

/-! ## The agent within the link -/

section Component

variable (crc8 : List UInt8 → UInt8) (lib : TinycborEncoder)

/-- **The agent is a component of the link.** -/
theorem isComponent_agent :
    IsComponent (JoystickLink.step crc8 lib) (Agent.step crc8) JoystickLink.agent
      (agentStep crc8 lib) := by
  intro link event
  simp only [agentStep, record_before, record_input]
  cases event with
  | call tick =>
      refine .inl ⟨rfl, ?_⟩
      rw [JoystickLink.step]
      cases link.outstanding <;> rfl
  | send now =>
      rw [JoystickLink.step]
      cases link.outstanding with
      | nil => exact .inl ⟨rfl, rfl⟩
      | cons call rest => exact .inr ⟨call.event lib now, rfl, rfl⟩
  | elsewhere event => exact .inr ⟨event, rfl, rfl⟩

/-- The link writes what its agent writes. -/
theorem wired_agentStep (link : JoystickLink) (event : JoystickEvent) :
    let r := record (JoystickLink.step crc8 lib) link event
    (agentStep crc8 lib r).toList.flatMap (fun q ↦ q.output.wired) = r.output.wired := by
  simp only [agentStep, record_before, record_input, record_output]
  cases event with
  | call tick =>
      rw [JoystickLink.step]
      cases link.outstanding <;> rfl
  | send now =>
      rw [JoystickLink.step]
      cases link.outstanding with
      | nil => rfl
      | cons call rest => exact List.append_nil _
  | elsewhere event => exact List.append_nil _

theorem accommodates_of_agentStep {link : JoystickLink} {event : JoystickEvent}
    (h : link.Accommodates crc8 lib event) {q : AgentStep}
    (hq : agentStep crc8 lib (record (JoystickLink.step crc8 lib) link event) = some q) :
    q.before.Accommodates crc8 q.input := by
  simp only [agentStep, record_before, record_input] at hq
  cases event with
  | call tick => cases hq
  | send now =>
      obtain ⟨call, hcall, rfl⟩ := Option.map_eq_some_iff.mp hq
      exact h call hcall
  | elsewhere event =>
      obtain rfl := Option.some.inj hq
      exact h

end Component

/-! ## What the joystick reads -/

section Reads

variable {α : Type*} (crc8 : List UInt8 → UInt8) (lib : TinycborEncoder) (sel : Packet → Option α)

/-- What is selected of a message. -/
def selects (message : List UInt8) : Option α := (CoapFormat.decode message).bind sel

/-- What is selected of a request that is made. -/
def SrcCall.selects (call : SrcCall) : Option α := sel ((call.request lib).packet crc8 jsMid)

/-- Nothing that others send is selected. -/
def Foreign : JoystickEvent → Prop
  | .elsewhere (.datagram origin _ bytes) => ∀ m : Message, origin.received bytes = m.bytes →
      selects sel (m.forwarded crc8 origin.port).bytes = none
  | _ => True

/-- A request is handed to the serial handler, as a message that is read as it was meant. -/
theorem handed_send {agent : Agent} {now : SteadyTime} {call : SrcCall}
    (h : agent.Accommodates crc8 (call.event lib now)) :
    ∃ taken message, (agent.step crc8 (call.event lib now)).2.handed = some (message, taken) ∧
      selects sel message = call.selects crc8 lib sel := by
  obtain ⟨taken, htaken⟩ := (handed_iff crc8 h _).mpr ⟨_, now, _,
    (call.request lib).message jsMid, rfl, (call.request lib).build_eq jsMid, rfl⟩
  refine ⟨taken, _, htaken, ?_⟩
  show (CoapFormat.decode (((call.request lib).message jsMid).forwarded crc8
    (call.request lib).port.value).bytes).bind sel = _
  rw [(call.request lib).decode_forwarded crc8 jsMid]
  rfl

/-- What is selected of what is handed over at an event is what is selected of the request
that is made. -/
theorem selects_handed {link : JoystickLink} {event : JoystickEvent}
    (h : link.Accommodates crc8 lib event) (hforeign : Foreign crc8 sel event) :
    let r := record (JoystickLink.step crc8 lib) link event
    ((agentStep crc8 lib r).bind fun q ↦ q.output.handed.map Prod.fst).bind (selects sel) =
      r.output.sent.bind (SrcCall.selects crc8 lib sel) := by
  simp only [agentStep, record_before, record_input, record_output]
  cases event with
  | call tick =>
      rw [JoystickLink.step]
      cases link.outstanding <;> rfl
  | send now =>
      rw [JoystickLink.step]
      cases houtstanding : link.outstanding with
      | nil => rfl
      | cons call rest =>
          have hfits : link.agent.Accommodates crc8 (call.event lib now) := by
            refine h call ?_
            rw [houtstanding]
            rfl
          obtain ⟨taken, message, hhanded, hselects⟩ := handed_send crc8 lib sel hfits
          show ((link.agent.step crc8 (call.event lib now)).2.handed.map Prod.fst).bind
            (selects sel) = _
          rw [hhanded]
          exact hselects
  | elsewhere event =>
      show ((link.agent.step crc8 event).2.handed.map Prod.fst).bind (selects sel) = none
      cases hhanded : (link.agent.step crc8 event).2.handed with
      | none => rfl
      | some handed =>
          obtain ⟨origin, now, bytes, m, rfl, hm, hmessage⟩ :=
            (handed_iff crc8 h handed.1).mp ⟨handed.2, hhanded⟩
          show selects sel handed.1 = none
          rw [hmessage]
          exact hforeign m hm

/-- Nobody but the thread and the port acts, and the frames of the requests fit. -/
def JoystickLink.Alone (link : JoystickLink) : JoystickEvent → Prop
  | .call _ => True
  | .send _ => ∀ call ∈ link.outstanding.head?,
      (call.frame crc8 lib).length ≤ link.serialHandler.writeBuffer.reserve
  | .elsewhere (.written bytesTransferred) => link.serialHandler.Admits (.written bytesTransferred)
  | .elsewhere .failed => link.serialHandler.Admits .failed
  | .elsewhere _ => False

instance (link : JoystickLink) : (event : JoystickEvent) → Decidable (link.Alone crc8 lib event)
  | .call _ => inferInstanceAs (Decidable True)
  | .send _ => inferInstanceAs (Decidable (∀ call ∈ link.outstanding.head?, _))
  | .elsewhere (.written bytesTransferred) =>
    inferInstanceAs (Decidable (link.serialHandler.Admits (.written bytesTransferred)))
  | .elsewhere .failed => inferInstanceAs (Decidable (link.serialHandler.Admits .failed))
  | .elsewhere (.datagram ..) => inferInstanceAs (Decidable False)
  | .elsewhere (.foreign ..) => inferInstanceAs (Decidable False)
  | .elsewhere (.removeOldMids _) => inferInstanceAs (Decidable False)
  | .elsewhere (.read _) => inferInstanceAs (Decidable False)

/-- A request fits if its frame does. -/
theorem accommodates_event_iff {agent : Agent} {now : SteadyTime} {call : SrcCall} :
    agent.Accommodates crc8 (call.event lib now) ↔
      (call.frame crc8 lib).length ≤ agent.client.bridge.serialHandler.writeBuffer.reserve := by
  have hbytes := (call.request lib).build_eq jsMid
  refine ⟨fun h ↦ h _ hbytes, fun h m hm ↦ ?_⟩
  obtain rfl : (call.request lib).message jsMid = m :=
    Message.bytes_injective (hbytes.symm.trans hm)
  exact h

theorem JoystickLink.Alone.accommodates {link : JoystickLink} {event : JoystickEvent}
    (h : link.Alone crc8 lib event) :
    link.Accommodates crc8 lib event ∧ Foreign crc8 sel event := by
  cases event with
  | call tick => exact ⟨trivial, trivial⟩
  | send now =>
      exact ⟨fun call hcall ↦ (accommodates_event_iff crc8 lib).mpr (h call hcall), trivial⟩
  | elsewhere event =>
      cases event with
      | written bytesTransferred => exact ⟨h, trivial⟩
      | failed => exact ⟨h, trivial⟩
      | _ => exact h.elim

/-- The requests made in a run. -/
def sentCalls (h : List JoystickStep) : List SrcCall := h.filterMap fun r ↦ r.output.sent

/-- The effects of the machine in a run. -/
def effects (h : List JoystickStep) : List Effect := h.flatMap fun r ↦ r.output.effects

/-- Each request that an effect of the machine leads to is made once, in order, and those
that are missing are outstanding. -/
theorem sentCalls_run (agent : Agent) (events : List JoystickEvent) :
    sentCalls (history (JoystickLink.step crc8 lib) (.start agent) events) ++
        (final (JoystickLink.step crc8 lib) (.start agent) events).outstanding =
      startServiceLoop ++
        (effects (history (JoystickLink.step crc8 lib) (.start agent) events)).flatMap
          srcCalls := by
  refine history_invariant' (JoystickLink.step crc8 lib)
    (I := fun h link ↦ sentCalls h ++ link.outstanding =
      startServiceLoop ++ (effects h).flatMap srcCalls) (by simp [sentCalls, effects,
        JoystickLink.start]) (fun h link event hI ↦ ?_) events
  simp only [sentCalls, effects, List.filterMap_append, List.flatMap_append, List.filterMap_cons,
    List.flatMap_cons, List.filterMap_nil, List.flatMap_nil, List.append_nil, record_output]
    at hI ⊢
  rw [← List.append_assoc startServiceLoop, ← hI]
  cases event with
  | call tick =>
      rw [JoystickLink.step]
      cases houtstanding : link.outstanding with
      | nil => simp
      | cons call rest => simp [houtstanding]
  | send now =>
      rw [JoystickLink.step]
      cases houtstanding : link.outstanding with
      | nil => simp [houtstanding]
      | cons call rest => simp
  | elsewhere event => simp [JoystickLink.step]

variable (recvMessage : Vector UInt8 fortAgentBufferUnitSz → Nat →
    Vector UInt8 fortAgentBufferUnitSz)
  (buf : Vector UInt8 fortAgentBufferUnitSz)

/-- What is selected of what a device reads of the line. -/
def reads (h : List JoystickStep) : List α :=
  (decoded recvMessage buf (h.flatMap fun r ↦ r.output.wired)).filterMap (selects sel)

/-- What is read of the requests made, from an idle port. -/
theorem reads_sentCalls {link : JoystickLink}
    (hidle : link.serialHandler.Idle) (events : List JoystickEvent)
    (hrun : ∀ r ∈ history (JoystickLink.step crc8 lib) link events,
      r.before.Accommodates crc8 lib r.input ∧ Foreign crc8 sel r.input) :
    let h := history (JoystickLink.step crc8 lib) link events
    let after := final (JoystickLink.step crc8 lib) link events
    reads sel recvMessage buf h <+: (sentCalls h).filterMap (SrcCall.selects crc8 lib sel) ∧
      (after.serialHandler.writeBuffer.size = 0 →
        reads sel recvMessage buf h =
          (sentCalls h).filterMap (SrcCall.selects crc8 lib sel)) := by
  intro h after
  obtain ⟨agentEvents, hagent, hfinal⟩ := (isComponent_agent crc8 lib).history_eq link events
  have hrecord (r : JoystickStep) (hr : r ∈ h) :
      ∃ link event, r = record (JoystickLink.step crc8 lib) link event := by
    obtain ⟨earlier, event, rfl⟩ := exists_record_of_mem_history hr
    exact ⟨_, event, rfl⟩
  have hfits : ∀ q ∈ history (Agent.step crc8) link.agent agentEvents,
      q.before.Accommodates crc8 q.input := by
    rw [← hagent]
    intro q hq
    obtain ⟨r, hr, hstep⟩ := List.mem_filterMap.mp hq
    obtain ⟨link, event, rfl⟩ := hrecord r hr
    exact accommodates_of_agentStep crc8 lib (hrun _ hr).1 hstep
  have hwired : (h.filterMap (agentStep crc8 lib)).flatMap (fun q ↦ q.output.wired) =
      h.flatMap fun r ↦ r.output.wired := by
    exact flatMap_component (f := JoystickTraffic.wired) (wired_agentStep crc8 lib) link events
  have hhanded : ((h.filterMap (agentStep crc8 lib)).filterMap fun q ↦
        q.output.handed.map Prod.fst).filterMap (selects sel) =
      (sentCalls h).filterMap (SrcCall.selects crc8 lib sel) := by
    rw [sentCalls, List.filterMap_filterMap, List.filterMap_filterMap, List.filterMap_filterMap]
    refine List.filterMap_congr fun r hr ↦ ?_
    obtain ⟨link, event, rfl⟩ := hrecord r hr
    exact (Option.bind_assoc _ _ _).symm.trans
      (selects_handed crc8 lib sel (hrun _ hr).1 (hrun _ hr).2)
  obtain ⟨hfirst, hall⟩ := decoded_handed crc8 recvMessage buf hidle agentEvents hfits
  rw [← hagent, hwired] at hfirst hall
  rw [← hhanded]
  refine ⟨hfirst.filterMap _, fun hempty ↦ ?_⟩
  exact congrArg (List.filterMap (selects sel)) (hall (hfinal ▸ hempty))

end Reads

/-- A bridge that has just been started, on an idle port. -/
def started : JoystickLink :=
  .start (Agent.start (Vector.replicate rxBufferSize 0) (Vector.replicate fortAgentBufferUnitSz 0)
    idleBridge)

theorem idle_idleBridge : idleBridge.serialHandler.Idle := ⟨rfl, rfl, rfl, rfl⟩

/-- The seven requests of the start are made, and the port writes them. -/
def startup : List JoystickEvent :=
  List.replicate 7 (.send 0) ++ [.elsewhere (.written 33), .elsewhere (.written 222)]

theorem alone_startup :
    ∀ r ∈ history (JoystickLink.step crc8Poly07 referenceEncoder) started startup,
      r.before.Alone crc8Poly07 referenceEncoder r.input := by
  decide +kernel

theorem outstanding_startup :
    (final (JoystickLink.step crc8Poly07 referenceEncoder) started startup).outstanding = [] :=
  List.eq_nil_of_length_eq_zero (by decide +kernel)

theorem size_startup :
    (final (JoystickLink.step crc8Poly07 referenceEncoder) started
      startup).serialHandler.writeBuffer.size = 0 := by
  decide +kernel

section Shows

/-- What is posted to the display. -/
def displayed (packet : Packet) : Option (List UInt8) :=
  if packet.code = Method.post.value ∧ pathOf packet.options = URIs.displayText.segments then
    packet.payload
  else none

/-- The payload for two texts. -/
def screen (d : String × String) : List UInt8 :=
  (CborCall.twoLines18 (ascii d.1) (ascii d.2) true).encoding

/-- A screen tells its phase. -/
theorem phase_of_screen {p q : Phase} {d e : String × String} (hd : d ∈ p.titles)
    (he : e ∈ q.titles) (h : screen d = screen e) : p = q := by
  have hall : ∀ d ∈ p.titles, ∀ e ∈ q.titles, screen d = screen e → p = q := by
    cases p <;> cases q <;> decide +kernel
  exact hall d hd e he h

variable {crc8 : List UInt8 → UInt8} {lib : TinycborEncoder}

/-- What is posted elsewhere is not displayed. -/
theorem selects_displayed_of_ne {call : SrcCall}
    (h : (call.request lib).uri.segments ≠ URIs.displayText.segments) :
    call.selects crc8 lib displayed = none := by
  refine if_neg fun hdisplay ↦ h ?_
  rw [← hdisplay.2]
  exact (pathOf_requestedOptions ..).symm

/-- Two texts are posted to the display as they are encoded. -/
theorem selects_displayTextRawLines (docs : lib.Documented) (text subtext : String) :
    (SrcCall.postDisplayTextRawLines (ascii text) (ascii subtext) true).selects crc8 lib displayed =
      some (screen (text, subtext)) := by
  have hwhole := (CborHelper.whole_iff docs ((CborCall.twoLines18 (ascii text) (ascii subtext)
    true).asked docs)).mpr ((CborCall.length_encoding_le_iff _).mpr trivial)
  have hbytes : (cborEncodeTwoLines18 lib (ascii text) (ascii subtext) true).bytes =
      screen (text, subtext) := hwhole.returned
  have hne : screen (text, subtext) ≠ [] := by
    rw [← List.length_pos_iff]
    simp [screen, CborCall.encoding, Cbor.length_shortString, Cbor.headLength]
  have hpath : pathOf ((SrcCall.postDisplayTextRawLines (ascii text) (ascii subtext)
      true).request lib).options = URIs.displayText.segments := pathOf_requestedOptions ..
  rw [SrcCall.selects, displayed, if_pos ⟨rfl, hpath⟩]
  show requestedPayload .post (cborEncodeTwoLines18 lib (ascii text) (ascii subtext) true).bytes = _
  rw [hbytes]
  exact if_pos ⟨rfl, hne⟩

/-- An effect of the machine posts what it displays. -/
theorem selects_srcCalls (docs : lib.Documented) (e : Effect) :
    (srcCalls e).filterMap (SrcCall.selects crc8 lib displayed) =
      (displays [e]).map screen := by
  have hsettings : URIs.userSettings.segments ≠ URIs.displayText.segments := by decide
  cases e with
  | displayTextOnJoystick text subtext =>
      have hmode : (SrcCall.postDisplayMode 1).selects crc8 lib displayed = none :=
        selects_displayed_of_ne hsettings
      rw [srcCalls, displayTextOnJoystick, List.filterMap_cons_none hmode,
        List.filterMap_cons_some (selects_displayTextRawLines docs text subtext)]
      rfl
  | vibrateJoystick leftMotor rightMotor =>
      have hboth : SrcCall.postVibrateBoth.selects crc8 lib displayed = none :=
        selects_displayed_of_ne hsettings
      have hleft : SrcCall.postVibrateLeft.selects crc8 lib displayed = none :=
        selects_displayed_of_ne hsettings
      have hright : SrcCall.postVibrateRight.selects crc8 lib displayed = none :=
        selects_displayed_of_ne hsettings
      cases leftMotor <;> cases rightMotor <;>
        simp [srcCalls, vibrateJoystick, displays, hboth, hleft, hright]
  | client call => rfl
  | entered phase => rfl

/-- The screens that the requests of a run post are those of the machine. -/
theorem selects_wanted (docs : lib.Documented) (es : List Effect) :
    (startServiceLoop ++ es.flatMap srcCalls).filterMap (SrcCall.selects crc8 lib displayed) =
      (displays (VehicleStateMachine.startEffects ++ es)).map screen := by
  have heffects (es : List Effect) :
      (es.flatMap srcCalls).filterMap (SrcCall.selects crc8 lib displayed) =
        (displays es).map screen := by
    induction es with
    | nil => rfl
    | cons e es ih =>
        rw [List.flatMap_cons, List.filterMap_append, ih, selects_srcCalls docs e,
          ← List.map_append, ← displays_append, List.singleton_append]
  -- the five requests of the start ask for other things
  have hother : ∀ call ∈ [SrcCall.getSerialNumber false 0, .getModelNumber false 0,
      unsubscribe .combinedJoystickKeypad, subscribe .combinedJoystickKeypad, .postVibrateBoth],
      call.selects crc8 lib displayed = none := by
    have hserial : URIs.serialNumber.segments ≠ URIs.displayText.segments := by decide
    have hmodel : URIs.modelNumber.segments ≠ URIs.displayText.segments := by decide
    have hcombined : URIs.combinedJoystickKeypad.segments ≠ URIs.displayText.segments := by decide
    have hsettings : URIs.userSettings.segments ≠ URIs.displayText.segments := by decide
    simp only [List.mem_cons, List.not_mem_nil, or_false]
    rintro call (rfl | rfl | rfl | rfl | rfl)
    · exact selects_displayed_of_ne hserial
    · exact selects_displayed_of_ne hmodel
    · exact selects_displayed_of_ne hcombined
    · exact selects_displayed_of_ne hcombined
    · exact selects_displayed_of_ne hsettings
  rw [startServiceLoop, List.append_assoc, List.filterMap_append,
    List.filterMap_eq_nil_iff.mpr hother, List.nil_append, ← List.flatMap_append, heffects]

/-- The machine is left alone, or called. -/
theorem JoystickLink.machine_step (crc8 : List UInt8 → UInt8) (lib : TinycborEncoder)
    (link : JoystickLink) (event : JoystickEvent) :
    (link.step crc8 lib event).1.machine = link.machine ∧
        (link.step crc8 lib event).2.effects = [] ∨
      ∃ tick,
        (link.step crc8 lib event).1.machine = (VehicleStateMachine.step link.machine tick).1 ∧
        (link.step crc8 lib event).2.effects = (VehicleStateMachine.step link.machine tick).2 := by
  cases event with
  | call tick =>
      rw [step]
      cases link.outstanding with
      | nil => exact .inr ⟨tick, rfl, rfl⟩
      | cons call rest => exact .inl ⟨rfl, rfl⟩
  | send now =>
      rw [step]
      cases link.outstanding with
      | nil => exact .inl ⟨rfl, rfl⟩
      | cons call rest => exact .inl ⟨rfl, rfl⟩
  | elsewhere event => exact .inl ⟨rfl, rfl⟩

/-- The last texts displayed are texts of the phase. -/
theorem displays_run (crc8 : List UInt8 → UInt8) (lib : TinycborEncoder) (agent : Agent)
    (events : List JoystickEvent) :
    let h := history (JoystickLink.step crc8 lib) (.start agent) events
    let after := final (JoystickLink.step crc8 lib) (.start agent) events
    ∃ earlier, ∃ d ∈ after.machine.phase.titles,
      displays (VehicleStateMachine.startEffects ++ effects h) = earlier ++ [d] := by
  refine history_invariant' (JoystickLink.step crc8 lib)
    (I := fun h link ↦ ∃ earlier, ∃ d ∈ link.machine.phase.titles,
      displays (VehicleStateMachine.startEffects ++ effects h) = earlier ++ [d])
    ⟨[], _, List.mem_cons_self, rfl⟩ (fun h link event ⟨earlier, d, hd, hI⟩ ↦ ?_) events
  have heffects : displays (VehicleStateMachine.startEffects ++
      effects (h ++ [record (JoystickLink.step crc8 lib) link event])) =
        earlier ++ [d] ++ displays (link.step crc8 lib event).2.effects := by
    rw [← hI, ← displays_append, effects, List.flatMap_append, List.append_assoc]
    simp [effects]
  rw [heffects]
  rcases link.machine_step crc8 lib event with ⟨hmachine, hnone⟩ | ⟨tick, hmachine, hsome⟩
  · exact ⟨earlier, d, hmachine ▸ hd, by rw [hnone]; exact List.append_nil _⟩
  · rw [hmachine, hsome]
    rcases VehicleStateMachine.displays_step link.machine tick with
      ⟨hnone, hphase⟩ | ⟨earlier', d', hd', hdisplays⟩
    · exact ⟨earlier, d, hphase ▸ hd, by rw [hnone, List.append_nil]⟩
    · exact ⟨earlier ++ [d] ++ earlier', d', hd', by rw [hdisplays, List.append_assoc _ earlier']⟩

/-- The last screen that the joystick has read is one of this phase, and of no other. -/
def ShowsPhase (shown : List (List UInt8)) (phase : Phase) : Prop :=
  ∃ last, shown.getLast? = some last ∧
    ∀ other : Phase, (∃ d ∈ other.titles, screen d = last) ↔ other = phase

variable (docs : lib.Documented)
  (recvMessage : Vector UInt8 fortAgentBufferUnitSz → Nat → Vector UInt8 fortAgentBufferUnitSz)
  (buf : Vector UInt8 fortAgentBufferUnitSz)

include docs

/-- The screens that are wanted are those of the requests made and of those outstanding. -/
theorem screens_run (crc8 : List UInt8 → UInt8) (agent : Agent) (events : List JoystickEvent) :
    (displays (VehicleStateMachine.startEffects ++
        effects (history (JoystickLink.step crc8 lib) (.start agent) events))).map screen =
      (sentCalls (history (JoystickLink.step crc8 lib) (.start agent) events)).filterMap
          (SrcCall.selects crc8 lib displayed) ++
        (final (JoystickLink.step crc8 lib) (.start agent) events).outstanding.filterMap
          (SrcCall.selects crc8 lib displayed) := by
  rw [← selects_wanted docs, ← sentCalls_run crc8 lib, List.filterMap_append]

/-- When everything has been made and written, the phase of the machine is shown. -/
theorem showsPhase_of_written {agent : Agent} (hidle : agent.client.bridge.serialHandler.Idle)
    (events : List JoystickEvent)
    (hrun : ∀ r ∈ history (JoystickLink.step crc8 lib) (.start agent) events,
      r.before.Accommodates crc8 lib r.input ∧ Foreign crc8 displayed r.input) :
    let h := history (JoystickLink.step crc8 lib) (.start agent) events
    let after := final (JoystickLink.step crc8 lib) (.start agent) events
    after.outstanding = [] → after.serialHandler.writeBuffer.size = 0 →
      ShowsPhase (reads displayed recvMessage buf h) after.machine.phase := by
  intro h after hnone hempty
  have hstart : (JoystickLink.start agent).serialHandler.Idle := hidle
  obtain ⟨-, hall⟩ := reads_sentCalls crc8 lib displayed recvMessage buf hstart events hrun
  obtain ⟨earlier, d, hd, hdisplays⟩ := displays_run crc8 lib agent events
  have hwanted := screens_run docs crc8 agent events
  have hshown : reads displayed recvMessage buf h = earlier.map screen ++ [screen d] := by
    rw [hnone, List.filterMap_nil, List.append_nil, hdisplays, List.map_append] at hwanted
    exact (hall hempty).trans hwanted.symm
  refine ⟨screen d, by rw [hshown]; exact List.getLast?_concat, fun other ↦ ⟨?_, ?_⟩⟩
  · rintro ⟨e, he, hscreen⟩
    exact phase_of_screen he hd hscreen
  · rintro rfl
    exact ⟨d, hd, rfl⟩

end Shows

end FortAgent.Uart
