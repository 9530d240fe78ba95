import FortAgent.Uart.JoystickLink

/-!
# Catching up with the machine

What the joystick shows lags behind the machine, by the requests that are outstanding and
the bytes in the write buffer.  The thread and the port get rid of both, unless the
transmit path is stuck: a write has failed, which nobody tries again until the next
message is taken, and the next request, if there is one, does not fit beside the bytes
that have been left behind (`joystick_catches_up`).
-/

namespace FortAgent.Uart

open Coap Serial Jaus Joystick Transducer

/-! ## The sizes of the requests -/

section Sizes

variable (crc8 : List UInt8 → UInt8) {lib : TinycborEncoder}

/-- A payload takes its own length, and a byte in front of it. -/
theorem SrcRequest.length_build_le (mid : UInt16) (r : SrcRequest) :
    (r.build mid).length ≤ (buildMessage .con r.method mid r.uri.segments r.uri.queries [] []
      r.format r.observe r.observeValue).length + 1 + r.payload.length := by
  simp only [build, buildMessage]
  split
  · rw [if_neg fun h ↦ h.2 rfl, List.length_append, List.length_append]
    exact Nat.le_refl _
  · rw [if_neg fun h ↦ h.2 rfl]
    omega

/-- The frame of a short request fits an empty buffer. -/
theorem SrcCall.length_frame_le {call : SrcCall}
    (hoptions : (buildMessage .con (call.request lib).method jsMid
      (call.request lib).uri.segments (call.request lib).uri.queries [] []
      (call.request lib).format (call.request lib).observe
      (call.request lib).observeValue).length ≤ 64)
    (hpayload : (call.request lib).payload.length ≤ 64) :
    (call.frame crc8 lib).length ≤ fortAgentBufferUnitSz := by
  have hbuild := (call.request lib).length_build_le jsMid
  have hforwarded := ((call.request lib).message jsMid).length_forwarded_le crc8
    (call.request lib).port.value
  rw [← SrcRequest.build_eq] at hforwarded
  have hframe := slip.length_frame (((call.request lib).message jsMid).forwarded crc8
    (call.request lib).port.value).bytes
  have hescape := slip.length_escape_le (((call.request lib).message jsMid).forwarded crc8
    (call.request lib).port.value).bytes
  have hunit : fortAgentBufferUnitSz = 512 := rfl
  rw [frame, hframe, hunit]
  omega

/-- What a helper returns is no longer than the buffer it allocates. -/
theorem length_bytes_le (docs : lib.Documented) (call : CborCall) (hfits : call.Fits) :
    (call.helper lib).bytes.length ≤ (call.helper lib).size := by
  have hwhole := (CborHelper.whole_iff docs (call.asked docs)).mpr
    (call.length_encoding_le_iff.mpr hfits)
  rw [hwhole.returned]
  exact hwhole.fits

/-- The requests of the thread fit an empty buffer. -/
theorem length_frame_of_mem (docs : lib.Documented) (es : List Effect) :
    ∀ call ∈ startServiceLoop ++ es.flatMap srcCalls,
      (call.frame crc8 lib).length ≤ fortAgentBufferUnitSz := by
  have hsettings (key : UserSettingKey) (value : UInt32) :
      (encodeUserSettings lib key value).bytes.length ≤ 64 :=
    Nat.le_trans (length_bytes_le docs (.userSettings key value) trivial)
      (show 32 ≤ 64 by decide)
  have hlines (l0 l1 : List UInt8) (upperHalf : Bool) :
      (cborEncodeTwoLines18 lib l0 l1 upperHalf).bytes.length ≤ 64 := by
    have hle := length_bytes_le docs (.twoLines18 l0 l1 upperHalf) trivial
    have hlength : (twoLines18 l0 l1 upperHalf).length ≤ 37 := by
      simp only [twoLines18, List.length_append, List.length_take, List.length_singleton]
      omega
    have hsize : ((CborCall.twoLines18 l0 l1 upperHalf).helper lib).size =
        (twoLines18 l0 l1 upperHalf).length + 16 := rfl
    exact Nat.le_trans hle (by omega)
  have hpost : (buildMessage .con .post jsMid URIs.userSettings.segments [] [] []
      .applicationCbor false 0).length ≤ 64 := by decide
  have htext : (buildMessage .con .post jsMid URIs.displayText.segments [] [] []
      .applicationCbor false 0).length ≤ 64 := by decide
  have heffect (e : Effect) : ∀ call ∈ srcCalls e,
      (call.frame crc8 lib).length ≤ fortAgentBufferUnitSz := by
    cases e with
    | displayTextOnJoystick text subtext =>
        refine List.forall_mem_cons.mpr ⟨?_, List.forall_mem_singleton.mpr ?_⟩
        · exact SrcCall.length_frame_le crc8 hpost (hsettings .displayMode _)
        · exact SrcCall.length_frame_le crc8 htext (hlines _ _ true)
    | vibrateJoystick leftMotor rightMotor =>
        have hboth : (SrcCall.postVibrateBoth.frame crc8 lib).length ≤ fortAgentBufferUnitSz :=
          SrcCall.length_frame_le crc8 hpost (hsettings .vibrateBoth 1)
        have hleft : (SrcCall.postVibrateLeft.frame crc8 lib).length ≤ fortAgentBufferUnitSz :=
          SrcCall.length_frame_le crc8 hpost (hsettings .vibrateLeft 1)
        have hright : (SrcCall.postVibrateRight.frame crc8 lib).length ≤ fortAgentBufferUnitSz :=
          SrcCall.length_frame_le crc8 hpost (hsettings .vibrateRight 1)
        cases leftMotor <;> cases rightMotor <;>
          simp [srcCalls, vibrateJoystick, hboth, hleft, hright]
    | client call => simp [srcCalls]
    | entered phase => simp [srcCalls]
  have hserial : (buildMessage .con .get jsMid URIs.serialNumber.segments [] [] [] .textPlain
      false 0).length ≤ 64 := by decide
  have hmodel : (buildMessage .con .get jsMid URIs.modelNumber.segments [] [] [] .textPlain
      false 0).length ≤ 64 := by decide
  have hunsubscribe : (buildMessage .con .get jsMid URIs.combinedJoystickKeypad.segments [] [] []
      .applicationOctetStream true 1).length ≤ 64 := by decide
  have hsubscribe : (buildMessage .con .get jsMid URIs.combinedJoystickKeypad.segments [] [] []
      .applicationOctetStream true 0).length ≤ 64 := by decide
  rw [startServiceLoop, List.append_assoc, ← List.flatMap_append]
  refine List.forall_mem_append.mpr ⟨?_, fun call hcall ↦ ?_⟩
  · simp only [List.mem_cons, List.not_mem_nil, or_false]
    rintro call (rfl | rfl | rfl | rfl | rfl)
    · exact SrcCall.length_frame_le crc8 hserial (Nat.zero_le _)
    · exact SrcCall.length_frame_le crc8 hmodel (Nat.zero_le _)
    · exact SrcCall.length_frame_le crc8 hunsubscribe (Nat.zero_le _)
    · exact SrcCall.length_frame_le crc8 hsubscribe (Nat.zero_le _)
    · exact SrcCall.length_frame_le crc8 hpost (hsettings .vibrateBoth 1)
  · obtain ⟨e, -, hcall⟩ := List.mem_flatMap.mp hcall
    exact heffect e call hcall

end Sizes

/-! ## The transmit path -/

/-- The thread makes a request, or the port reports that it has written something. -/
def JoystickEvent.IsTransmission : JoystickEvent → Prop
  | .send _ => True
  | .elsewhere (.written _) => True
  | _ => False

section Transmission

variable (crc8 : List UInt8 → UInt8) (lib : TinycborEncoder)

theorem JoystickEvent.IsTransmission.foreign {α : Type*} (sel : CoapFormat.Packet → Option α)
    {event : JoystickEvent} (h : event.IsTransmission) : Foreign crc8 sel event := by
  cases event with
  | elsewhere event =>
      cases event with
      | datagram origin now bytes => exact h.elim
      | _ => exact trivial
  | _ => exact trivial

/-- A transmission that keeps the line whole. -/
def Transmits (link : JoystickLink) (event : JoystickEvent) : Prop :=
  event.IsTransmission ∧ link.Accommodates crc8 lib event

/-- The port has nothing to write, though the buffer is not empty, and the next request does
not fit. -/
def JoystickLink.Stuck (link : JoystickLink) : Prop :=
  ¬link.serialHandler.Moving ∧ ∀ call ∈ link.outstanding.head?,
    link.serialHandler.writeBuffer.reserve < (call.frame crc8 lib).length

/-- All requests have been made, and the buffer is empty. -/
def JoystickLink.CaughtUp (link : JoystickLink) : Prop :=
  link.outstanding = [] ∧ link.serialHandler.writeBuffer.size = 0

theorem consistent_agent_step {agent : Agent} (h : agent.client.bridge.serialHandler.Consistent)
    {event : AgentEvent} (hfits : agent.Accommodates crc8 event) :
    (agent.step crc8 event).1.client.bridge.serialHandler.Consistent := by
  rcases isComponent_line crc8 agent event with ⟨-, hsame⟩ | ⟨lineEvent, hline, hnext⟩
  · have hhandler : (agent.step crc8 event).1.client.bridge.serialHandler =
        agent.client.bridge.serialHandler := hsame
    exact hhandler ▸ h
  · have hhandler : (agent.step crc8 event).1.client.bridge.serialHandler =
        (agent.client.bridge.serialHandler.linkStep lineEvent).1 := hnext
    have hadmits := SerialHandler.linkAdmits_of_accommodates h.operational
      (accommodates_of_lineStep crc8 hfits hline)
    exact hhandler ▸ (h.linkStep hadmits).1

/-- What keeps the line whole keeps the serial handler consistent. -/
theorem consistent_step {link : JoystickLink} (h : link.serialHandler.Consistent)
    {event : JoystickEvent} (hfits : link.Accommodates crc8 lib event) :
    (link.step crc8 lib event).1.serialHandler.Consistent := by
  rcases isComponent_agent crc8 lib link event with ⟨-, hsame⟩ | ⟨agentEvent, hagent, hnext⟩
  · have hhandler : (link.step crc8 lib event).1.serialHandler = link.serialHandler :=
      congrArg (fun agent ↦ agent.client.bridge.serialHandler) hsame
    exact hhandler ▸ h
  · have hhandler : (link.step crc8 lib event).1.serialHandler =
        (link.agent.step crc8 agentEvent).1.client.bridge.serialHandler :=
      congrArg (fun agent ↦ agent.client.bridge.serialHandler) hnext
    exact hhandler ▸ consistent_agent_step crc8 h
      (accommodates_of_agentStep crc8 lib hfits hagent)

/-- A request that fits goes into the write buffer. -/
theorem serialHandler_event {agent : Agent}
    (hstate : agent.client.bridge.serialHandler.state = .operational) {now : SteadyTime}
    {call : SrcCall} (hfits : agent.Accommodates crc8 (call.event lib now)) :
    (agent.step crc8 (call.event lib now)).1.client.bridge.serialHandler =
      (agent.client.bridge.serialHandler.asyncSendDataToSerialPort (call.frame crc8 lib)).1 := by
  obtain ⟨taken, hhanded⟩ := (handed_iff crc8 hfits _).mpr ⟨_, now, _,
    (call.request lib).message jsMid, rfl, (call.request lib).build_eq jsMid, rfl⟩
  have hline : lineStep (record (Agent.step crc8) agent (call.event lib now)) = some
      (record SerialHandler.linkStep agent.client.bridge.serialHandler (.sendMessage
        (((call.request lib).message jsMid).forwarded crc8 (call.request lib).port.value).bytes)) :=
    congrArg (Option.map fun handed : List UInt8 × Bool ↦ record SerialHandler.linkStep
      agent.client.bridge.serialHandler (.sendMessage handed.1)) hhanded
  rcases isComponent_line crc8 agent (call.event lib now) with ⟨hnone, -⟩ | ⟨event, hsome, hnext⟩
  · rw [hline] at hnone
    cases hnone
  · rw [hline] at hsome
    obtain rfl := congrArg Step.input (Option.some.inj hsome)
    have hstep := SerialHandler.linkStep_of_fits hstate (UartCoapBridge.bytes_ne_nil _)
      ((accommodates_event_iff crc8 lib).mp hfits)
    exact hnext.trans (congrArg Prod.fst hstep)

/-- The invariant of catching up with a machine that is left alone. -/
structure CatchingUp (machine : VehicleState) (link : JoystickLink) : Prop where
  machine : link.machine = machine
  consistent : link.serialHandler.Consistent
  not_stuck : ¬link.Stuck crc8 lib
  short : ∀ call ∈ link.outstanding, (call.frame crc8 lib).length ≤ fortAgentBufferUnitSz

/-- The requests that are to be made, and then the bytes that are to be written. -/
def backlog (link : JoystickLink) : ℕ :=
  link.outstanding.length * (fortAgentBufferUnitSz + 1) + link.serialHandler.writeBuffer.size

/-- The thread makes a request that fits. -/
theorem CatchingUp.send {machine : VehicleState} {link : JoystickLink} {call : SrcCall}
    {rest : List SrcCall} (h : CatchingUp crc8 lib machine link)
    (houtstanding : link.outstanding = call :: rest)
    (hfits : (call.frame crc8 lib).length ≤ link.serialHandler.writeBuffer.reserve) :
    Transmits crc8 lib link (.send 0) ∧
      CatchingUp crc8 lib machine (link.step crc8 lib (.send 0)).1 ∧
      backlog (link.step crc8 lib (.send 0)).1 < backlog link := by
  have hevent : link.agent.Accommodates crc8 (call.event lib 0) :=
    (accommodates_event_iff crc8 lib).mpr hfits
  have haccommodates : link.Accommodates crc8 lib (.send 0) := by
    intro call' hcall
    rw [houtstanding] at hcall
    obtain rfl := Option.some.inj hcall
    exact hevent
  have hstep : (link.step crc8 lib (.send 0)).1 =
      { link with outstanding := rest, agent := (link.agent.step crc8 (call.event lib 0)).1 } := by
    rw [JoystickLink.step, houtstanding]
  have hmoving : (link.agent.step crc8 (call.event lib 0)).1.client.bridge.serialHandler.Moving :=
    serialHandler_event crc8 lib h.consistent.operational hevent ▸
      SerialHandler.moving_asyncSendData h.consistent (call.frame crc8 lib)
  refine ⟨⟨trivial, haccommodates⟩, ⟨?_, consistent_step crc8 lib h.consistent haccommodates, ?_,
    ?_⟩, ?_⟩
  · rw [hstep]
    exact h.machine
  · rw [hstep]
    exact fun hstuck ↦ hstuck.1 hmoving
  · rw [hstep]
    exact fun call' hcall ↦ h.short call' (houtstanding ▸ List.mem_cons_of_mem call hcall)
  · have hsize : (link.agent.step crc8 (call.event lib
        0)).1.client.bridge.serialHandler.writeBuffer.size ≤ fortAgentBufferUnitSz :=
      RingBuffer.size_le _
    rw [hstep, backlog, backlog, houtstanding, List.length_cons, Nat.add_mul]
    dsimp only [JoystickLink.serialHandler]
    omega

/-- The port writes a byte. -/
theorem CatchingUp.written {machine : VehicleState} {link : JoystickLink}
    (h : CatchingUp crc8 lib machine link) (hmoving : link.serialHandler.Moving)
    (hsize : link.serialHandler.writeBuffer.size ≠ 0) :
    Transmits crc8 lib link (.elsewhere (.written 1)) ∧
      CatchingUp crc8 lib machine (link.step crc8 lib (.elsewhere (.written 1))).1 ∧
      backlog (link.step crc8 lib (.elsewhere (.written 1))).1 < backlog link := by
  have hadmits : link.serialHandler.LinkAdmits (.written 1) := by
    rcases h.consistent.writes with ⟨-, hwrites⟩ | ⟨-, n, hwrites, hpos, -⟩
    · exact absurd hwrites (hmoving hsize)
    · exact ⟨_, List.head?_eq_some_iff.mpr ⟨_, hwrites⟩, Nat.le_refl 1, hpos⟩
  obtain ⟨hmoving', hshorter⟩ := SerialHandler.linkStep_written h.consistent hadmits
  refine ⟨⟨trivial, hadmits⟩, ⟨h.machine, consistent_step crc8 lib h.consistent hadmits,
    fun hstuck ↦ hstuck.1 hmoving', h.short⟩, ?_⟩
  exact Nat.add_lt_add_left (Nat.lt_of_succ_le hshorter) _

/-- A link that is not stuck catches up. -/
theorem CatchingUp.canReach {machine : VehicleState} {link : JoystickLink}
    (h : CatchingUp crc8 lib machine link) :
    CanReach (JoystickLink.step crc8 lib) (Transmits crc8 lib) link fun t ↦
      CatchingUp crc8 lib machine t ∧ t.CaughtUp := by
  refine CanReach.of_measure backlog (fun t ht hbehind ↦ ?_) h
  by_cases hnext : ∃ call rest, t.outstanding = call :: rest ∧
      (call.frame crc8 lib).length ≤ t.serialHandler.writeBuffer.reserve
  · obtain ⟨call, rest, houtstanding, hfits⟩ := hnext
    exact ⟨_, ht.send crc8 lib houtstanding hfits⟩
  · have hwait : ∀ call ∈ t.outstanding.head?,
        t.serialHandler.writeBuffer.reserve < (call.frame crc8 lib).length := by
      intro call hcall
      obtain ⟨rest, houtstanding⟩ := List.head?_eq_some_iff.mp hcall
      exact Nat.lt_of_not_le fun hfits ↦ hnext ⟨call, rest, houtstanding, hfits⟩
    have hmoving : t.serialHandler.Moving :=
      by_contra fun hmoving ↦ ht.not_stuck ⟨hmoving, hwait⟩
    have hsize : t.serialHandler.writeBuffer.size ≠ 0 := by
      intro hempty
      cases houtstanding : t.outstanding with
      | nil => exact hbehind ⟨houtstanding, hempty⟩
      | cons call rest =>
          refine hnext ⟨call, rest, houtstanding, ?_⟩
          rw [RingBuffer.reserve, hempty]
          exact ht.short call (houtstanding ▸ List.mem_cons_self)
    exact ⟨_, ht.written crc8 lib hmoving hsize⟩

/-- Bytes that are left behind when nothing is outstanding. -/
theorem JoystickLink.stuck_of_left {link : JoystickLink}
    (h : link.serialHandler.writeBuffer.size ≠ 0 ∧ link.serialHandler.writes = [] ∧
      link.outstanding.length = 0) : link.Stuck crc8 lib := by
  obtain ⟨hleft, hwrites, hnone⟩ := h
  refine ⟨fun hmoving ↦ hmoving hleft hwrites, ?_⟩
  rw [List.eq_nil_of_length_eq_zero hnone]
  exact nofun

/-- A stuck link stays as it is. -/
theorem JoystickLink.Stuck.step {link : JoystickLink} (h : link.Stuck crc8 lib)
    {event : JoystickEvent} (htransmits : Transmits crc8 lib link event) :
    (link.step crc8 lib event).1 = link := by
  obtain ⟨htransmission, haccommodates⟩ := htransmits
  cases event with
  | call tick => exact htransmission.elim
  | send now =>
      cases houtstanding : link.outstanding with
      | nil => rw [JoystickLink.step, houtstanding]
      | cons call rest =>
          have hcall : call ∈ link.outstanding.head? := houtstanding ▸ rfl
          have hfits := (accommodates_event_iff crc8 lib).mp (haccommodates call hcall)
          exact absurd hfits (Nat.not_le.mpr (h.2 call hcall))
  | elsewhere event =>
      cases event with
      | written bytesTransferred =>
          obtain ⟨region, hregion, -⟩ := haccommodates
          refine absurd (fun _ hnil ↦ ?_) h.1
          rw [hnil] at hregion
          cases hregion
      | _ => exact htransmission.elim

theorem JoystickLink.Stuck.not_canReach {link : JoystickLink} (h : link.Stuck crc8 lib) :
    ¬CanReach (JoystickLink.step crc8 lib) (Transmits crc8 lib) link JoystickLink.CaughtUp := by
  refine Transducer.not_canReach (I := fun t ↦ t = link) rfl (fun t event ht htransmits ↦ ?_)
    fun t ht hcaught ↦ ?_
  · subst ht
    exact h.step crc8 lib htransmits
  · subst ht
    exact h.1 fun hne ↦ absurd hcaught.2 hne

end Transmission

/-! ## Catching up -/

section Main

variable {crc8 : List UInt8 → UInt8} {lib : TinycborEncoder}

/-- What is outstanding is short. -/
theorem short_outstanding (docs : lib.Documented) (agent : Agent) (events : List JoystickEvent) :
    ∀ call ∈ (final (JoystickLink.step crc8 lib) (.start agent) events).outstanding,
      (call.frame crc8 lib).length ≤ fortAgentBufferUnitSz := by
  intro call hcall
  refine length_frame_of_mem crc8 docs
    (effects (history (JoystickLink.step crc8 lib) (.start agent) events)) call ?_
  rw [← sentCalls_run crc8 lib agent events]
  exact List.mem_append_right _ hcall

end Main

/-- The seven requests of the start are made, and the port fails. -/
def failedStartup : List JoystickEvent :=
  List.replicate 7 (.send 0) ++ [.elsewhere .failed]

theorem stuck_failedStartup :
    (final (JoystickLink.step crc8Poly07 referenceEncoder) started failedStartup).Stuck
      crc8Poly07 referenceEncoder :=
  JoystickLink.stuck_of_left _ _ (by decide +kernel)

end FortAgent.Uart
