import FortAgent.Uart.UdpClients

/-!
# Sending to UDP clients

A message for a client is sent if the socket is open, and then its handler is run exactly
once, even if the socket is closed meanwhile (`sends_reported_once`).

What fails is logged for each port on its own.  An entry of the log is made at the first
failure of its port, and forgotten when a send to the port has succeeded, or a message has
been routed to it: so an entry counts the failures since then
(`send_failures_per_port`).  A message that is refused because the socket is closed is
itself such a message: its failure is forgotten as soon as it has been counted, and so of
the messages refused while the socket is closed only the first can be held back.
-/

namespace FortAgent.Uart

open Coap Serial Jaus Transducer

section Sends

variable {Address : Type*}

/-! ## What is outstanding -/

/-- The message whose send a handler reports on, if it is that of a send, with the port of
the client. -/
def Handler.sentMessage : Handler → Option (UInt16 × List UInt8)
  | .sent port data _ => some (port, data)
  | _ => none

/-- The message, if it is for a client, with the port of the client. -/
def Delivery.remoteMessage : Delivery → Option (UInt16 × List UInt8)
  | .remote port data => some (port, data)
  | _ => none

/-- The messages that are in flight, or whose handler has not been run. -/
def UdpSide.outstanding (udp : UdpSide Address) : List (UInt16 × List UInt8) :=
  udp.ready.filterMap Handler.sentMessage ++ udp.sending

namespace UdpSide

variable (localEndpoint : Endpoint Address) {udp : UdpSide Address}

/-- The sends in flight are cancelled, and reported. -/
theorem outstanding_close : udp.close.outstanding = udp.outstanding := by
  have hreceived : (List.replicate udp.receiving
      (Handler.received (some .operationAborted) [])).filterMap Handler.sentMessage = [] :=
    List.filterMap_eq_nil_iff.mpr fun handler hmem ↦ by rw [List.eq_of_mem_replicate hmem]; rfl
  have hsent : (udp.sending.map fun message ↦
      Handler.sent message.1 message.2 (some .operationAborted)).filterMap Handler.sentMessage =
        udp.sending := by
    rw [List.filterMap_map]
    exact List.filterMap_some
  simp only [outstanding, close, List.filterMap_append, hreceived, hsent, List.nil_append,
    List.append_nil]

/-- A handler that is not of a send does not count. -/
theorem outstanding_append (udp : UdpSide Address) {ready : List Handler}
    (h : ready.filterMap Handler.sentMessage = []) :
    outstanding { udp with ready := udp.ready ++ ready } = udp.outstanding := by
  simp only [outstanding, List.filterMap_append, h, List.append_nil]

theorem outstanding_notBound : (udp.notBound localEndpoint).outstanding = udp.outstanding := by
  have hwaited (waiting : ℕ) : (List.replicate waiting
      (Handler.waited (some .operationAborted))).filterMap Handler.sentMessage = [] :=
    List.filterMap_eq_nil_iff.mpr fun handler hmem ↦ by rw [List.eq_of_mem_replicate hmem]; rfl
  have hawait (udp : UdpSide Address) : udp.awaitRetry.outstanding = udp.outstanding := by
    simp only [outstanding, awaitRetry, List.filterMap_append, hwaited, List.append_nil]
  rw [notBound]
  dsimp only
  rw [hawait]
  split
  · exact outstanding_close
  · rfl

theorem outstanding_asyncReceiveFrom : udp.asyncReceiveFrom.outstanding = udp.outstanding := by
  rw [asyncReceiveFrom]
  split
  · rfl
  · exact outstanding_append udp rfl

mutual

theorem outstanding_bindLocal :
    ∀ (binding : Binding) (udp : UdpSide Address),
      (udp.bindLocal localEndpoint binding).outstanding = udp.outstanding
  | .fails, _ => (outstanding_notBound localEndpoint).trans outstanding_close
  | .binds receiving, udp =>
    (outstanding_receiveFromRemote receiving (udp.close.bound localEndpoint)).trans
      outstanding_close

theorem outstanding_receiveFromRemote :
    ∀ (receiving : Receiving) (udp : UdpSide Address),
      (udp.receiveFromRemote localEndpoint receiving).outstanding = udp.outstanding
  | .starts, _ => outstanding_asyncReceiveFrom
  | .throws binding, udp =>
    outstanding_bindLocal binding (udp.write .err "Bound socket receive failed" [])

end

section Deliver

variable (remoteHost : Address)

theorem outstanding_onSent (port : UInt16) (ec : Option ErrorCode) :
    (udp.onSent remoteHost port ec).outstanding = udp.outstanding := by
  rw [onSent.eq_def]
  split <;> rfl

theorem outstanding_noteForwarded (forwarded : Forwarded) :
    (udp.noteForwarded forwarded).outstanding = udp.outstanding := by
  cases forwarded <;> rfl

/-- A message for a client is sent if the socket is open. -/
theorem outstanding_deliver (delivery : Delivery) :
    (udp.deliver remoteHost delivery).outstanding =
      udp.outstanding ++ if udp.isOpen then delivery.remoteMessage.toList else [] := by
  have hnone : udp.outstanding = udp.outstanding ++ if udp.isOpen then [] else [] := by
    rw [ite_self, List.append_nil]
  cases delivery with
  | remote port data =>
      rw [deliver, sendToRemote]
      split
      · exact (List.append_assoc _ _ _).symm
      · exact (List.append_nil _).symm
  | ignored => exact hnone
  | dropped what => exact hnone
  | jaus port payload => exact hnone

theorem isOpen_deliver (delivery : Delivery) :
    (udp.deliver remoteHost delivery).isOpen = udp.isOpen :=
  congrArg Awaited.isOpen (awaited_deliver remoteHost delivery)

theorem outstanding_foldl_deliver (deliveries : List Delivery) :
    (deliveries.foldl (deliver remoteHost) udp).outstanding =
      udp.outstanding ++
        if udp.isOpen then deliveries.filterMap Delivery.remoteMessage else [] := by
  induction deliveries generalizing udp with
  | nil => rw [List.filterMap_nil, ite_self, List.append_nil, List.foldl_nil]
  | cons delivery deliveries ih =>
      rw [List.foldl_cons, ih, outstanding_deliver, isOpen_deliver, List.append_assoc,
        List.filterMap_cons]
      cases udp.isOpen <;> cases delivery.remoteMessage <;> rfl

end Deliver

end UdpSide

/-! ## One event -/

/-- The deliveries of an event. -/
def UdpStep.newDeliveries (r : UdpStep Address) : List Delivery :=
  r.after.agent.client.deliveries.drop r.before.agent.client.deliveries.length

/-- The messages that are accepted in an event. -/
def UdpStep.accepted (r : UdpStep Address) : List (UInt16 × List UInt8) :=
  if r.before.udp.isOpen then (UdpStep.newDeliveries r).filterMap Delivery.remoteMessage else []

/-- The message whose handler is run in an event. -/
def UdpStep.reported (r : UdpStep Address) : List (UInt16 × List UInt8) :=
  match r.input with
  | .runs index .. => (r.before.udp.ready[index]?.bind Handler.sentMessage).toList
  | _ => []

theorem outstanding_forwarded (udp : UdpSide Address) (agent : Agent)
    (outcome : Outcome (UartCoapBridge × Forwarded)) :
    (UdpAgent.forwarded udp agent outcome).1.udp.outstanding = udp.outstanding := by
  rw [UdpAgent.forwarded.eq_def]
  split
  · exact UdpSide.outstanding_noteForwarded _
  · rfl

variable [DecidableEq Address] (remoteHost : Address) (crc8 : List UInt8 → UInt8)
  (localEndpoint : Endpoint Address)

/-- Only reading leads to deliveries. -/
theorem newDeliveries_of_not_read (s : UdpAgent Address) {event : UdpEvent Address}
    (h : ∀ completion, event ≠ .read completion) :
    UdpStep.newDeliveries (record (UdpAgent.step crc8 localEndpoint remoteHost) s event) = [] := by
  have hsame {agent : Agent} (hdeliveries : agent.client.deliveries = s.agent.client.deliveries) :
      agent.client.deliveries.drop s.agent.client.deliveries.length = [] := by
    rw [hdeliveries, List.drop_length]
  rw [UdpStep.newDeliveries, record_after, record_before]
  rcases agent_step remoteHost crc8 localEndpoint s event with
    ⟨-, hagent, -⟩ | ⟨agentEvent, hevent, hagent, -⟩
  · exact hsame (by rw [hagent])
  · have hread : ¬∃ completion, agentEvent = .read completion := by
      rintro ⟨completion, rfl⟩
      cases event with
      | read completion => exact h completion rfl
      | removeOldMids now => cases hevent
      | written bytesTransferred => cases hevent
      | failed => cases hevent
      | _ =>
          simp only [UdpAgent.agentEvent, Option.map_eq_some_iff] at hevent
          obtain ⟨datagram, -, hdatagram⟩ := hevent
          cases hdatagram
    refine hsame ?_
    rw [hagent]
    exact (step_of_not_read crc8 hread).2.2.2.1

theorem outstanding_handle (s : UdpAgent Address) (now : SteadyTime) (binding : Binding)
    (receiving : Receiving) (handler : Handler) :
    (s.handle crc8 localEndpoint remoteHost now binding receiving handler).1.udp.outstanding =
      s.udp.outstanding := by
  cases handler with
  | sent port data ec => exact UdpSide.outstanding_onSent remoteHost port ec
  | waited ec => exact UdpSide.outstanding_bindLocal localEndpoint binding s.udp
  | received ec data =>
      by_cases haborted : ec = some .operationAborted
      · subst haborted
        rfl
      · rw [UdpAgent.handle_received crc8 localEndpoint remoteHost now binding receiving haborted]
        refine (UdpSide.outstanding_receiveFromRemote localEndpoint receiving _).trans ?_
        rw [UdpAgent.onReceived]
        split_ifs
        · exact outstanding_forwarded _ _ _
        · rfl
        · rfl

/-- **One event.**  What is accepted is outstanding until it is reported. -/
theorem step_sends (s : UdpAgent Address) (event : UdpEvent Address) :
    let r := record (UdpAgent.step crc8 localEndpoint remoteHost) s event
    (s.udp.outstanding ++ UdpStep.accepted r).Perm
      (UdpStep.reported r ++ r.after.udp.outstanding) := by
  intro r
  have hquiet (h : ∀ completion, event ≠ .read completion) : UdpStep.accepted r = [] := by
    rw [UdpStep.accepted, newDeliveries_of_not_read remoteHost crc8 localEndpoint s h,
      List.filterMap_nil, ite_self]
  have hsame (hafter : r.after.udp.outstanding = s.udp.outstanding)
      (hreported : UdpStep.reported r = []) (h : ∀ completion, event ≠ .read completion) :
      (s.udp.outstanding ++ UdpStep.accepted r).Perm
        (UdpStep.reported r ++ r.after.udp.outstanding) := by
    rw [hquiet h, hafter, hreported, List.append_nil, List.nil_append]
  cases event with
  | arrives sender data =>
      refine hsame ?_ rfl (by rintro _ ⟨⟩)
      simp only [r, record_after, UdpAgent.step]
      split
      · rfl
      · exact UdpSide.outstanding_append s.udp rfl
  | breaks value =>
      refine hsame ?_ rfl (by rintro _ ⟨⟩)
      simp only [r, record_after, UdpAgent.step]
      split
      · rfl
      · exact UdpSide.outstanding_append s.udp rfl
  | expires =>
      refine hsame ?_ rfl (by rintro _ ⟨⟩)
      simp only [r, record_after, UdpAgent.step]
      split
      · rfl
      · exact UdpSide.outstanding_append s.udp rfl
  | leaves index error =>
      rw [hquiet (by rintro _ ⟨⟩), List.append_nil]
      simp only [r, record_after, UdpAgent.step, UdpStep.reported, record_input, List.nil_append]
      split
      · exact List.Perm.refl _
      · next message hmessage =>
          obtain ⟨before, after, hsending, herase⟩ := UdpAgent.eraseIdx_split hmessage
          simp only [UdpSide.outstanding, herase]
          simp only [hsending, List.filterMap_append, List.append_assoc]
          exact List.perm_middle.append_left _
  | runs index now binding receiving =>
      rw [hquiet (by rintro _ ⟨⟩), List.append_nil]
      simp only [r, record_after, UdpAgent.step, UdpStep.reported, record_input, record_before]
      cases hhandler : s.udp.ready[index]? with
      | none => exact List.Perm.refl _
      | some handler =>
          obtain ⟨before, after, hready, herase⟩ := UdpAgent.eraseIdx_split hhandler
          dsimp only
          rw [outstanding_handle, Option.bind_some, herase]
          simp only [UdpSide.outstanding, hready, List.filterMap_append, List.filterMap_cons,
            List.append_assoc]
          cases handler.sentMessage with
          | none => exact List.Perm.refl _
          | some message => exact List.perm_middle
  | requests jausPort now coapMsg => exact hsame (outstanding_forwarded _ _ _) rfl (by rintro _ ⟨⟩)
  | _ =>
      have hafter : r.after.udp.outstanding = s.udp.outstanding ++ UdpStep.accepted r :=
        UdpSide.outstanding_foldl_deliver remoteHost _
      rw [hafter]
      exact List.Perm.refl _

/-- **Every send is reported once.**  In every run of the agent with its socket, the messages
for clients that are routed while the socket is open are, up to their order, those whose
handlers have been run and those that are still outstanding: none is lost or reported
twice, also where the socket is closed with sends in flight. -/
theorem sends_reported_once (sender : Endpoint Address) (agent : Agent) (binding : Binding)
    (events : List (UdpEvent Address)) :
    let start := UdpAgent.new localEndpoint sender agent binding
    let h := history (UdpAgent.step crc8 localEndpoint remoteHost) start events
    let after := final (UdpAgent.step crc8 localEndpoint remoteHost) start events
    (h.flatMap UdpStep.accepted).Perm (h.flatMap UdpStep.reported ++ after.udp.outstanding) := by
  refine history_invariant' (UdpAgent.step crc8 localEndpoint remoteHost)
    (I := fun h s ↦
      (h.flatMap UdpStep.accepted).Perm (h.flatMap UdpStep.reported ++ s.udp.outstanding))
    ?_ (fun h s event hperm ↦ ?_) events
  · have hnone : (UdpAgent.new localEndpoint sender agent binding).udp.outstanding = [] :=
      UdpSide.outstanding_bindLocal localEndpoint binding (.closed sender)
    rw [hnone]
    exact List.Perm.refl _
  · rw [List.flatMap_append, List.flatMap_append, List.flatMap_singleton, List.flatMap_singleton,
      List.append_assoc]
    refine (hperm.append_right _).trans ?_
    rw [List.append_assoc]
    exact (step_sends remoteHost crc8 localEndpoint s event).append_left _

end Sends

/-! ## The logs of the ports -/

section Logs

variable {Address : Type*} (remoteHost : Address)

/-- What a call does to the entry of a port. -/
def onEntry (entry : Option (SpammyLogMsg Level)) :
    SpammyCall (LogArg Address) → Option (SpammyLogMsg Level)
  | .log fmt args => some ((entry.getD (.new .err)).log fmt args).1
  | .clear => none

/-- The calls for the log of a port when the handler of a send is run. -/
def onSentCalls (port dest : UInt16) (ec : Option ErrorCode) : List (SpammyCall (LogArg Address)) :=
  if dest = port then
    match ec with
    | some .operationAborted => []
    | some ec =>
      [.log "Got error when sending to \x7b\x7d, ec = \x7b\x7d"
        [.endpoint ⟨remoteHost, dest⟩, .ec (some ec)]]
    | none => [.clear]
  else []

/-- The calls for the log of a port at a delivery. -/
def deliverCalls (isOpen : Bool) (port : UInt16) : Delivery → List (SpammyCall (LogArg Address))
  | .remote dest _ =>
    if dest = port then
      (if isOpen then []
        else [.log "Error sending to \x7b\x7d" [.endpoint ⟨remoteHost, dest⟩]]) ++ [.clear]
    else []
  | .dropped what =>
    if 0 = port then
      [.log "Failed to forward received Serial data: Coap error: \x7b\x7d" [.what what]]
    else []
  | .ignored | .jaus .. => []

/-- The calls for the log of a port in an event. -/
def UdpStep.portCalls (port : UInt16) (r : UdpStep Address) : List (SpammyCall (LogArg Address)) :=
  (match r.input with
    | .runs index .. =>
      match r.before.udp.ready[index]? with
      | some (.sent dest _ ec) => onSentCalls remoteHost port dest ec
      | _ => []
    | _ => []) ++
  (UdpStep.newDeliveries r).flatMap (deliverCalls remoteHost r.before.udp.isOpen port)

/-- There is an entry exactly if there was a failure since it was last cleared, and it
counts these failures, up to where its threshold wraps. -/
theorem entry_counts (calls : List (SpammyCall (LogArg Address))) :
    let entry := calls.foldl onEntry none
    (entry.isSome = true ↔ 0 < logsSinceClear calls) ∧
      (logsSinceClear calls < 2 ^ 63 → (entry.getD (.new .err)).Counts (logsSinceClear calls)) := by
  induction calls using List.reverseRecOn with
  | nil => exact ⟨by simp [logsSinceClear], fun _ ↦ ⟨rfl, rfl⟩⟩
  | append_singleton calls call ih =>
      obtain ⟨-, hcounts⟩ := ih
      rw [List.foldl_append, SpammyLogMsg.logsSinceClear_concat]
      cases call with
      | log fmt args =>
          refine ⟨iff_of_true rfl (Nat.succ_pos _), fun hlt ↦ ?_⟩
          exact (hcounts (Nat.lt_of_succ_lt hlt)).log hlt fmt args
      | clear => exact ⟨iff_of_false Bool.false_ne_true (Nat.lt_irrefl _), fun _ ↦ ⟨rfl, rfl⟩⟩

namespace UdpSide

variable {udp : UdpSide Address} (port : UInt16)

theorem failedToSendToRemote_log (dest : UInt16) (fmt : String) (args : List (LogArg Address)) :
    (udp.logFailedToSendToRemote dest fmt args).failedToSendToRemote port =
      (if dest = port then [.log fmt args] else []).foldl onEntry
        (udp.failedToSendToRemote port) := by
  rw [logFailedToSendToRemote]
  split
  · next heq =>
      subst heq
      exact Function.update_self ..
  · next hne => exact Function.update_of_ne (Ne.symm hne) ..

theorem failedToSendToRemote_clear (dest : UInt16) :
    (udp.clearFailedToSendToRemote dest).failedToSendToRemote port =
      (if dest = port then ([.clear] : List (SpammyCall (LogArg Address))) else []).foldl onEntry
        (udp.failedToSendToRemote port) := by
  rw [clearFailedToSendToRemote]
  split
  · next heq =>
      subst heq
      exact Function.update_self ..
  · next hne => exact Function.update_of_ne (Ne.symm hne) ..

theorem failedToSendToRemote_onSent (dest : UInt16) (ec : Option ErrorCode) :
    (udp.onSent remoteHost dest ec).failedToSendToRemote port =
      (onSentCalls remoteHost port dest ec).foldl onEntry (udp.failedToSendToRemote port) := by
  have hnone : (if dest = port then ([] : List (SpammyCall (LogArg Address))) else []) = [] :=
    ite_self []
  cases ec with
  | none => exact failedToSendToRemote_clear port dest
  | some ec =>
      cases ec with
      | operationAborted =>
          rw [onSentCalls, hnone]
          rfl
      | _ => exact failedToSendToRemote_log port dest _ _

theorem failedToSendToRemote_deliver (delivery : Delivery) :
    (udp.deliver remoteHost delivery).failedToSendToRemote port =
      (deliverCalls remoteHost udp.isOpen port delivery).foldl onEntry
        (udp.failedToSendToRemote port) := by
  cases delivery with
  | remote dest data =>
      rw [deliver, failedToSendToRemote_clear, sendToRemote, deliverCalls]
      split
      · rfl
      · rw [failedToSendToRemote_log, ← List.foldl_append]
        split <;> rfl
  | dropped what => exact failedToSendToRemote_log port 0 _ _
  | ignored => rfl
  | jaus jausPort payload => rfl

theorem failedToSendToRemote_foldl_deliver (deliveries : List Delivery) :
    (deliveries.foldl (deliver remoteHost) udp).failedToSendToRemote port =
      (deliveries.flatMap (deliverCalls remoteHost udp.isOpen port)).foldl onEntry
        (udp.failedToSendToRemote port) := by
  induction deliveries generalizing udp with
  | nil => rfl
  | cons delivery deliveries ih =>
      rw [List.foldl_cons, ih, isOpen_deliver, failedToSendToRemote_deliver, List.flatMap_cons,
        List.foldl_append]

section Frame

variable (localEndpoint : Endpoint Address)

theorem failedToSendToRemote_noteForwarded (forwarded : Forwarded) :
    (udp.noteForwarded forwarded).failedToSendToRemote = udp.failedToSendToRemote := by
  cases forwarded <;> rfl

theorem failedToSendToRemote_asyncReceiveFrom :
    udp.asyncReceiveFrom.failedToSendToRemote = udp.failedToSendToRemote := by
  rw [asyncReceiveFrom]
  split <;> rfl

theorem failedToSendToRemote_notBound :
    (udp.notBound localEndpoint).failedToSendToRemote = udp.failedToSendToRemote := by
  rw [notBound]
  dsimp only
  split <;> rfl

mutual

theorem failedToSendToRemote_bindLocal :
    ∀ (binding : Binding) (udp : UdpSide Address),
      (udp.bindLocal localEndpoint binding).failedToSendToRemote = udp.failedToSendToRemote
  | .fails, _ => failedToSendToRemote_notBound localEndpoint
  | .binds receiving, udp =>
    failedToSendToRemote_receiveFromRemote receiving (udp.close.bound localEndpoint)

theorem failedToSendToRemote_receiveFromRemote :
    ∀ (receiving : Receiving) (udp : UdpSide Address),
      (udp.receiveFromRemote localEndpoint receiving).failedToSendToRemote =
        udp.failedToSendToRemote
  | .starts, _ => failedToSendToRemote_asyncReceiveFrom
  | .throws binding, udp =>
    failedToSendToRemote_bindLocal binding (udp.write .err "Bound socket receive failed" [])

end

end Frame

end UdpSide

/-- The message that is logged for a message refused while nothing is held against its port. -/
def refusal (port : UInt16) : LogRecord Level (LogArg Address) :=
  ⟨.err, "Error sending to \x7b\x7d", [.endpoint ⟨remoteHost, port⟩], none⟩

/-- A refused message counts as a failure, which is then forgotten. -/
theorem deliver_refused {udp : UdpSide Address} (hclosed : udp.isOpen = false) (port : UInt16)
    (data : List UInt8) :
    (udp.deliver remoteHost (.remote port data)).logged =
        (udp.logFailedToSendToRemote port "Error sending to \x7b\x7d"
          [.endpoint ⟨remoteHost, port⟩]).logged ∧
      (udp.deliver remoteHost (.remote port data)).failedToSendToRemote port = none := by
  constructor
  · simp only [UdpSide.deliver, UdpSide.sendToRemote, hclosed, Bool.false_eq_true, if_false]
    rfl
  · rw [UdpSide.deliver, UdpSide.failedToSendToRemote_clear, if_pos rfl]
    rfl

/-- Where nothing is held against the port, it is logged in full. -/
theorem logged_deliver_refused {udp : UdpSide Address} (hclosed : udp.isOpen = false)
    {port : UInt16} (hentry : udp.failedToSendToRemote port = none) (data : List UInt8) :
    (udp.deliver remoteHost (.remote port data)).logged =
      udp.logged ++ [refusal remoteHost port] := by
  rw [(deliver_refused remoteHost hclosed port data).1]
  simp only [UdpSide.logFailedToSendToRemote, hentry]
  rfl

/-- While the socket is closed, each refusal is logged, and forgotten. -/
theorem logged_refused {udp : UdpSide Address} {port : UInt16} (hclosed : udp.isOpen = false)
    (hentry : udp.failedToSendToRemote port = none) (messages : List (List UInt8)) :
    ((messages.map (Delivery.remote port)).foldl (UdpSide.deliver remoteHost) udp).logged =
      udp.logged ++ List.replicate messages.length (refusal remoteHost port) := by
  induction messages generalizing udp with
  | nil => exact (List.append_nil _).symm
  | cons data messages ih =>
      rw [List.map_cons, List.foldl_cons,
        ih ((UdpSide.isOpen_deliver remoteHost _).trans hclosed)
          (deliver_refused remoteHost hclosed port data).2,
        logged_deliver_refused remoteHost hclosed hentry, List.append_assoc]
      rfl

theorem failedToSendToRemote_forwarded (udp : UdpSide Address) (agent : Agent)
    (outcome : Outcome (UartCoapBridge × Forwarded)) :
    (UdpAgent.forwarded udp agent outcome).1.udp.failedToSendToRemote =
      udp.failedToSendToRemote := by
  rw [UdpAgent.forwarded.eq_def]
  split
  · exact UdpSide.failedToSendToRemote_noteForwarded _
  · rfl

variable [DecidableEq Address] (crc8 : List UInt8 → UInt8) (localEndpoint : Endpoint Address)

theorem failedToSendToRemote_handle (s : UdpAgent Address) (now : SteadyTime) (binding : Binding)
    (receiving : Receiving) (handler : Handler) (port : UInt16) :
    (s.handle crc8 localEndpoint remoteHost now binding receiving
        handler).1.udp.failedToSendToRemote port =
      (match handler with
        | .sent dest _ ec => onSentCalls remoteHost port dest ec
        | _ => []).foldl onEntry (s.udp.failedToSendToRemote port) := by
  cases handler with
  | sent dest data ec => exact UdpSide.failedToSendToRemote_onSent remoteHost port dest ec
  | waited ec =>
      exact congrFun (UdpSide.failedToSendToRemote_bindLocal localEndpoint binding s.udp) port
  | received ec data =>
      by_cases haborted : ec = some .operationAborted
      · subst haborted
        rfl
      · rw [UdpAgent.handle_received crc8 localEndpoint remoteHost now binding receiving haborted]
        refine (congrFun
          (UdpSide.failedToSendToRemote_receiveFromRemote localEndpoint receiving _) port).trans ?_
        rw [UdpAgent.onReceived]
        split_ifs
        · exact congrFun (failedToSendToRemote_forwarded _ _ _) port
        · rfl
        · rfl

/-- **One event.** -/
theorem failedToSendToRemote_step (s : UdpAgent Address) (event : UdpEvent Address)
    (port : UInt16) :
    let r := record (UdpAgent.step crc8 localEndpoint remoteHost) s event
    r.after.udp.failedToSendToRemote port =
      (UdpStep.portCalls remoteHost port r).foldl onEntry (s.udp.failedToSendToRemote port) := by
  intro r
  have hquiet (h : ∀ completion, event ≠ .read completion) :
      (UdpStep.newDeliveries r).flatMap (deliverCalls remoteHost r.before.udp.isOpen port) =
        [] := by
    rw [newDeliveries_of_not_read remoteHost crc8 localEndpoint s h, List.flatMap_nil]
  cases event with
  | arrives sender data =>
      rw [UdpStep.portCalls, hquiet (by rintro _ ⟨⟩)]
      simp only [r, record_after, UdpAgent.step]
      split <;> rfl
  | breaks value =>
      rw [UdpStep.portCalls, hquiet (by rintro _ ⟨⟩)]
      simp only [r, record_after, UdpAgent.step]
      split <;> rfl
  | leaves index error =>
      rw [UdpStep.portCalls, hquiet (by rintro _ ⟨⟩)]
      simp only [r, record_after, UdpAgent.step]
      split <;> rfl
  | expires =>
      rw [UdpStep.portCalls, hquiet (by rintro _ ⟨⟩)]
      simp only [r, record_after, UdpAgent.step]
      split <;> rfl
  | runs index now binding receiving =>
      rw [UdpStep.portCalls, hquiet (by rintro _ ⟨⟩), List.append_nil]
      simp only [r, record_after, record_before, record_input, UdpAgent.step]
      cases s.udp.ready[index]? with
      | none => rfl
      | some handler =>
          refine (failedToSendToRemote_handle remoteHost crc8 localEndpoint _ now binding receiving
            handler port).trans ?_
          cases handler <;> rfl
  | requests jausPort now coapMsg =>
      rw [UdpStep.portCalls, hquiet (by rintro _ ⟨⟩)]
      exact congrFun (failedToSendToRemote_forwarded _ _ _) port
  | _ => exact UdpSide.failedToSendToRemote_foldl_deliver remoteHost port _

theorem failedToSendToRemote_run (sender : Endpoint Address) (agent : Agent) (binding : Binding)
    (events : List (UdpEvent Address)) (port : UInt16) :
    let start := UdpAgent.new localEndpoint sender agent binding
    let h := history (UdpAgent.step crc8 localEndpoint remoteHost) start events
    let after := final (UdpAgent.step crc8 localEndpoint remoteHost) start events
    after.udp.failedToSendToRemote port =
      (h.flatMap (UdpStep.portCalls remoteHost port)).foldl onEntry none := by
  refine history_invariant' (UdpAgent.step crc8 localEndpoint remoteHost)
    (I := fun h s ↦ s.udp.failedToSendToRemote port =
      (h.flatMap (UdpStep.portCalls remoteHost port)).foldl onEntry none)
    ?_ (fun h s event hentry ↦ ?_) events
  · exact congrFun (UdpSide.failedToSendToRemote_bindLocal localEndpoint binding (.closed sender))
      port
  · rw [List.flatMap_append, List.flatMap_singleton, List.foldl_append, ← hentry]
    exact failedToSendToRemote_step remoteHost crc8 localEndpoint s event port

/-- **Failures are counted for each port.**  In every run of the agent with its socket, let `k`
be the number of failures to send to a port since a send to it has last succeeded or a
message has last been routed to it; port zero also has the messages from the serial port
that are no CoAP.  The port has an entry exactly if `k` is positive.  The next failure is
logged exactly if `k + 1` is a power of two, and shows this number from the second one on,
as long as `k` is less than `2 ^ 63`.  But of the messages for the port that are refused
while the socket is closed only the first is such a failure: every other one is logged as if
it were the first to fail, however many there are. -/
theorem send_failures_per_port (sender : Endpoint Address) (agent : Agent) (binding : Binding)
    (events : List (UdpEvent Address)) (port : UInt16) :
    let start := UdpAgent.new localEndpoint sender agent binding
    let h := history (UdpAgent.step crc8 localEndpoint remoteHost) start events
    let udp := (final (UdpAgent.step crc8 localEndpoint remoteHost) start events).udp
    let k := logsSinceClear (h.flatMap (UdpStep.portCalls remoteHost port))
    ((udp.failedToSendToRemote port).isSome = true ↔ 0 < k) ∧
      (k < 2 ^ 63 → ∀ fmt args, ∃ record : Option (LogRecord Level (LogArg Address)),
        (udp.logFailedToSendToRemote port fmt args).logged = udp.logged ++ record.toList ∧
          (record.isSome = true ↔ ∃ m, k + 1 = 2 ^ m) ∧
          ∀ message ∈ record, (∀ count ∈ message.count, count.toNat = k + 1) ∧
            (message.count = none ↔ k + 1 = 1)) ∧
      (udp.isOpen = false → ∀ (data : List UInt8) (messages : List (List UInt8)),
        ∃ first : Option (LogRecord Level (LogArg Address)),
          (((data :: messages).map (Delivery.remote port)).foldl (UdpSide.deliver remoteHost)
              udp).logged =
            udp.logged ++ first.toList ++
              List.replicate messages.length (refusal remoteHost port) ∧
          (k = 0 → first = some (refusal remoteHost port)) ∧
          (k < 2 ^ 63 → (first.isSome = true ↔ ∃ m, k + 1 = 2 ^ m))) := by
  intro start h udp k
  have hentry : udp.failedToSendToRemote port = _ :=
    failedToSendToRemote_run remoteHost crc8 localEndpoint sender agent binding events port
  obtain ⟨hsome, hcounts⟩ := entry_counts (h.flatMap (UdpStep.portCalls remoteHost port))
  rw [← hentry] at hsome hcounts
  refine ⟨hsome, fun hlt fmt args ↦ ⟨_, rfl, (hcounts hlt).logged hlt fmt args⟩,
    fun hclosed data messages ↦ ?_⟩
  obtain ⟨hfirst, hforgotten⟩ := deliver_refused remoteHost hclosed port data
  refine ⟨(((udp.failedToSendToRemote port).getD (.new .err)).log "Error sending to \x7b\x7d"
    [.endpoint ⟨remoteHost, port⟩]).2, ?_, fun hzero ↦ ?_,
    fun hlt ↦ ((hcounts hlt).logged hlt _ _).1⟩
  · rw [List.map_cons, List.foldl_cons,
      logged_refused remoteHost ((UdpSide.isOpen_deliver remoteHost _).trans hclosed) hforgotten,
      hfirst]
    rfl
  · have hnone : ¬(udp.failedToSendToRemote port).isSome = true := by
      rw [hsome]
      exact Nat.not_lt_of_le (Nat.le_of_eq hzero)
    rw [Option.not_isSome_iff_eq_none.mp hnone]
    rfl

/-- Two messages for a client, while the socket could not be bound. -/
theorem send_failures_per_port_refused :
    (([[], []].map (Delivery.remote 40000)).foldl (UdpSide.deliver ()) unboundAgent.udp).logged =
      unboundAgent.udp.logged ++ [refusal () 40000, refusal () 40000] := by
  obtain ⟨first, hlogged, hfirst, -⟩ := (send_failures_per_port () crc8Poly07 ⟨(), 5683⟩ ⟨(), 0⟩ _
    .fails [] 40000).2.2 rfl [] [[]]
  obtain rfl := hfirst rfl
  exact hlogged.trans (List.append_assoc _ _ _)

end Logs

end FortAgent.Uart
