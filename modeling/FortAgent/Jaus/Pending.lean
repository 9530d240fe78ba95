import FortAgent.Jaus.Client

/-!
# The pending flag

Two laws of `requestPending`, and when they hold.

No request should be sent while another is unanswered.  But the flag is cleared by
every status that comes in, also by one that is not the answer, and then the client has
lost sight of the request it waits for.  `one_at_a_time_iff` says that this is the only
way.

The flag should not stay set when there is nothing to wait for, since then no request is
ever sent again.  But a call sets it after it has sent the request, and if the answer
has come by then, nothing clears it any more.  `never_wedged_iff` says that this is the
only way.
-/

namespace FortAgent.Jaus

open Transducer

variable {Status : Type}

/-! ## One request at a time -/

/-- One recorded event, with whole calls. -/
abbrev CallStep (Status : Type) := Step (Exchange Status) (CallEvent Status) (Option Request)

/-- Every request is sent when all others have been answered. -/
def OneAtATime (h : List (CallStep Status)) : Prop :=
  ∀ r ∈ h, r.output ≠ none → r.before.inFlight = []

/-- Every answer belongs to a request. -/
def AnswersBelong (h : List (CallStep Status)) : Prop :=
  ∀ r ∈ h, ∀ message ∈ r.input.message?, r.before.Admits message

instance (h : List (CallStep Status)) : Decidable (AnswersBelong h) :=
  inferInstanceAs (Decidable (∀ r ∈ h, ∀ message ∈ r.input.message?, r.before.Admits message))

/-- The step is a call that sends a request, unless it thinks that one is pending. -/
def Asks (r : CallStep Status) : Prop :=
  r.input.isCall = true ∧ r.before.client.serverValid = true

instance (r : CallStep Status) : Decidable (Asks r) := inferInstanceAs (Decidable (_ ∧ _))

/-- What a step does to whether a request has been lost sight of. -/
def losesSight (lost : Bool) (r : CallStep Status) : Bool :=
  match r.input with
  | .incoming (.reportStatus _) => lost || !r.before.inFlight.isEmpty
  | .incoming _ => false
  | _ => lost

/-- A status has come in that is not the answer to the request in flight, and the answer
has not. -/
def lostSight (past : List (CallStep Status)) : Bool := past.foldl losesSight false

theorem lostSight_concat (past : List (CallStep Status)) (r : CallStep Status) :
    lostSight (past ++ [r]) = losesSight (lostSight past) r := by
  rw [lostSight, List.foldl_append]
  rfl

/-- The invariant: at most one request is in flight, and it has been lost sight of
exactly if the flag is cleared. -/
structure InSight (past : List (CallStep Status)) (exchange : Exchange Status) : Prop where
  atMostOne : exchange.inFlight.length ≤ 1
  lostSight_iff : lostSight past = true ↔
    exchange.inFlight ≠ [] ∧ exchange.client.requestPending = false

theorem inSight_idle {exchange : Exchange Status} (h : exchange.Idle) : InSight [] exchange where
  atMostOne := by
    rw [h.noneInFlight]
    exact Nat.zero_le 1
  lostSight_iff := iff_of_false Bool.false_ne_true fun hne ↦ hne.1 h.noneInFlight

namespace Exchange

/-- When a request is sent. -/
theorem sends_iff (exchange : Exchange Status) (event : CallEvent Status) :
    (exchange.step event).2 ≠ none ↔
      event.isCall = true ∧
        exchange.client.serverValid = true ∧ exchange.client.requestPending = false := by
  have hcall (request : Request) : (exchange.step request.callEvent).2 ≠ none ↔
      exchange.client.serverValid = true ∧ exchange.client.requestPending = false := by
    rw [step_callEvent]
    change (exchange.client.dispatch request).1 ≠ none ↔ _
    rw [exchange.client.dispatch_fst request]
    split
    · next hsend => exact iff_of_true (Option.some_ne_none _) hsend
    · next hsend => exact iff_of_false (fun hne ↦ hne rfl) hsend
  constructor
  · intro h
    cases event with
    | sendRequestControl => exact ⟨rfl, (hcall .requestControl).mp h⟩
    | queryStatus => exact ⟨rfl, (hcall .queryStatus).mp h⟩
    | incoming message => exact absurd rfl h
    | discoverVehicle pdList => exact absurd rfl h
  · rintro ⟨hevent, h⟩
    obtain ⟨request, rfl⟩ := CallEvent.isCall_iff.mp hevent
    exact (hcall request).mpr h

/-- A call that sends nothing changes nothing. -/
theorem step_callEvent_of_not {exchange : Exchange Status} {request : Request}
    (h : ¬(exchange.client.serverValid = true ∧ exchange.client.requestPending = false)) :
    exchange.step request.callEvent = (exchange, none) := by
  rw [step_callEvent, afterCall, JAUSClientImpl.call]
  simp only [exchange.client.dispatch_fst request, if_neg h, Option.isSome_none,
    Bool.false_eq_true, if_false, Option.toList_none, List.append_nil]

/-- A call that sends a request. -/
theorem step_callEvent_of_sends {exchange : Exchange Status} {request : Request}
    (h : exchange.client.serverValid = true ∧ exchange.client.requestPending = false) :
    exchange.step request.callEvent =
      ({ exchange with
          client := exchange.client.setPending
          inFlight := exchange.inFlight ++ [request] }, some request) := by
  rw [step_callEvent, afterCall, JAUSClientImpl.call]
  simp only [exchange.client.dispatch_fst request, if_pos h, Option.isSome_some, if_true,
    Option.toList_some]

end Exchange

/-- A call keeps the invariant, if it does not send a second request. -/
theorem InSight.call {past : List (CallStep Status)} {exchange : Exchange Status}
    (hI : InSight past exchange) (request : Request)
    (hone : (exchange.step request.callEvent).2 ≠ none → exchange.inFlight = []) :
    InSight (past ++ [record Exchange.step exchange request.callEvent])
      (exchange.step request.callEvent).1 := by
  have hlost : lostSight (past ++ [record Exchange.step exchange request.callEvent]) =
      lostSight past := by
    rw [lostSight_concat]
    cases request with
    | requestControl => rfl
    | queryStatus => rfl
  by_cases hsends : exchange.client.serverValid = true ∧ exchange.client.requestPending = false
  · have hnone : exchange.inFlight = [] :=
      hone ((exchange.sends_iff _).mpr ⟨CallEvent.isCall_iff.mpr ⟨request, rfl⟩, hsends⟩)
    rw [Exchange.step_callEvent_of_sends hsends, hnone]
    refine ⟨Nat.le_refl 1, ?_⟩
    rw [hlost, hI.lostSight_iff]
    refine iff_of_false (fun h ↦ h.1 hnone) ?_
    rintro ⟨-, hpending⟩
    cases hpending
  · rw [Exchange.step_callEvent_of_not hsends]
    exact ⟨hI.atMostOne, by rw [hlost, hI.lostSight_iff]⟩

/-- After an answer nothing is in flight. -/
theorem erase_of_atMostOne {inFlight : List Request} {request : Request}
    (hone : inFlight.length ≤ 1) (hmem : request ∈ inFlight) : inFlight.erase request = [] := by
  have hlength := List.length_erase_of_mem hmem
  exact List.length_eq_zero_iff.mp (by omega)

/-- With nothing in flight, nothing has been lost sight of. -/
theorem inSight_of_none {past : List (CallStep Status)} {exchange : Exchange Status}
    (hnone : exchange.inFlight = []) (hlost : lostSight past = false) : InSight past exchange where
  atMostOne := by
    rw [hnone]
    exact Nat.zero_le 1
  lostSight_iff := by
    rw [hlost]
    exact iff_of_false Bool.false_ne_true fun h ↦ h.1 hnone

/-- What comes in keeps the invariant. -/
theorem InSight.incoming {past : List (CallStep Status)} {exchange : Exchange Status}
    (hI : InSight past exchange) {message : Incoming Status} (hadmits : exchange.Admits message) :
    InSight (past ++ [record Exchange.step exchange (.incoming message)])
      (exchange.incoming message) := by
  cases message with
  | requestControlResponse accepted =>
      exact inSight_of_none (erase_of_atMostOne hI.atMostOne hadmits) (lostSight_concat ..)
  | reportStatusAnswer status =>
      exact inSight_of_none (erase_of_atMostOne hI.atMostOne hadmits) (lostSight_concat ..)
  | reportStatus status =>
      refine ⟨hI.atMostOne, ?_⟩
      have hlost : losesSight (lostSight past)
          (record Exchange.step exchange (.incoming (.reportStatus status))) =
            (lostSight past || !exchange.inFlight.isEmpty) := rfl
      have hinFlight : lostSight past = true → exchange.inFlight ≠ [] := fun h ↦
        (hI.lostSight_iff.mp h).1
      rw [lostSight_concat, hlost, Bool.or_eq_true, Bool.not_eq_true', List.isEmpty_eq_false_iff]
      constructor
      · intro h
        exact ⟨h.elim hinFlight id, rfl⟩
      · rintro ⟨hne, -⟩
        exact .inr hne

/-- **One event** keeps the invariant, if its answer belongs to a request and it does not
send a second request. -/
theorem InSight.step {past : List (CallStep Status)} {exchange : Exchange Status}
    (hI : InSight past exchange) {event : CallEvent Status}
    (hadmits : ∀ message ∈ event.message?, exchange.Admits message)
    (hone : (exchange.step event).2 ≠ none → exchange.inFlight = []) :
    InSight (past ++ [record Exchange.step exchange event]) (exchange.step event).1 := by
  cases event with
  | sendRequestControl => exact hI.call .requestControl hone
  | queryStatus => exact hI.call .queryStatus hone
  | incoming message => exact hI.incoming (hadmits message rfl)
  | discoverVehicle pdList =>
      have hlost : lostSight (past ++ [record Exchange.step exchange (.discoverVehicle pdList)]) =
          lostSight past := lostSight_concat ..
      refine ⟨hI.atMostOne, ?_⟩
      rw [hlost, hI.lostSight_iff]
      cases pdList with
      | nil => rfl
      | cons valid rest => rfl

/-- With the invariant, a second request is sent exactly by a call that asks while the
first has been lost sight of. -/
theorem InSight.sends_one_iff {past : List (CallStep Status)} {exchange : Exchange Status}
    (hI : InSight past exchange) (event : CallEvent Status) :
    ((exchange.step event).2 ≠ none → exchange.inFlight = []) ↔
      (Asks (record Exchange.step exchange event) → lostSight past = false) := by
  have hlost : lostSight past = false ↔
      ¬(exchange.inFlight ≠ [] ∧ exchange.client.requestPending = false) := by
    rw [← hI.lostSight_iff, Bool.not_eq_true]
  rw [exchange.sends_iff event, hlost]
  constructor
  · rintro hone ⟨hcall, hvalid⟩ ⟨hne, hpending⟩
    exact hne (hone ⟨hcall, hvalid, hpending⟩)
  · rintro hsight ⟨hcall, hvalid, hpending⟩
    by_contra hne
    exact hsight ⟨hcall, hvalid⟩ ⟨hne, hpending⟩

/-- **One at a time.**  In any run from an idle client in which every answer belongs to a
request, no request is sent while another is unanswered exactly if no call with a valid
address is made while a request has been lost sight of: while it is in flight and a status
that is not its answer has come in. -/
theorem one_at_a_time_iff {exchange : Exchange Status} (hidle : exchange.Idle)
    (events : List (CallEvent Status))
    (hadmits : AnswersBelong (history Exchange.step exchange events)) :
    OneAtATime (history Exchange.step exchange events) ↔
      Along (fun past r ↦ Asks r → lostSight past = false)
        (history Exchange.step exchange events) := by
  rw [OneAtATime, ← along_iff_forall]
  exact along_iff_along Exchange.step
    (A := fun _ r ↦ ∀ message ∈ r.input.message?, r.before.Admits message)
    (I := InSight) (inSight_idle hidle) (fun _ _ _ hI hA hC ↦ hI.step hA hC)
    (fun _ _ event hI ↦ hI.sends_one_iff event) events (along_of_forall hadmits)

/-- A client that knows a server and has not asked for anything. -/
def idleExchange : Exchange Unit :=
  ⟨⟨true, false, false, ()⟩, [], []⟩

theorem idle_idleExchange : idleExchange.Idle := ⟨rfl, rfl, rfl⟩

/-- Control is asked for, in vain, and again; then the status. -/
theorem one_at_a_time_answered :
    OneAtATime (history Exchange.step idleExchange
      [.sendRequestControl, .sendRequestControl, .incoming (.requestControlResponse false),
        .incoming (.reportStatus ()), .queryStatus]) := by
  refine (one_at_a_time_iff idle_idleExchange _ ?_).mpr ?_
  · decide
  · decide

/-- Control is asked for, a status comes in, and control is asked for again. -/
theorem two_requests_in_flight :
    let events : List (CallEvent Unit) :=
      [.sendRequestControl, .incoming (.reportStatus ()), .sendRequestControl]
    let h := history Exchange.step idleExchange events
    AnswersBelong h ∧ ¬OneAtATime h ∧
      (final Exchange.step idleExchange events).inFlight = [.requestControl, .requestControl] := by
  intro events h
  refine ⟨by decide, fun hone ↦ ?_, rfl⟩
  exact absurd (hone (h.getLast (List.cons_ne_nil _ _)) (List.getLast_mem _)) (by decide)

/-! ## The flag does not stay set -/

/-- One recorded event, with calls that may be interrupted. -/
abbrev HalfCallStep (Status : Type) :=
  Step (Exchange Status) (HalfCallEvent Status) (Option Request)

/-- No request is ever sent again: the flag is set, and there is nothing left that could
clear it. -/
def Exchange.Wedged (exchange : Exchange Status) : Prop :=
  exchange.calls = [] ∧ exchange.inFlight = [] ∧ exchange.client.requestPending = true

instance (exchange : Exchange Status) : Decidable exchange.Wedged :=
  inferInstanceAs (Decidable (_ ∧ _))

/-- No step leads to a client that is wedged. -/
def NeverWedged (h : List (HalfCallStep Status)) : Prop := ∀ r ∈ h, ¬r.after.Wedged

/-- When the step sets the flag, and no other call is about to, a request is in flight. -/
def SetsInTime (r : HalfCallStep Status) : Prop :=
  r.input.isSetPending = true → r.after.calls = [] → r.before.inFlight ≠ []

instance (r : HalfCallStep Status) : Decidable (SetsInTime r) :=
  inferInstanceAs (Decidable (_ → _ → _))

namespace Exchange

/-- What comes in clears the flag. -/
theorem not_wedged_incoming (exchange : Exchange Status) (message : Incoming Status) :
    ¬(exchange.incoming message).Wedged := by
  rintro ⟨-, -, hpending⟩
  cases message with
  | requestControlResponse accepted => cases hpending
  | reportStatusAnswer status => cases hpending
  | reportStatus status => cases hpending

/-- **One event** leads from a client that is not wedged to another, unless it sets the
flag too late. -/
theorem not_wedged_halfStep_iff {exchange : Exchange Status} (h : ¬exchange.Wedged)
    (event : HalfCallEvent Status) :
    ¬(exchange.halfStep event).1.Wedged ↔ SetsInTime (record halfStep exchange event) := by
  cases event with
  | dispatch request =>
      refine iff_of_true ?_ fun hset ↦ absurd hset Bool.false_ne_true
      rintro ⟨hcalls, hnone, hpending⟩
      obtain ⟨hcalls, -⟩ := List.append_eq_nil_iff.mp hcalls
      obtain ⟨hnone, -⟩ := List.append_eq_nil_iff.mp hnone
      exact h ⟨hcalls, hnone, hpending⟩
  | setPending request =>
      constructor
      · rintro hnot - hcalls hnone
        exact hnot ⟨hcalls, hnone, rfl⟩
      · rintro hintime ⟨hcalls, hnone, -⟩
        exact hintime rfl hcalls hnone
  | incoming message =>
      exact iff_of_true (exchange.not_wedged_incoming message) fun hset ↦
        absurd hset Bool.false_ne_true
  | discoverVehicle pdList =>
      refine iff_of_true ?_ fun hset ↦ absurd hset Bool.false_ne_true
      cases pdList with
      | nil => exact h
      | cons valid rest => exact h

end Exchange

/-- A client that is wedged sends nothing, and stays wedged unless a status comes in that
nobody has asked for. -/
theorem Exchange.Wedged.halfStep {exchange : Exchange Status} (h : exchange.Wedged)
    {event : HalfCallEvent Status}
    (hadmits : ∀ message ∈ event.message?, exchange.Admits message ∧
      ∀ status, message ≠ .reportStatus status) :
    (exchange.halfStep event).1.Wedged ∧ (exchange.halfStep event).2 = none := by
  obtain ⟨hcalls, hnone, hpending⟩ := h
  cases event with
  | dispatch request =>
      have hsent : (exchange.client.dispatch request).1 = none := by
        rw [exchange.client.dispatch_fst request, if_neg fun hsends ↦ ?_]
        exact Bool.false_ne_true (hsends.2.symm.trans hpending)
      refine ⟨⟨?_, ?_, hpending⟩, hsent⟩
      · change exchange.calls ++ (exchange.client.dispatch request).1.toList = []
        rw [hcalls, hsent]
        rfl
      · change exchange.inFlight ++ (exchange.client.dispatch request).1.toList = []
        rw [hnone, hsent]
        rfl
  | setPending request =>
      refine ⟨⟨?_, hnone, rfl⟩, rfl⟩
      change exchange.calls.erase request = []
      rw [hcalls]
      rfl
  | incoming message =>
      obtain ⟨hadmits, hstatus⟩ := hadmits message rfl
      cases message with
      | requestControlResponse accepted =>
          have hmem : .requestControl ∈ exchange.inFlight := hadmits
          rw [hnone] at hmem
          cases hmem
      | reportStatusAnswer status =>
          have hmem : .queryStatus ∈ exchange.inFlight := hadmits
          rw [hnone] at hmem
          cases hmem
      | reportStatus status => exact absurd rfl (hstatus status)
  | discoverVehicle pdList =>
      cases pdList with
      | nil => exact ⟨⟨hcalls, hnone, hpending⟩, rfl⟩
      | cons valid rest => exact ⟨⟨hcalls, hnone, hpending⟩, rfl⟩

/-- **Never wedged.**  In any run from an idle client, with calls that may be interrupted,
the client is never wedged exactly if whenever a call sets the flag, and no other call is
about to, a request is still unanswered. -/
theorem never_wedged_iff {exchange : Exchange Status} (hidle : exchange.Idle)
    (events : List (HalfCallEvent Status)) :
    NeverWedged (history Exchange.halfStep exchange events) ↔
      ∀ r ∈ history Exchange.halfStep exchange events, SetsInTime r := by
  have hinit : ¬exchange.Wedged := fun h ↦ Bool.false_ne_true (hidle.notPending.symm.trans h.2.2)
  rw [NeverWedged, ← along_iff_forall, ← along_iff_forall]
  exact along_iff_along Exchange.halfStep (A := fun _ _ ↦ True) (I := fun _ e ↦ ¬e.Wedged) hinit
    (fun _ _ _ _ _ hnot ↦ hnot) (fun _ _ event hI ↦ Exchange.not_wedged_halfStep_iff hI event)
    events (along_of_forall fun _ _ ↦ trivial)

/-- The status is asked for, and the answer comes in after the flag has been set. -/
theorem never_wedged_in_time :
    NeverWedged (history Exchange.halfStep idleExchange
      [.dispatch .queryStatus, .setPending .queryStatus, .incoming (.reportStatusAnswer ())]) :=
  (never_wedged_iff idle_idleExchange _).mpr (by decide)

/-- Control is asked for, the answer comes in, and then the flag is set. -/
theorem flag_set_too_late :
    let events : List (HalfCallEvent Unit) := [.dispatch .requestControl,
      .incoming (.requestControlResponse true), .setPending .requestControl]
    (∀ r ∈ history Exchange.halfStep idleExchange events,
        ∀ message ∈ r.input.message?, r.before.Admits message) ∧
      (final Exchange.halfStep idleExchange events).Wedged := by
  decide

end FortAgent.Jaus
