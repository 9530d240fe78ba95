import FortAgent.Lib.Transducer

/-!
# A queue with one worker behind a condition variable

Any number of threads post messages to a queue; one worker takes them off and
handles them.  The queue and a flag `running` are guarded by a mutex, and a
condition variable wakes the worker.  A poster pushes under the lock and
notifies after it has let the lock go; the worker tests the flag at the top of
its loop, takes the lock, sleeps while there is nothing to do, takes one
message, lets the lock go and handles it:

    while running {
      lock; wait until the queue is non-empty or not running;
      if not running, leave; pop; unlock;
      handle
    }

A critical section is one action, and so is what a thread does between two of
them; an action that is not enabled does nothing, so every list of actions is a
schedule.  `Monitor.notifies` counts the threads that have left their critical
section and not yet notified.  Testing the condition and falling asleep are one
action, because the condition variable lets the lock go as it puts its caller
to sleep; and a sleeping worker may also wake up for no reason.

## Main results

* `pending_append_posted`: nothing is lost, repeated or overtaken.
* `guarded_final`: no wakeup is lost.
* `take_pending_prefix_handled`: a message is handled within three steps of the
  worker for it and each message before it.
* `pending_of_stopped`, `ended_of_stopped`: a stopped worker takes nothing more,
  and leaves its loop within two steps.
-/

namespace ServiceQueue

open Transducer

variable {μ : Type*}

/-- Where the worker is between two of its actions. -/
inductive Place (μ : Type*)
  /-- About to test the flag. -/
  | loopTop
  /-- About to take the lock, or waking up to take it again. -/
  | acquiring
  /-- Asleep. -/
  | waiting
  /-- Holding a message taken off the queue. -/
  | handling (m : μ)
  /-- Out of the loop. -/
  | ended
deriving DecidableEq, Repr

/-- The queue, its flag, the worker, and the notifications still to come. -/
structure Monitor (μ : Type*) where
  queue : List μ
  running : Bool
  place : Place μ
  notifies : ℕ
deriving DecidableEq, Repr

inductive Action (μ : Type*)
  /-- A thread pushes a message. -/
  | post (m : μ)
  /-- A thread gets ready to notify without having pushed anything. -/
  | nudge
  /-- A thread clears the flag. -/
  | stop
  /-- A thread that still has to notify does so. -/
  | notify
  /-- The worker wakes up for no reason. -/
  | wake
  /-- The worker takes its next step. -/
  | work
deriving DecidableEq, Repr

/-- What an action leaves in the record of a run. -/
inductive Event (μ : Type*)
  | posted (m : μ)
  | handled (m : μ)
deriving DecidableEq, Repr

/-- The message in the worker's hands. -/
def Place.inHand : Place μ → Option μ
  | .handling m => some m
  | _ => none

/-- Where a signal leaves the worker: it only matters to a sleeper. -/
def Place.signal : Place μ → Place μ
  | .waiting => .acquiring
  | p => p

namespace Monitor

/-- The messages not yet handled, oldest first. -/
def pending (s : Monitor μ) : List μ := s.place.inHand.toList ++ s.queue

/-- The next step of the worker. -/
def work (s : Monitor μ) : Monitor μ × Option (Event μ) :=
  match s.place with
  | .loopTop => ({ s with place := if s.running then .acquiring else .ended }, none)
  | .acquiring =>
    if s.running then
      match s.queue with
      | [] => ({ s with place := .waiting }, none)
      | m :: rest => ({ s with queue := rest, place := .handling m }, none)
    else ({ s with place := .ended }, none)
  | .handling m => ({ s with place := .loopTop }, some (.handled m))
  | .waiting => (s, none)
  | .ended => (s, none)

def step (s : Monitor μ) : Action μ → Monitor μ × Option (Event μ)
  | .post m => ({ s with queue := s.queue ++ [m], notifies := s.notifies + 1 }, some (.posted m))
  | .nudge => ({ s with notifies := s.notifies + 1 }, none)
  | .stop => ({ s with running := false, notifies := s.notifies + 1 }, none)
  | .notify =>
    if s.notifies = 0 then (s, none)
    else ({ s with place := s.place.signal, notifies := s.notifies - 1 }, none)
  | .wake => ({ s with place := s.place.signal }, none)
  | .work => s.work

end Monitor

/-- One recorded action. -/
abbrev MonitorStep (μ : Type*) := Step (Monitor μ) (Action μ) (Option (Event μ))

/-- The message an event posted. -/
def Event.message? : Event μ → Option μ
  | .posted m => some m
  | .handled _ => none

/-- The message an event handled. -/
def Event.handled? : Event μ → Option μ
  | .posted _ => none
  | .handled m => some m

/-- The messages posted in a run, oldest first. -/
def posted (h : List (MonitorStep μ)) : List μ :=
  h.filterMap fun r ↦ r.output.bind Event.message?

/-- The messages handled in a run, oldest first. -/
def handled (h : List (MonitorStep μ)) : List μ :=
  h.filterMap fun r ↦ r.output.bind Event.handled?

@[simp] theorem posted_nil : posted ([] : List (MonitorStep μ)) = [] := rfl

@[simp] theorem handled_nil : handled ([] : List (MonitorStep μ)) = [] := rfl

theorem handled_append (h₁ h₂ : List (MonitorStep μ)) :
    handled (h₁ ++ h₂) = handled h₁ ++ handled h₂ := List.filterMap_append

theorem posted_cons (r : MonitorStep μ) (h : List (MonitorStep μ)) :
    posted (r :: h) = (r.output.bind Event.message?).toList ++ posted h := by
  rw [posted, List.filterMap_cons]
  cases r.output.bind Event.message? <;> rfl

theorem handled_cons (r : MonitorStep μ) (h : List (MonitorStep μ)) :
    handled (r :: h) = (r.output.bind Event.handled?).toList ++ handled h := by
  rw [handled, List.filterMap_cons]
  cases r.output.bind Event.handled? <;> rfl

@[simp] theorem inHand_handling (m : μ) : (Place.handling m).inHand = some m := rfl

@[simp] theorem inHand_ended : (Place.ended : Place μ).inHand = none := rfl

@[simp] theorem inHand_signal (p : Place μ) : p.signal.inHand = p.inHand := by
  cases p <;> rfl

/-! ## What a step of the worker can do -/

namespace Monitor

/-- A step of the worker, by where it is. -/
theorem work_cases (s : Monitor μ) :
    (s.place = .loopTop ∧ s.running = true ∧ s.work = ({ s with place := .acquiring }, none)) ∨
    ((s.place = .loopTop ∨ s.place = .acquiring) ∧ s.running = false ∧
      s.work = ({ s with place := .ended }, none)) ∨
    (s.place = .acquiring ∧ s.running = true ∧ s.queue = [] ∧
      s.work = ({ s with place := .waiting }, none)) ∨
    (∃ m rest, s.place = .acquiring ∧ s.running = true ∧ s.queue = m :: rest ∧
      s.work = ({ s with queue := rest, place := .handling m }, none)) ∨
    (∃ m, s.place = .handling m ∧
      s.work = ({ s with place := .loopTop }, some (.handled m))) ∨
    ((s.place = .waiting ∨ s.place = .ended) ∧ s.work = (s, none)) := by
  obtain ⟨queue, running, place, notifies⟩ := s
  cases place with
  | loopTop => cases running <;> simp [work]
  | acquiring =>
      cases running with
      | false => simp [work]
      | true => cases queue <;> simp [work]
  | waiting => simp [work]
  | handling m => simp [work]
  | ended => simp [work]

/-- A step of the worker handles the message it holds, if it holds one. -/
theorem output_work (s : Monitor μ) : s.work.2 = s.place.inHand.map Event.handled := by
  rcases s.work_cases with ⟨hp, -, hs⟩ | ⟨hp | hp, -, hs⟩ | ⟨hp, -, -, hs⟩ |
    ⟨m, rest, hp, -, -, hs⟩ | ⟨m, hp, hs⟩ | ⟨hp | hp, hs⟩
  all_goals rw [hs, hp]; rfl

/-! ## Nothing is lost, repeated or overtaken -/

/-- What is pending before an action, and what it posts, is what it handles and
what is pending after it. -/
theorem pending_step (s : Monitor μ) (a : Action μ) :
    s.pending ++ ((s.step a).2.bind Event.message?).toList =
      ((s.step a).2.bind Event.handled?).toList ++ (s.step a).1.pending := by
  cases a with
  | post m => simp [step, pending, Event.message?, Event.handled?]
  | nudge => simp [step, pending]
  | stop => simp [step, pending]
  | notify =>
      rw [step]
      split_ifs <;> simp [pending]
  | wake => simp [step, pending]
  | work =>
      rw [step]
      rcases s.work_cases with ⟨hp, -, hs⟩ | ⟨hp | hp, -, hs⟩ | ⟨hp, -, hq, hs⟩ |
        ⟨m, rest, hp, -, hq, hs⟩ | ⟨m, hp, hs⟩ | ⟨-, hs⟩
      all_goals rw [hs]; simp [pending, Place.inHand, Event.message?, Event.handled?, *]

/-- **Nothing is lost, repeated or overtaken**: in every run the messages
handled, and then those pending, are those pending at the start, and then those
posted. -/
theorem pending_append_posted (s : Monitor μ) (as : List (Action μ)) :
    s.pending ++ posted (history step s as) =
      handled (history step s as) ++ (final step s as).pending := by
  induction as generalizing s with
  | nil => simp
  | cons a as ih =>
      rw [history_cons, posted_cons, handled_cons, final_cons, record_output, ← List.append_assoc,
        pending_step, List.append_assoc, ih, List.append_assoc]

/-! ## No wakeup is lost -/

/-- A worker that sleeps although it has something to do is about to be
notified. -/
def Guarded (s : Monitor μ) : Prop :=
  s.place = .waiting → s.queue ≠ [] ∨ s.running = false → 0 < s.notifies

theorem signal_ne_waiting (p : Place μ) : p.signal ≠ .waiting := by
  cases p <;> simp [Place.signal]

theorem guarded_step {s : Monitor μ} (h : s.Guarded) (a : Action μ) : (s.step a).1.Guarded := by
  cases a with
  | post m => exact fun _ _ ↦ Nat.succ_pos _
  | nudge => exact fun _ _ ↦ Nat.succ_pos _
  | stop => exact fun _ _ ↦ Nat.succ_pos _
  | notify =>
      rw [step]
      split_ifs
      · exact h
      · exact fun hp ↦ absurd hp (signal_ne_waiting _)
  | wake => exact fun hp ↦ absurd hp (signal_ne_waiting _)
  | work =>
      rw [step]
      rcases s.work_cases with ⟨-, -, hs⟩ | ⟨-, -, hs⟩ | ⟨-, hr, hq, hs⟩ |
        ⟨m, rest, -, -, -, hs⟩ | ⟨m, -, hs⟩ | ⟨-, hs⟩
      · rw [hs]; exact nofun
      · rw [hs]; exact nofun
      · -- the worker falls asleep, but has just found nothing to do
        rw [hs]
        intro _ hbusy
        simp [hq, hr] at hbusy
      · rw [hs]; exact nofun
      · rw [hs]; exact nofun
      · rwa [hs]

/-- **No wakeup is lost.** -/
theorem guarded_final {s : Monitor μ} (h : s.Guarded) (as : List (Action μ)) :
    (final step s as).Guarded :=
  final_invariant step h (fun _ a ht ↦ guarded_step ht a) as

end Monitor

/-! ## Every message is handled -/

def Action.isWork : Action μ → Bool
  | .work => true
  | _ => false

/-- How often the worker gets to take a step. -/
def workerSteps (as : List (Action μ)) : ℕ := as.countP Action.isWork

/-- The worker is neither asleep nor out of its loop. -/
def Place.Awake : Place μ → Prop
  | .waiting | .ended => False
  | _ => True

/-- The steps in which a worker that is awake handles the next `n` messages. -/
def Place.stepsFor (n : ℕ) : Place μ → ℕ
  | .handling _ => 3 * n - 2
  | .acquiring => 3 * n - 1
  | _ => 3 * n

namespace Monitor

theorem signal_of_ne_waiting {p : Place μ} (hp : p ≠ .waiting) : p.signal = p := by
  cases p with
  | waiting => exact absurd rfl hp
  | _ => rfl

theorem ne_waiting_of_awake {p : Place μ} (h : p.Awake) : p ≠ .waiting := by
  rintro rfl
  exact h

/-- While nobody stops it, the flag stays up. -/
theorem running_step {s : Monitor μ} {a : Action μ} (ha : a ≠ .stop) :
    (s.step a).1.running = s.running := by
  cases a with
  | stop => exact absurd rfl ha
  | notify => rw [step]; split_ifs <;> rfl
  | work =>
      rw [step]
      rcases s.work_cases with ⟨-, -, hs⟩ | ⟨-, -, hs⟩ | ⟨-, -, -, hs⟩ |
        ⟨m, rest, -, -, -, hs⟩ | ⟨m, -, hs⟩ | ⟨-, hs⟩
      all_goals rw [hs]
  | _ => rfl

/-- An action of another thread handles nothing, and changes nothing for a worker
that does not sleep, except that it may find more behind its messages. -/
theorem step_of_not_isWork {s : Monitor μ} {a : Action μ} (ha : a.isWork = false)
    (hp : s.place ≠ .waiting) :
    (s.step a).1.place = s.place ∧ s.pending <+: (s.step a).1.pending ∧
      (s.step a).2.bind Event.handled? = none := by
  cases a with
  | work => cases ha
  | post m => exact ⟨rfl, ⟨[m], List.append_assoc ..⟩, rfl⟩
  | nudge => exact ⟨rfl, List.prefix_rfl, rfl⟩
  | stop => exact ⟨rfl, List.prefix_rfl, rfl⟩
  | notify =>
      rw [step]
      split_ifs
      · exact ⟨rfl, List.prefix_rfl, rfl⟩
      · exact ⟨signal_of_ne_waiting hp, by simp [pending], rfl⟩
  | wake => exact ⟨signal_of_ne_waiting hp, by simp [step, pending], rfl⟩

/-- A step of a worker that is awake and has `n + 1` messages before it: it comes
one step closer to them, or has handled the first and has `n` more to go. -/
theorem work_of_awake {s : Monitor μ} {n : ℕ} (hrunning : s.running = true)
    (hawake : s.place.Awake) (hn : n + 1 ≤ s.pending.length) :
    (s.work.1.pending = s.pending ∧ s.work.2 = none ∧ s.work.1.place.Awake ∧
      s.work.1.place.stepsFor (n + 1) + 1 = s.place.stepsFor (n + 1)) ∨
    ∃ m rest, s.pending = m :: rest ∧ s.work.1.pending = rest ∧ s.work.2 = some (.handled m) ∧
      s.work.1.place.Awake ∧ s.work.1.place.stepsFor n + 1 = s.place.stepsFor (n + 1) := by
  rcases s.work_cases with ⟨hp, -, hs⟩ | ⟨-, hr, -⟩ | ⟨hp, -, hq, hs⟩ |
    ⟨m, rest, hp, -, hq, hs⟩ | ⟨m, hp, hs⟩ | ⟨hp | hp, -⟩
  · left
    simp [hs, hp, pending, Place.inHand, Place.Awake, Place.stepsFor]
    omega
  · simp [hrunning] at hr
  · -- it has messages before it, so the queue cannot be empty
    simp [pending, hp, hq, Place.inHand] at hn
  · left
    simp [hs, hp, hq, pending, Place.inHand, Place.Awake, Place.stepsFor]
    omega
  · right
    refine ⟨m, s.queue, ?_, ?_, ?_, ?_, ?_⟩
    · simp [hp, pending, Place.inHand]
    · simp [hs, pending, Place.inHand]
    · rw [hs]
    · rw [hs]; trivial
    · simp only [hs, hp, Place.stepsFor]
      omega
  · simp [hp, Place.Awake] at hawake
  · simp [hp, Place.Awake] at hawake

/-- A worker that is awake and has `n` messages before it handles them in
`stepsFor n` steps, whatever the other threads do. -/
theorem take_pending_prefix_of_awake {s : Monitor μ} {n : ℕ} {as : List (Action μ)}
    (hrunning : s.running = true) (hawake : s.place.Awake) (hn : n ≤ s.pending.length)
    (hstop : ∀ a ∈ as, a ≠ .stop) (hsteps : s.place.stepsFor n ≤ workerSteps as) :
    s.pending.take n <+: handled (history step s as) := by
  induction as generalizing s n with
  | nil =>
      have hzero : n = 0 := by
        rw [workerSteps, List.countP_nil] at hsteps
        cases hplace : s.place with
        | waiting => simp [hplace, Place.Awake] at hawake
        | ended => simp [hplace, Place.Awake] at hawake
        | _ => simp only [hplace, Place.stepsFor] at hsteps; omega
      rw [hzero, List.take_zero]
      exact List.nil_prefix
  | cons a as ih =>
      obtain ⟨hne, hrest⟩ := List.forall_mem_cons.mp hstop
      have hrunning' : (s.step a).1.running = true := (running_step hne).trans hrunning
      rw [history_cons, handled_cons, record_output]
      cases ha : a.isWork with
      | false =>
          obtain ⟨hplace, ⟨more, hmore⟩, hout⟩ := step_of_not_isWork ha (ne_waiting_of_awake hawake)
          rw [workerSteps, List.countP_cons_of_neg (by simp [ha])] at hsteps
          have htake := ih hrunning' (hplace ▸ hawake)
            (by rw [← hmore, List.length_append]; omega) hrest (hplace ▸ hsteps)
          rw [← hmore, List.take_append_of_le_length hn] at htake
          rw [hout]
          exact htake
      | true =>
          obtain rfl : a = .work := by cases a <;> first | rfl | cases ha
          rw [workerSteps, List.countP_cons_of_pos rfl, ← workerSteps] at hsteps
          cases n with
          | zero => exact List.nil_prefix
          | succ n =>
              rcases work_of_awake hrunning hawake hn with
                ⟨hpending, hout, hawake', hcount⟩ |
                ⟨m, rest, hpending, htail, hout, hawake', hcount⟩
              · have htake := ih (n := n + 1) hrunning' hawake'
                  (by rw [step, hpending]; omega) hrest (by rw [step]; omega)
                rw [step, hout]
                rwa [step, hpending] at htake
              · have hn' : n ≤ rest.length := by simpa [hpending] using hn
                have htake := ih (n := n) hrunning' hawake' (by rw [step, htail]; exact hn') hrest
                  (by rw [step]; omega)
                rw [step, htail] at htake
                rw [step, hout, hpending, List.take_succ_cons]
                exact List.cons_prefix_cons.mpr ⟨rfl, htake⟩

/-- Once somebody has notified, a worker in its loop is awake, unless there is
nothing to do. -/
theorem awake_or_idle_of_notify {s : Monitor μ} (h : s.Guarded) (hended : s.place ≠ .ended) :
    (s.step .notify).1.place.Awake ∨
      (s.step .notify).1.pending = [] ∧ (s.step .notify).1.running = true := by
  rw [step]
  cases hplace : s.place with
  | ended => exact absurd hplace hended
  | waiting =>
      split_ifs with hnotifies
      · -- the one notification it could have missed came before it fell asleep
        have hidle : ¬(s.queue ≠ [] ∨ s.running = false) := fun hbusy ↦
          Nat.ne_of_gt (h hplace hbusy) hnotifies
        simp only [not_or, ne_eq, not_not, Bool.not_eq_false] at hidle
        exact .inr ⟨by simp [pending, hplace, hidle.1, Place.inHand], hidle.2⟩
      · exact .inl trivial
  | _ => split_ifs <;> simp [hplace, Place.signal, Place.Awake]

/-- Once stopped, a worker takes no message: it only finishes the one it holds. -/
theorem stopped_step {s : Monitor μ} (hstopped : s.running = false) (a : Action μ) :
    (s.step a).1.running = false ∧
      (s.step a).1.queue = s.queue ++ ((s.step a).2.bind Event.message?).toList ∧
      ((s.step a).2.bind Event.handled?).toList ++ (s.step a).1.place.inHand.toList =
        s.place.inHand.toList := by
  cases a with
  | post m => exact ⟨hstopped, rfl, rfl⟩
  | nudge => exact ⟨hstopped, (List.append_nil _).symm, rfl⟩
  | stop => exact ⟨rfl, (List.append_nil _).symm, rfl⟩
  | notify =>
      rw [step]
      split_ifs
      · exact ⟨hstopped, (List.append_nil _).symm, rfl⟩
      · exact ⟨hstopped, (List.append_nil _).symm, by simp⟩
  | wake => exact ⟨hstopped, (List.append_nil _).symm, by simp [step]⟩
  | work =>
      rw [step]
      rcases s.work_cases with ⟨-, hr, -⟩ | ⟨hp | hp, -, hs⟩ | ⟨-, hr, -⟩ |
        ⟨m, rest, -, hr, -⟩ | ⟨m, hp, hs⟩ | ⟨-, hs⟩
      · simp [hstopped] at hr
      · simp [hs, hp, hstopped, Place.inHand]
      · simp [hs, hp, hstopped, Place.inHand]
      · simp [hstopped] at hr
      · simp [hstopped] at hr
      · simp [hs, hp, hstopped, Place.inHand, Event.message?, Event.handled?]
      · simp [hs, hstopped]

/-- A worker that has not been stopped is in its loop. -/
def InLoop (s : Monitor μ) : Prop := s.running = true → s.place ≠ .ended

theorem ne_ended_step {s : Monitor μ} (hrunning : s.running = true) (hended : s.place ≠ .ended)
    (a : Action μ) : (s.step a).1.place ≠ .ended := by
  have hsignal : s.place.signal ≠ .ended := by
    cases hplace : s.place with
    | ended => exact absurd hplace hended
    | _ => exact nofun
  cases a with
  | notify => rw [step]; split_ifs; exacts [hended, hsignal]
  | wake => exact hsignal
  | work =>
      rw [step]
      rcases s.work_cases with ⟨-, -, hs⟩ | ⟨-, hr, -⟩ | ⟨-, -, -, hs⟩ |
        ⟨m, rest, -, -, -, hs⟩ | ⟨m, -, hs⟩ | ⟨-, hs⟩
      · rw [hs]; exact nofun
      · simp [hrunning] at hr
      · rw [hs]; exact nofun
      · rw [hs]; exact nofun
      · rw [hs]; exact nofun
      · rwa [hs]
  | _ => exact hended

theorem running_final {s : Monitor μ} {as : List (Action μ)} (hstop : ∀ a ∈ as, a ≠ .stop) :
    (final step s as).running = s.running := by
  induction as generalizing s with
  | nil => rfl
  | cons a as ih =>
      obtain ⟨hne, hrest⟩ := List.forall_mem_cons.mp hstop
      rw [final_cons, ih hrest, running_step hne]

theorem inLoop_final {s : Monitor μ} (h : s.InLoop) (as : List (Action μ)) :
    (final step s as).InLoop := by
  refine final_invariant step h (fun t a ht hrunning ↦ ?_) as
  cases ht' : t.running with
  | true => exact ne_ended_step ht' (ht ht') a
  | false =>
      rw [(stopped_step ht' a).1] at hrunning
      cases hrunning

/-- **Every message is handled**: of the messages that are pending, the first
`n` have been handled once a thread has notified and the worker has then taken
`3 * n` steps, whatever else happens before, between and after. -/
theorem take_pending_prefix_handled {s : Monitor μ} {n : ℕ} {before after : List (Action μ)}
    (hrunning : s.running = true) (hguarded : s.Guarded) (hloop : s.InLoop)
    (hn : n ≤ s.pending.length) (hstop : ∀ a ∈ before ++ .notify :: after, a ≠ .stop)
    (hsteps : 3 * n ≤ workerSteps after) :
    s.pending.take n <+: handled (history step s (before ++ .notify :: after)) := by
  rw [List.append_cons] at hstop ⊢
  obtain ⟨hbefore, hafter⟩ := List.forall_mem_append.mp hstop
  have hfifo := pending_append_posted s (before ++ [.notify])
  have hlength := congrArg List.length hfifo
  have hawake : (final step s (before ++ [.notify])).place.Awake ∨
      (final step s (before ++ [.notify])).pending = [] ∧
        (final step s (before ++ [.notify])).running = true := by
    have hrunning : (final step s before).running = true :=
      (running_final fun a ha ↦ hbefore a (List.mem_append_left _ ha)).trans hrunning
    rw [final_append]
    exact awake_or_idle_of_notify (guarded_final hguarded before)
      (inLoop_final hloop before hrunning)
  have hrunning' := (running_final hbefore).trans hrunning
  rw [history_append, handled_append]
  -- `first` is what the run up to the notification handles, `t` where it ends
  generalize handled (history step s (before ++ [.notify])) = first at hfifo hlength ⊢
  generalize final step s (before ++ [.notify]) = t at hfifo hlength hawake hrunning' ⊢
  simp only [List.length_append] at hlength
  have hrest : t.pending.take (n - first.length) <+: handled (history step t after) := by
    rcases hawake with hawake | ⟨hidle, -⟩
    · refine take_pending_prefix_of_awake hrunning' hawake (by omega) hafter
        (Nat.le_trans ?_ hsteps)
      cases hplace : t.place <;> simp only [Place.stepsFor] <;> omega
    · rw [hidle, List.take_nil]
      exact List.nil_prefix
  have htake : s.pending.take n = first.take n ++ t.pending.take (n - first.length) := by
    rw [← List.take_append, ← hfifo, List.take_append_of_le_length hn]
  rw [htake]
  rcases Nat.le_total first.length n with hle | hle
  · rw [List.take_of_length_le hle]
    exact (List.prefix_append_right_inj first).mpr hrest
  · rw [Nat.sub_eq_zero_of_le hle, List.take_zero, List.append_nil]
    exact (List.take_prefix n first).trans (List.prefix_append ..)

/-! ## Stopping -/

/-- **A stopped worker takes nothing more**: it handles at most the message it
holds, and what is posted stays in the queue. -/
theorem pending_of_stopped {s : Monitor μ} (hstopped : s.running = false) (as : List (Action μ)) :
    (final step s as).queue = s.queue ++ posted (history step s as) ∧
      handled (history step s as) ++ (final step s as).place.inHand.toList =
        s.place.inHand.toList := by
  induction as generalizing s with
  | nil => simp
  | cons a as ih =>
      obtain ⟨hrunning, hqueue, hhand⟩ := stopped_step hstopped a
      obtain ⟨ihqueue, ihhand⟩ := ih hrunning
      rw [history_cons, posted_cons, handled_cons, final_cons, record_output]
      exact ⟨by rw [ihqueue, hqueue, List.append_assoc], by rw [List.append_assoc, ihhand, hhand]⟩

/-- The steps in which a stopped worker leaves its loop, unless it sleeps. -/
def stepsToEnd : Place μ → ℕ
  | .handling _ => 2
  | .loopTop | .acquiring => 1
  | .waiting | .ended => 0

/-- A step of a stopped worker that does not sleep brings it closer to the end. -/
theorem work_of_stopped {s : Monitor μ} (hstopped : s.running = false)
    (hp : s.place ≠ .waiting) :
    s.work.1.place ≠ .waiting ∧ stepsToEnd s.work.1.place = stepsToEnd s.place - 1 := by
  rcases s.work_cases with ⟨-, hr, -⟩ | ⟨hp | hp, -, hs⟩ | ⟨-, hr, -⟩ |
    ⟨m, rest, -, hr, -⟩ | ⟨m, hp, hs⟩ | ⟨hp' | hp, hs⟩
  · simp [hstopped] at hr
  · simp [hs, hp, stepsToEnd]
  · simp [hs, hp, stepsToEnd]
  · simp [hstopped] at hr
  · simp [hstopped] at hr
  · simp [hs, hp, stepsToEnd]
  · exact absurd hp' hp
  · simp [hs, hp, stepsToEnd]

/-- A stopped worker that does not sleep leaves its loop in `stepsToEnd` steps,
whatever the other threads do. -/
theorem ended_of_ne_waiting {s : Monitor μ} {as : List (Action μ)}
    (hstopped : s.running = false) (hp : s.place ≠ .waiting)
    (hsteps : stepsToEnd s.place ≤ workerSteps as) : (final step s as).place = .ended := by
  induction as generalizing s with
  | nil =>
      rw [workerSteps, List.countP_nil] at hsteps
      cases hplace : s.place with
      | ended => exact hplace
      | waiting => exact absurd hplace hp
      | _ => simp [hplace, stepsToEnd] at hsteps
  | cons a as ih =>
      have hstopped' := (stopped_step hstopped a).1
      cases ha : a.isWork with
      | false =>
          obtain ⟨hplace, -⟩ := step_of_not_isWork ha hp
          rw [workerSteps, List.countP_cons_of_neg (by simp [ha])] at hsteps
          exact ih hstopped' (hplace ▸ hp) (hplace ▸ hsteps)
      | true =>
          obtain rfl : a = .work := by cases a <;> first | rfl | cases ha
          obtain ⟨hp', hcount⟩ := work_of_stopped hstopped hp
          rw [workerSteps, List.countP_cons_of_pos rfl, ← workerSteps] at hsteps
          exact ih hstopped' hp' (by rw [step, hcount]; omega)

/-- **A stopped worker leaves its loop**, once a thread has notified and the
worker has then taken two steps. -/
theorem ended_of_stopped {s : Monitor μ} {before after : List (Action μ)}
    (hstopped : s.running = false) (hguarded : s.Guarded) (hsteps : 2 ≤ workerSteps after) :
    (final step s (before ++ .notify :: after)).place = .ended := by
  have hstopped' : (final step s before).running = false :=
    final_invariant step (I := fun t ↦ t.running = false) hstopped
      (fun _ a h ↦ (stopped_step h a).1) before
  rw [final_append, final_cons]
  refine ended_of_ne_waiting (stopped_step hstopped' .notify).1 ?_ (Nat.le_trans ?_ hsteps)
  · rw [step]
    split_ifs with hnotifies
    · -- nobody is left to notify, so the worker does not sleep
      exact fun hp ↦ Nat.ne_of_gt (guarded_final hguarded before hp (.inr hstopped')) hnotifies
    · exact signal_ne_waiting _
  · cases (step (final step s before) .notify).1.place <;> simp [stepsToEnd]

end Monitor

end ServiceQueue
