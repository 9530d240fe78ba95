import FortAgent.Serial.Handler

/-!
# The transmit queue

Sending puts bytes into the write buffer, and the serial port takes them out of it:
it is given a region of the array, writes some of the bytes it finds there, and
calls back, upon which they are erased and the next region is handed out.  Between
the two, more bytes may be added.

`transmit_queue_fifo` says that this is a queue.  The invariant (`Consistent`) is
that the port has been given at most one region, and that this region begins where
the queue begins; then it holds the first bytes of the queue, whatever is added
behind them.
-/

namespace FortAgent.Serial

open Transducer

/-! ## The handler and the port -/

/-- The callback of `async_write_some`, with whether there was an error. -/
def SerialHandler.asyncWriteToSerialPortCb (handler : SerialHandler) (ec : Bool)
    (bytesTransferred : Nat) : SerialHandler :=
  if ec then { handler with writeInProgress := false }
  else
    let handler :=
      { handler with writeBuffer := handler.writeBuffer.eraseBegin bytesTransferred }
    if handler.writeBuffer.size = 0 then { handler with writeInProgress := false }
    else handler.asyncWriteSome

/-- What happens to a handler: data is sent, or the port reports on a region, that it
has written some bytes of it or that it has failed. -/
inductive PortEvent
  | send (data : List UInt8)
  | written (bytesTransferred : Nat)
  | failed
deriving DecidableEq, Repr

/-- The bytes that have entered the queue at an event, and those that the port has
written. -/
structure PortTraffic where
  accepted : List UInt8
  wired : List UInt8
deriving DecidableEq, Repr

/-- An event.  The port reports on the region it was given last, and writes what is
in the array then. -/
def SerialHandler.portStep (handler : SerialHandler) : PortEvent → SerialHandler × PortTraffic
  | .send data =>
    let sent := handler.asyncSendDataToSerialPort data
    (sent.1, ⟨data.take sent.2, []⟩)
  | .written bytesTransferred =>
    match handler.writes with
    | [] => (handler, ⟨[], []⟩)
    | region :: writes =>
      ({ handler with writes := writes }.asyncWriteToSerialPortCb false bytesTransferred,
        ⟨[], handler.writeBuffer.region region.1 bytesTransferred⟩)
  | .failed =>
    match handler.writes with
    | [] => (handler, ⟨[], []⟩)
    | _ :: writes => ({ handler with writes := writes }.asyncWriteToSerialPortCb true 0, ⟨[], []⟩)

/-- What the environment keeps to: data is not empty, and the port reports on a
region it was given, from which it has written at least one byte. -/
def SerialHandler.Admits (handler : SerialHandler) : PortEvent → Prop
  | .send data => data ≠ []
  | .written bytesTransferred =>
    ∃ region ∈ handler.writes.head?, 1 ≤ bytesTransferred ∧ bytesTransferred ≤ region.2
  | .failed => handler.writes ≠ []

instance (handler : SerialHandler) : (event : PortEvent) → Decidable (handler.Admits event)
  | .send data => inferInstanceAs (Decidable (data ≠ []))
  | .written bytesTransferred =>
    inferInstanceAs (Decidable (∃ region ∈ handler.writes.head?,
      1 ≤ bytesTransferred ∧ bytesTransferred ≤ region.2))
  | .failed => inferInstanceAs (Decidable (handler.writes ≠ []))

/-! ## The invariant -/

namespace SerialHandler

/-- The port has been given one region, from the beginning of the queue on, and the
flag says so; or it has been given none. -/
structure Consistent (handler : SerialHandler) : Prop where
  operational : handler.state = .operational
  writes : handler.writeInProgress = false ∧ handler.writes = [] ∨
    handler.writeInProgress = true ∧ ∃ n, handler.writes = [(handler.writeBuffer.first, n)] ∧
      0 < n ∧ n ≤ handler.writeBuffer.size ∧ handler.writeBuffer.first + n ≤ txBufferSize

variable {handler : SerialHandler}

/-- Handing out a region of a buffer that is not empty. -/
theorem consistent_asyncWriteSome (hstate : handler.state = .operational)
    (hprogress : handler.writeInProgress = true) (hwrites : handler.writes = [])
    (hsize : 0 < handler.writeBuffer.size) : handler.asyncWriteSome.Consistent where
  operational := hstate
  writes := by
    have hfirst := handler.writeBuffer.first_lt
    refine .inr ⟨hprogress, handler.writeBuffer.arrayOne.2, ?_, ?_, Nat.min_le_left .., ?_⟩
    · rw [asyncWriteSome, hwrites]
      rfl
    · exact Nat.lt_min.mpr ⟨hsize, Nat.sub_pos_of_lt hfirst⟩
    · change handler.writeBuffer.first + min _ (txBufferSize - handler.writeBuffer.first) ≤ _
      omega

/-- The outstanding region holds the first bytes of the queue. -/
theorem Consistent.region_eq (h : handler.Consistent) {region : Nat × Nat}
    (hregion : region ∈ handler.writes) :
    region.2 ≤ handler.writeBuffer.size ∧
      ∀ n ≤ region.2, handler.writeBuffer.region region.1 n =
        handler.writeBuffer.contents.take n := by
  rcases h.writes with ⟨-, hwrites⟩ | ⟨-, n, hwrites, -, hsize, hend⟩
  · rw [hwrites] at hregion
    cases hregion
  · rw [hwrites] at hregion
    obtain rfl := List.mem_singleton.mp hregion
    refine ⟨hsize, fun k hk ↦ ?_⟩
    have hk : k ≤ n := hk
    exact handler.writeBuffer.region_first (Nat.le_trans hk hsize) (by omega)

/-! ## The events -/

/-- What sending does to an operational handler. -/
theorem asyncSendDataToSerialPort_eq (hstate : handler.state = .operational)
    (data : List UInt8) :
    handler.asyncSendDataToSerialPort data =
      let pushed := handler.writeBuffer.pushMany data
      (if handler.writeInProgress then { handler with writeBuffer := pushed.1 }
        else { handler with writeBuffer := pushed.1, writeInProgress := true }.asyncWriteSome,
        pushed.2) := by
  rw [asyncSendDataToSerialPort, if_neg (not_not.mpr hstate)]
  split <;> simp_all

theorem size_pushMany (handler : SerialHandler) (data : List UInt8) :
    (handler.writeBuffer.pushMany data).1.size =
      handler.writeBuffer.size + min handler.writeBuffer.reserve data.length := by
  obtain ⟨hcontents, -⟩ := handler.writeBuffer.contents_pushMany data
  have hlength := congrArg List.length hcontents
  rwa [List.length_append, List.length_take, RingBuffer.length_contents,
    RingBuffer.length_contents] at hlength

/-- Sending keeps the handler consistent. -/
theorem Consistent.send (h : handler.Consistent) {data : List UInt8} (hdata : data ≠ []) :
    (handler.asyncSendDataToSerialPort data).1.Consistent := by
  have hsize := handler.size_pushMany data
  have hfirst := handler.writeBuffer.first_pushMany data
  rw [asyncSendDataToSerialPort_eq h.operational]
  rcases h.writes with ⟨hprogress, hwrites⟩ | ⟨hprogress, n, hwrites, hpos, hn, hend⟩
  · have hlength := List.length_pos_iff.mpr hdata
    have hreserve : handler.writeBuffer.reserve = txBufferSize - handler.writeBuffer.size := rfl
    have hcapacity : 0 < txBufferSize := by decide
    simp only [hprogress, Bool.false_eq_true, if_false]
    refine consistent_asyncWriteSome h.operational rfl hwrites ?_
    change 0 < (handler.writeBuffer.pushMany data).1.size
    -- an empty buffer takes at least one byte
    omega
  · simp only [hprogress, if_true]
    refine ⟨h.operational, .inr ⟨rfl, n, ?_, hpos, ?_, ?_⟩⟩
    · rw [hwrites, hfirst]
    · exact Nat.le_trans hn (hsize ▸ Nat.le_add_right ..)
    · rwa [hfirst]

/-- A report of the port keeps the handler consistent. -/
theorem Consistent.callback (h : handler.Consistent) {region : Nat × Nat}
    {writes : List (Nat × Nat)} (hwrites : handler.writes = region :: writes) (ec : Bool)
    (bytesTransferred : Nat) :
    ({ handler with writes := writes }.asyncWriteToSerialPortCb ec
      bytesTransferred).Consistent := by
  have hnone : writes = [] := by
    rcases h.writes with ⟨-, hnil⟩ | ⟨-, n, hone, -⟩
    · rw [hnil] at hwrites
      cases hwrites
    · rw [hone] at hwrites
      exact (List.cons.inj hwrites).2.symm
  have hprogress : handler.writeInProgress = true := by
    rcases h.writes with ⟨-, hnil⟩ | ⟨hprogress, -⟩
    · rw [hnil] at hwrites
      cases hwrites
    · exact hprogress
  subst hnone
  unfold asyncWriteToSerialPortCb
  split
  · exact ⟨h.operational, .inl ⟨rfl, rfl⟩⟩
  · simp only
    split
    · exact ⟨h.operational, .inl ⟨rfl, rfl⟩⟩
    · next hsize =>
        exact consistent_asyncWriteSome h.operational hprogress rfl (Nat.pos_of_ne_zero hsize)

/-- **One event.**  The handler stays consistent, and what the port writes and what
is left in the queue is what was in the queue and what has entered it. -/
theorem Consistent.portStep (h : handler.Consistent) {event : PortEvent}
    (hadmits : handler.Admits event) :
    (handler.portStep event).1.Consistent ∧
      (handler.portStep event).2.wired ++ (handler.portStep event).1.writeBuffer.contents =
        handler.writeBuffer.contents ++ (handler.portStep event).2.accepted := by
  cases event with
  | send data =>
      refine ⟨h.send hadmits, ?_⟩
      obtain ⟨-, hcount⟩ := handler.writeBuffer.contents_pushMany data
      have hcontents := handler.contents_asyncSendData data h.operational
      have hwritten : (handler.asyncSendDataToSerialPort data).2 =
          min handler.writeBuffer.reserve data.length := by
        rw [asyncSendDataToSerialPort_eq h.operational, hcount]
      have htake : data.take (min handler.writeBuffer.reserve data.length) =
          data.take handler.writeBuffer.reserve := by
        rw [← List.take_take, List.take_length]
      simp only [SerialHandler.portStep, hcontents, hwritten, htake, List.nil_append]
  | written bytesTransferred =>
      obtain ⟨region, hregion, -, hle⟩ := hadmits
      obtain ⟨writes, hwrites⟩ : ∃ writes, handler.writes = region :: writes :=
        List.head?_eq_some_iff.mp hregion
      have hmem : region ∈ handler.writes := by simp [hwrites]
      obtain ⟨hsize, hholds⟩ := h.region_eq hmem
      have hcontents := handler.writeBuffer.contents_eraseBegin (Nat.le_trans hle hsize)
      simp only [SerialHandler.portStep, hwrites]
      refine ⟨h.callback hwrites false bytesTransferred, ?_⟩
      have hafter : ({ handler with writes := writes }.asyncWriteToSerialPortCb false
          bytesTransferred).writeBuffer = handler.writeBuffer.eraseBegin bytesTransferred := by
        simp only [asyncWriteToSerialPortCb, Bool.false_eq_true, if_false]
        split <;> rfl
      rw [hafter, hcontents, hholds _ hle, List.take_append_drop, List.append_nil]
  | failed =>
      obtain ⟨region, writes, hwrites⟩ := List.exists_cons_of_ne_nil hadmits
      simp only [SerialHandler.portStep, hwrites]
      exact ⟨h.callback hwrites true 0, (List.append_nil _).symm⟩

/-- While a region is with the port, sending does not touch it. -/
theorem Consistent.region_send (h : handler.Consistent) (data : List UInt8)
    {region : Nat × Nat} (hregion : region ∈ handler.writes) :
    region ∈ (handler.asyncSendDataToSerialPort data).1.writes ∧
      (handler.asyncSendDataToSerialPort data).1.writeBuffer.region region.1 region.2 =
        handler.writeBuffer.region region.1 region.2 := by
  have hsize := handler.size_pushMany data
  have hfirst := handler.writeBuffer.first_pushMany data
  obtain ⟨hcontents, -⟩ := handler.writeBuffer.contents_pushMany data
  rw [asyncSendDataToSerialPort_eq h.operational]
  rcases h.writes with ⟨-, hwrites⟩ | ⟨hprogress, n, hwrites, -, hn, hend⟩
  · rw [hwrites] at hregion
    cases hregion
  · simp only [hprogress, if_true]
    refine ⟨hregion, ?_⟩
    rw [hwrites] at hregion
    obtain rfl := List.mem_singleton.mp hregion
    have hbefore := handler.writeBuffer.region_first hn hend
    have hafter := (handler.writeBuffer.pushMany data).1.region_first (n := n)
      (Nat.le_trans hn (hsize ▸ Nat.le_add_right ..)) (by rwa [hfirst])
    rw [hfirst, hcontents, List.take_append_of_le_length
      (by rwa [RingBuffer.length_contents])] at hafter
    exact hafter.trans hbefore.symm

end SerialHandler

/-! ## Runs -/

/-- All bytes that have entered the queue in a history. -/
def accepted (h : List (Step SerialHandler PortEvent PortTraffic)) : List UInt8 :=
  h.flatMap fun r ↦ r.output.accepted

/-- All bytes that the port has written in a history. -/
def wired (h : List (Step SerialHandler PortEvent PortTraffic)) : List UInt8 :=
  h.flatMap fun r ↦ r.output.wired

/-- An operational handler with an empty buffer, and nothing with the port. -/
structure SerialHandler.Idle (handler : SerialHandler) : Prop where
  operational : handler.state = .operational
  empty : handler.writeBuffer.size = 0
  noWrite : handler.writeInProgress = false ∧ handler.writes = []

/-- The invariant of a run: the handler is consistent, the queue has lost nothing,
and every step has started from a consistent handler. -/
structure Faithful (h : List (Step SerialHandler PortEvent PortTraffic))
    (handler : SerialHandler) : Prop where
  consistent : handler.Consistent
  queue : wired h ++ handler.writeBuffer.contents = accepted h
  steps : ∀ r ∈ h, r.before.Consistent ∧ r = record SerialHandler.portStep r.before r.input

theorem faithful_idle {handler : SerialHandler} (h : handler.Idle) : Faithful [] handler where
  consistent := ⟨h.operational, .inl h.noWrite⟩
  queue := List.length_eq_zero_iff.mp (handler.writeBuffer.length_contents.trans h.empty)
  steps := fun _ hr ↦ absurd hr List.not_mem_nil

theorem faithful_step {h : List (Step SerialHandler PortEvent PortTraffic)}
    {handler : SerialHandler} {event : PortEvent} (hfaithful : Faithful h handler)
    (hadmits : handler.Admits event) :
    Faithful (h ++ [record SerialHandler.portStep handler event])
      (handler.portStep event).1 := by
  obtain ⟨hconsistent, hqueue, hsteps⟩ := hfaithful
  obtain ⟨hnext, hstep⟩ := hconsistent.portStep hadmits
  refine ⟨hnext, ?_, ?_⟩
  · calc wired (h ++ [record SerialHandler.portStep handler event]) ++
          (handler.portStep event).1.writeBuffer.contents
        = wired h ++ ((handler.portStep event).2.wired ++
            (handler.portStep event).1.writeBuffer.contents) := by simp [wired]
      _ = wired h ++ handler.writeBuffer.contents ++ (handler.portStep event).2.accepted := by
          rw [hstep, List.append_assoc]
      _ = accepted (h ++ [record SerialHandler.portStep handler event]) := by
          rw [hqueue]
          simp [accepted]
  · intro r hr
    rcases List.mem_append.mp hr with hr | hr
    · exact hsteps r hr
    · rw [List.mem_singleton.mp hr]
      exact ⟨hconsistent, rfl⟩

/-- **The transmit queue.**  After any run from an idle handler, whatever is sent and
however the port reports:

* at most one write is outstanding, and `writeInProgress` is set exactly then;
* the region of the outstanding write is not empty and holds the first bytes of the
  queue, and no step of the run that sent more bytes has changed it;
* the bytes written to the port and those in the buffer, together, are the bytes that
  the calls reported to accept, in order. -/
theorem transmit_queue_fifo {handler : SerialHandler} (hidle : handler.Idle)
    (events : List PortEvent)
    (hadmits : ∀ r ∈ history SerialHandler.portStep handler events, r.before.Admits r.input) :
    let h := history SerialHandler.portStep handler events
    let after := final SerialHandler.portStep handler events
    after.writes.length ≤ 1 ∧ (after.writeInProgress = true ↔ after.writes ≠ []) ∧
      (∀ region ∈ after.writes, 0 < region.2 ∧
        after.writeBuffer.region region.1 region.2 = after.writeBuffer.contents.take region.2) ∧
      (∀ r ∈ h, ∀ data, r.input = .send data → ∀ region ∈ r.before.writes,
        region ∈ r.after.writes ∧ r.after.writeBuffer.region region.1 region.2 =
          r.before.writeBuffer.region region.1 region.2) ∧
      wired h ++ after.writeBuffer.contents = accepted h := by
  intro h after
  obtain ⟨hconsistent, hqueue, hsteps⟩ := history_invariant SerialHandler.portStep
    (C := fun _ r ↦ r.before.Admits r.input) (faithful_idle hidle)
    (fun _ _ _ ↦ faithful_step) events (along_of_forall hadmits)
  refine ⟨?_, ?_, ?_, ?_, hqueue⟩
  · rcases hconsistent.writes with ⟨-, hwrites⟩ | ⟨-, n, hwrites, -⟩ <;>
      simp [after, hwrites]
  · rcases hconsistent.writes with ⟨hprogress, hwrites⟩ | ⟨hprogress, n, hwrites, -⟩ <;>
      simp [after, hwrites, hprogress]
  · intro region hregion
    refine ⟨?_, (hconsistent.region_eq hregion).2 _ (Nat.le_refl _)⟩
    rcases hconsistent.writes with ⟨-, hwrites⟩ | ⟨-, n, hwrites, hpos, -⟩
    · rw [show after.writes = [] from hwrites] at hregion
      cases hregion
    · rw [show after.writes = [(_, n)] from hwrites] at hregion
      rw [List.mem_singleton.mp hregion]
      exact hpos
  · intro r hr data hdata region hregion
    obtain ⟨hbefore, hrecord⟩ := hsteps r hr
    rw [hrecord, hdata]
    exact hbefore.region_send data hregion

/-- An idle handler whose queue begins two slots before the end of the array. -/
def idleNearEnd : SerialHandler where
  state := .operational
  writeBuffer :=
    { slots := Vector.replicate txBufferSize 0
      first := 510
      size := 0
      first_lt := by decide
      size_le := by decide }
  writeInProgress := false
  writes := []

/-- Bytes sent across the end of the array, with a partial and a failed write. -/
theorem transmit_queue_fifo_wrap :
    let events : List PortEvent :=
      [.send [1, 2, 3], .written 1, .send [4], .failed, .send [5], .written 1, .written 2]
    wired (history SerialHandler.portStep idleNearEnd events) ++
        (final SerialHandler.portStep idleNearEnd events).writeBuffer.contents =
      accepted (history SerialHandler.portStep idleNearEnd events) :=
  (transmit_queue_fifo (show idleNearEnd.Idle from ⟨rfl, rfl, rfl, rfl⟩)
    [.send [1, 2, 3], .written 1, .send [4], .failed, .send [5], .written 1, .written 2]
    (by decide +kernel)).2.2.2.2

end FortAgent.Serial
