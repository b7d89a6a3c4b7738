import EasyEvse.Ocpp.AlignedTimer
import EasyEvse.Transition.Run

/-! Periodic meter values: the timer, the task that its expiry wakes, and the transactions. -/

namespace EasyEvse.Ocpp

open Transition

/-- The task that runs the callback, with the transaction whose period expired. -/
inductive AlignedTimerTask
  /-- Blocked until the timer has expired. -/
  | waiting
  /-- Woken up, about to look for a callback. -/
  | dispatching (expired : ℕ)
  /-- In the callback. -/
  | running (expired : ℕ)
  deriving DecidableEq, Repr

/-- Where the session task is in what it does to the transaction. -/
inductive TransactionCall
  | idle
  /-- In the opening, with the transaction set and its timer not started. -/
  | opened
  /-- In the finishing, with the timer stopped and the transaction not released. -/
  | closed
  deriving DecidableEq, Repr

/-- The transaction of the charging station, and all that its periodic meter values go through. -/
structure PeriodicMeter where
  /-- The transactions are told apart by how many were opened before. -/
  transaction : Option ℕ := none
  opened : ℕ := 0
  timer : ClockAlignedTimer := {}
  /-- The transaction that the timer was started for. Nothing reads it. -/
  startedFor : Option ℕ := none
  /-- The event bit of the timer, with the transaction whose period expired last. -/
  triggered : Option ℕ := none
  alignedTimerTask : AlignedTimerTask := .waiting
  call : TransactionCall := .idle
  deriving DecidableEq, Repr

/-- The steps of the session task, of the timer, and of the task that the timer wakes. -/
inductive PeriodicMeterOp
  /-- The session task opens a transaction at a connector, which there may be or not. -/
  | openTransaction (connector : Bool)
  /-- The rest of the opening. -/
  | startMeteringTimers (created : Bool)
  /-- The session task finishes the transaction, if there is one. -/
  | closeTransaction
  /-- The rest of the finishing. -/
  | releaseTransaction
  /-- The period of the timer is over. -/
  | evseTimerCallback
  /-- The next step of the task that the timer wakes. -/
  | alignedTimerTask
  deriving DecidableEq, Repr

/-- The interval of the meter values, in seconds. -/
def sampledDataTxUpdatedInterval : ℤ := 10

namespace PeriodicMeter

variable (s : PeriodicMeter)

/-- Open a transaction in the place of the one there is, if there is one. -/
def openTransaction (connector : Bool) : PeriodicMeter :=
  if connector then
    { s with transaction := some s.opened, opened := s.opened + 1, call := .opened }
  else s

/-- Have the meter values sent, unless the timer is still started for someone else. -/
def startMeteringTimers (created : Bool) : PeriodicMeter :=
  -- A timer that is started stays with the transaction it was started for.
  let timer := s.timer.intervalStartingFrom sampledDataTxUpdatedInterval created
  { s with
    timer
    startedFor := if s.timer.timerHandle = timer.timerHandle then s.startedFor else s.transaction
    call := .idle }

/-- Stop the timer of a transaction that is finished. -/
def closeTransaction : PeriodicMeter :=
  if s.transaction = none then s else { s with timer := s.timer.stop, call := .closed }

/-- The transaction is gone, and the session task is done with it. -/
def releaseTransaction : PeriodicMeter := { s with transaction := none, call := .idle }

/-- The next step of the task that the timer wakes, if it is not blocked. -/
def alignedTimerTaskStep : Option PeriodicMeter :=
  match s.alignedTimerTask with
  | .waiting =>
    -- The bit is cleared by the wait itself.
    s.triggered.map fun expired =>
      { s with triggered := none, alignedTimerTask := .dispatching expired }
  -- The callback was installed with the first transaction, and stays.
  | .dispatching expired =>
    if s.timer.callback then some { s with alignedTimerTask := .running expired }
    else some { s with alignedTimerTask := .waiting }
  | .running _ => some { s with alignedTimerTask := .waiting }

end PeriodicMeter

/-- One step of the session task, of the timer, or of the task that the timer wakes. -/
def periodicMeterStep : Step PeriodicMeter PeriodicMeterOp
  | s, .openTransaction connector =>
    if s.call = .idle then some (s.openTransaction connector) else none
  | s, .startMeteringTimers created =>
    if s.call = .opened then some (s.startMeteringTimers created) else none
  | s, .closeTransaction => if s.call = .idle then some s.closeTransaction else none
  | s, .releaseTransaction => if s.call = .closed then some s.releaseTransaction else none
  | s, .evseTimerCallback =>
    if s.timer.timerHandle = none then none else some { s with triggered := s.startedFor }
  | s, .alignedTimerTask => s.alignedTimerTaskStep

/-- While the callback runs, the transaction whose period expired is the one there is. -/
def PeriodicMeter.OnTime (s : PeriodicMeter) : Prop :=
  ∀ expired, s.alignedTimerTask = .running expired → s.transaction = some expired

/--
No expiry is on its way to the callback when a transaction goes.

And no transaction is opened in the place of another.
-/
def NothingPending (s : PeriodicMeter) : PeriodicMeterOp → Prop
  | .releaseTransaction => s.triggered = none ∧ s.alignedTimerTask = .waiting
  | .openTransaction connector => connector = true → s.transaction = none
  | .startMeteringTimers _ | .closeTransaction | .evseTimerCallback | .alignedTimerTask => True

instance (s : PeriodicMeter) : DecidablePred (NothingPending s)
  | .releaseTransaction => inferInstanceAs (Decidable (_ ∧ _))
  | .openTransaction _ => inferInstanceAs (Decidable (_ → _))
  | .startMeteringTimers _ | .closeTransaction | .evseTimerCallback | .alignedTimerTask =>
    isTrue trivial

/-- Everything that the timer has set going is about the transaction there is. -/
structure PeriodicMeter.Attached (s : PeriodicMeter) : Prop where
  timer : s.timer.timerHandle ≠ none → s.startedFor = s.transaction ∧ s.transaction ≠ none
  stopped : s.call = .closed → s.timer.timerHandle = none
  opened : s.call = .opened → s.transaction ≠ none
  bit : ∀ expired ∈ s.triggered, s.transaction = some expired
  dispatched : ∀ expired, s.alignedTimerTask = .dispatching expired →
    s.transaction = some expired
  runs : s.OnTime

section Attached

variable {s t : PeriodicMeter} {op : PeriodicMeterOp}

/-- Starting the timer leaves it as it is, or it is the timer of the transaction there is. -/
theorem startMeteringTimers_startedFor (created : Bool)
    (timer : s.timer.timerHandle ≠ none → s.startedFor = s.transaction) :
    (s.startMeteringTimers created).timer.timerHandle ≠ none →
      (s.startMeteringTimers created).startedFor = s.transaction := by
  intro running
  by_cases same : s.timer.timerHandle =
      (s.timer.intervalStartingFrom sampledDataTxUpdatedInterval created).timerHandle
  · -- The handle is the old one, and so is what it was started for.
    have before : s.timer.timerHandle ≠ none := same ▸ running
    simpa [PeriodicMeter.startMeteringTimers, if_pos same] using timer before
  · simp [PeriodicMeter.startMeteringTimers, if_neg same]

namespace PeriodicMeter.Attached

/-- A transaction that is opened where there was none finds nothing set going by the timer. -/
theorem openTransaction (attached : s.Attached) {connector : Bool}
    (free : connector = true → s.transaction = none) : (s.openTransaction connector).Attached := by
  obtain ⟨timer, stopped, opened, bit, dispatched, runs⟩ := attached
  unfold PeriodicMeter.openTransaction
  split
  · -- Without a transaction there is no timer, and nothing that it has set going.
    rename_i known
    have none := free known
    exact {
      timer := fun running => absurd none (timer running).2
      stopped := by simp
      opened := by simp
      bit := fun expired set => by simp [bit expired set] at none
      dispatched := fun expired here => by simp [dispatched expired here] at none
      runs := fun expired here => by simp [runs expired here] at none }
  · exact ⟨timer, stopped, opened, bit, dispatched, runs⟩

/-- The timer that is started is for the transaction that the opening has set. -/
theorem startMeteringTimers (attached : s.Attached) (here : s.call = .opened) (created : Bool) :
    (s.startMeteringTimers created).Attached := by
  have started := startMeteringTimers_startedFor created fun running => (attached.timer running).1
  exact {
    timer := fun running => ⟨started running, attached.opened here⟩
    stopped := by simp [PeriodicMeter.startMeteringTimers]
    opened := fun _ => attached.opened here
    bit := attached.bit
    dispatched := attached.dispatched
    runs := attached.runs }

/-- The timer is stopped while the transaction is still there. -/
theorem closeTransaction (attached : s.Attached) : s.closeTransaction.Attached := by
  unfold PeriodicMeter.closeTransaction
  split
  · exact attached
  · exact {
      timer := fun running => absurd (ClockAlignedTimer.stop_timerHandle _) running
      stopped := fun _ => ClockAlignedTimer.stop_timerHandle _
      opened := by simp
      bit := attached.bit
      dispatched := attached.dispatched
      runs := attached.runs }

/-- A transaction may go when nothing is on its way to the callback. -/
theorem releaseTransaction (attached : s.Attached) (here : s.call = .closed)
    (cleared : s.triggered = none) (waits : s.alignedTimerTask = .waiting) :
    s.releaseTransaction.Attached where
  timer := fun running => absurd (attached.stopped here) running
  stopped := by simp [PeriodicMeter.releaseTransaction]
  opened := by simp [PeriodicMeter.releaseTransaction]
  bit := fun expired set => by simp [PeriodicMeter.releaseTransaction, cleared] at set
  dispatched := fun expired there => by simp [PeriodicMeter.releaseTransaction, waits] at there
  runs := fun expired there => by simp [PeriodicMeter.releaseTransaction, waits] at there

/-- The period that is over is that of the transaction the timer was started for. -/
theorem evseTimerCallback (attached : s.Attached) (running : s.timer.timerHandle ≠ none) :
    { s with triggered := s.startedFor }.Attached := by
  obtain ⟨timer, stopped, opened, bit, dispatched, runs⟩ := attached
  refine ⟨timer, stopped, opened, fun expired set => ?_, dispatched, runs⟩
  rw [← (timer running).1]
  exact set

/-- The task hands on what it took with the bit, up to the end of the callback. -/
theorem alignedTimerTaskStep (attached : s.Attached) (moved : s.alignedTimerTaskStep = some t) :
    t.Attached := by
  obtain ⟨timer, stopped, opened, bit, dispatched, runs⟩ := attached
  simp only [PeriodicMeter.alignedTimerTaskStep] at moved
  split at moved
  · -- The task takes the bit, and with it the transaction that the bit is about.
    obtain ⟨expired, set, rfl⟩ := Option.map_eq_some_iff.mp moved
    refine ⟨timer, stopped, opened, by simp, fun other here => ?_, by simp [PeriodicMeter.OnTime]⟩
    obtain rfl : expired = other := by simpa using here
    exact bit expired set
  · rename_i expired here
    split at moved
    · obtain rfl := Option.some.inj moved
      refine ⟨timer, stopped, opened, bit, by simp, fun other there => ?_⟩
      obtain rfl : expired = other := by simpa using there
      exact dispatched expired here
    · obtain rfl := Option.some.inj moved
      exact ⟨timer, stopped, opened, bit, by simp, by simp [PeriodicMeter.OnTime]⟩
  · obtain rfl := Option.some.inj moved
    exact ⟨timer, stopped, opened, bit, by simp, by simp [PeriodicMeter.OnTime]⟩

end PeriodicMeter.Attached

/-- While nothing is pending, every step keeps to the transaction there is. -/
theorem periodicMeterStep_attached (attached : s.Attached) (spares : NothingPending s op)
    (moved : periodicMeterStep s op = some t) : t.Attached := by
  cases op with
  | openTransaction connector =>
    simp only [periodicMeterStep, Option.ite_none_right_eq_some, Option.some.injEq] at moved
    obtain ⟨idle, rfl⟩ := moved
    exact attached.openTransaction spares
  | startMeteringTimers created =>
    simp only [periodicMeterStep, Option.ite_none_right_eq_some, Option.some.injEq] at moved
    obtain ⟨here, rfl⟩ := moved
    exact attached.startMeteringTimers here created
  | closeTransaction =>
    simp only [periodicMeterStep, Option.ite_none_right_eq_some, Option.some.injEq] at moved
    obtain ⟨idle, rfl⟩ := moved
    exact attached.closeTransaction
  | releaseTransaction =>
    simp only [periodicMeterStep, Option.ite_none_right_eq_some, Option.some.injEq] at moved
    obtain ⟨here, rfl⟩ := moved
    -- Here the condition is needed: nothing may be on its way to the callback.
    obtain ⟨cleared, waits⟩ := spares
    exact attached.releaseTransaction here cleared waits
  | evseTimerCallback =>
    simp only [periodicMeterStep, Option.ite_none_left_eq_some, Option.some.injEq] at moved
    obtain ⟨running, rfl⟩ := moved
    exact attached.evseTimerCallback running
  | alignedTimerTask => exact attached.alignedTimerTaskStep moved

/--
The callback of the meter values has its transaction, as long as nothing pending is left behind.

That is, no transaction goes while an expiry is on its way to the callback, or in it.
-/
theorem callback_on_time (ops : List PeriodicMeterOp)
    (spares : Meets NothingPending periodicMeterStep {} ops) (t : PeriodicMeter)
    (visited : Visits periodicMeterStep {} ops t) (expired : ℕ)
    (running : t.alignedTimerTask = .running expired) : t.transaction = some expired := by
  have starts : PeriodicMeter.Attached {} :=
    ⟨by simp, by simp, by simp, by simp, by simp, by simp [PeriodicMeter.OnTime]⟩
  exact (visits_guarded_invariant periodicMeterStep_attached starts spares visited).runs expired
    running

/-- A transaction of one period, with its meter value. -/
def onePeriod : List PeriodicMeterOp :=
  [.openTransaction true, .startMeteringTimers true, .evseTimerCallback, .alignedTimerTask,
    .alignedTimerTask]

/-- In that run the callback has the transaction. -/
theorem callback_on_time_onePeriod : ∃ t, run periodicMeterStep {} onePeriod = some t ∧
    t.alignedTimerTask = .running 0 ∧ t.transaction = some 0 := by
  have ran : run periodicMeterStep {} onePeriod = some
      { transaction := some 0, opened := 1,
        timer := (ClockAlignedTimer.intervalStartingFrom {} 10 true), startedFor := some 0
        alignedTimerTask := .running 0 } := by decide +kernel
  exact ⟨_, ran, rfl, callback_on_time onePeriod (by decide +kernel) _ (visits_end ran) 0 rfl⟩

/-- A transaction that is finished when its period is over. -/
def finishedLate : List PeriodicMeterOp :=
  [.openTransaction true, .startMeteringTimers true, .evseTimerCallback, .closeTransaction,
    .releaseTransaction, .alignedTimerTask, .alignedTimerTask]

/-- The callback runs without a transaction. -/
theorem callback_without_transaction : ∃ t, Visits periodicMeterStep {} finishedLate t ∧
    t.alignedTimerTask = .running 0 ∧ t.transaction = none := by
  have ran : ∃ t, run periodicMeterStep {} finishedLate = some t := by
    rw [← Option.isSome_iff_exists]
    decide +kernel
  obtain ⟨t, ran⟩ := ran
  have found : ∀ t ∈ run periodicMeterStep {} finishedLate,
      t.alignedTimerTask = .running 0 ∧ t.transaction = none := by decide +kernel
  exact ⟨t, visits_end ran, found t ran⟩

end Attached

end EasyEvse.Ocpp
