import Mathlib.Data.PNat.Defs
import EasyEvse.Ocpp.AlignedTimer
import EasyEvse.Transition.Run

/-! Stopping and restarting the timer of the meter values, when it may fail to be created. -/

namespace EasyEvse.Ocpp

open Transition

/-- A call of the timer. Whether a kernel timer can be created matters only if one is to be. -/
inductive AlignedTimerCall
  | intervalStartingFrom (interval : ℕ+) (created : Bool)
  | stop

/-- The call asks for a timer when one can be created. -/
def AlignedTimerCall.Creates : AlignedTimerCall → Prop
  | intervalStartingFrom _ created => created = true
  | stop => False

namespace ClockAlignedTimer

/-- One call. Every call is possible at any time. -/
def step : Step ClockAlignedTimer AlignedTimerCall := fun t call =>
  match call with
  | .intervalStartingFrom interval created => some (t.intervalStartingFrom (interval : ℕ) created)
  | .stop => some t.stop

variable {t s : ClockAlignedTimer} {call : AlignedTimerCall} {calls : List AlignedTimerCall}
  {interval : ℕ+}

/-- A kernel timer runs, again and again, at an interval in seconds. -/
def RunsAt (t : ClockAlignedTimer) (interval : ℤ) : Prop :=
  ∃ timer ∈ t.timerHandle, timer.autoReload = true ∧ (timer.period.toNat : ℤ) = 1000 * interval

/-- The flag agrees with the handle, and the interval with the kernel timer. -/
structure Agrees (t : ClockAlignedTimer) : Prop where
  started : t.timerStarted = true ↔ t.timerHandle ≠ none
  runs : t.timerHandle ≠ none → t.RunsAt t.callInterval

/-- A timer that is started is asked for the interval it has, and any other can be created. -/
def Allows (t : ClockAlignedTimer) : AlignedTimerCall → Prop
  | .intervalStartingFrom interval created =>
    if t.timerStarted then (interval : ℕ) = t.callInterval
    else created = true ∧ 1000 * (interval : ℕ) < 2 ^ 32
  | .stop => True

/-- The period of a timer that is created is right exactly if it fits the type of ticks. -/
theorem period_eq_iff :
    ((pdMsToTicks ((interval : ℕ) * 1000)).toNat : ℤ) = 1000 * (interval : ℕ) ↔
      1000 * (interval : ℕ) < 2 ^ 32 := by
  constructor
  · intro right
    have size := (pdMsToTicks ((interval : ℕ) * 1000)).toNat_lt
    omega
  · intro fits
    have kept : ((UInt32.ofInt ((interval : ℕ) * 1000)).toNat : ℤ) = (interval : ℕ) * 1000 :=
      ofInt_toNat (by omega) (by omega)
    rw [← kept, pdMsToTicks_toNat, kept, Int.mul_comm]

/-- A timer that is started is left as it is, except for the interval. -/
theorem start_of_started {created : Bool} (started : t.timerStarted = true) :
    t.intervalStartingFrom (interval : ℕ) created =
      { t with callback := true, callInterval := (interval : ℕ) } := by
  simp [intervalStartingFrom, EvseTimer.startTimer, started]

/-- A timer that is not started is created, if that succeeds, and counts as started. -/
theorem start_of_not_started {created : Bool} (idle : t.timerStarted = false) :
    t.intervalStartingFrom (interval : ℕ) created =
      { callback := true
        callInterval := (interval : ℕ)
        intervalMs := (interval : ℕ) * 1000
        timerHandle :=
          if created then some ⟨pdMsToTicks ((interval : ℕ) * 1000), true⟩ else none
        timerStarted := true } := by
  have positive : ((interval : ℕ) : ℤ) * 1000 ≠ 0 := by
    have := interval.pos
    omega
  simp [intervalStartingFrom, EvseTimer.startTimer, idle, positive]

/-- Where the flag agrees with the handle, a stop takes both back. -/
theorem Agrees.stop_eq (agrees : t.Agrees) :
    t.stop = { t with timerHandle := none, timerStarted := false } := by
  cases handle : t.timerHandle with
  | some timer => simp [stop, EvseTimer.stop, handle]
  | none =>
    have idle : t.timerStarted = false := by
      simpa [handle] using agrees.started
    -- Without a handle a stop does nothing, and there is nothing to be done.
    have same : t.stop = t := by simp [stop, EvseTimer.stop, handle]
    rw [same]
    obtain ⟨⟨timerHandle, intervalMs, timerStarted⟩, callInterval, callback⟩ := t
    simp only at handle idle
    rw [handle, idle]

/-- A timer that is created with a period that fits runs at the interval that was asked for. -/
theorem runsAt_of_created (idle : t.timerStarted = false) (fits : 1000 * (interval : ℕ) < 2 ^ 32) :
    (t.intervalStartingFrom (interval : ℕ) true).RunsAt (interval : ℕ) := by
  rw [start_of_not_started idle]
  exact ⟨_, rfl, rfl, period_eq_iff.mpr fits⟩

/-- A call that is allowed keeps the agreement. -/
theorem Agrees.step (agrees : t.Agrees) (allowed : t.Allows call) (moved : step t call = some s) :
    s.Agrees := by
  cases call with
  | stop =>
    obtain rfl := Option.some.inj moved
    rw [agrees.stop_eq]
    exact ⟨by simp, by simp⟩
  | intervalStartingFrom interval created =>
    obtain rfl := Option.some.inj moved
    cases started : t.timerStarted with
    | true =>
      -- The interval is noted once more, and the timer goes on.
      have same : ((interval : ℕ) : ℤ) = t.callInterval := by
        simpa [Allows, started] using allowed
      rw [start_of_started started, same]
      exact ⟨agrees.started, agrees.runs⟩
    | false =>
      -- A timer is created, and its period is the interval that is noted.
      obtain ⟨rfl, fits⟩ : created = true ∧ 1000 * (interval : ℕ) < 2 ^ 32 := by
        simpa [Allows, started] using allowed
      refine ⟨by simp [start_of_not_started started], fun _ => ?_⟩
      have runs := runsAt_of_created started fits
      rw [start_of_not_started started] at runs ⊢
      exact runs

/-- A call that is not allowed ends the agreement. -/
theorem Agrees.breaks (agrees : t.Agrees) (refused : ¬ t.Allows call)
    (moved : ClockAlignedTimer.step t call = some s) : ¬ s.Agrees := by
  intro after
  cases call with
  | stop => exact refused trivial
  | intervalStartingFrom interval created =>
    obtain rfl := Option.some.inj moved
    cases started : t.timerStarted with
    | true =>
      -- The timer goes on at the interval it had, while another one is noted.
      obtain ⟨timer, handle, -, period⟩ := agrees.runs (agrees.started.mp started)
      rw [start_of_started started] at after
      obtain ⟨other, handle', -, period'⟩ := after.runs (agrees.started.mp started)
      obtain rfl := Option.some.inj (handle.symm.trans handle')
      refine refused ?_
      simp only [Allows, started, if_true]
      change (timer.period.toNat : ℤ) = 1000 * ((interval : ℕ) : ℤ) at period'
      omega
    | false =>
      rw [start_of_not_started started] at after
      cases created with
      -- The flag is set although there is no timer.
      | false => exact absurd after.started (by simp)
      | true =>
        -- The period lost what does not fit the type of ticks.
        obtain ⟨timer, handle, -, period⟩ := after.runs (by simp)
        obtain rfl := Option.some.inj handle
        exact refused (by simpa [Allows, started] using period_eq_iff.mp period)

/-- Nothing agrees as well as a timer that was never started. -/
theorem Agrees.initial : ({} : ClockAlignedTimer).Agrees := ⟨by simp, by simp⟩

/-- After a stop, a timer stays stopped until one is created. -/
theorem run_stopped {between : List AlignedTimerCall} (agrees : t.Agrees)
    (idle : t.timerStarted = false) (allowed : Meets Allows step t between)
    (none : ∀ call ∈ between, ¬ call.Creates) (finish : run step t between = some s) :
    s.Agrees ∧ s.timerStarted = false := by
  have keeps : ∀ {s call t}, Agrees s ∧ s.timerStarted = false →
      s.Allows call ∧ ¬ call.Creates → ClockAlignedTimer.step s call = some t →
        t.Agrees ∧ t.timerStarted = false := by
    intro s call t ⟨agrees, idle⟩ ⟨allowed, creates⟩ moved
    refine ⟨agrees.step allowed moved, ?_⟩
    cases call with
    | stop =>
      obtain rfl := Option.some.inj moved
      rw [agrees.stop_eq]
    | intervalStartingFrom interval created =>
      -- A timer that is not started is only allowed to be created.
      simp only [Allows, idle, Bool.false_eq_true, if_false] at allowed
      exact absurd allowed.1 creates
  have start : Agrees t ∧ t.timerStarted = false := ⟨agrees, idle⟩
  have stopped := run_guarded_invariant keeps start (allowed.and_all none) finish
  exact stopped

/-- The first timer that is created after a stop runs at the interval that was asked for. -/
def Restarts (calls : List AlignedTimerCall) : Prop :=
  ∀ (front between : List AlignedTimerCall) (interval : ℕ+) (t : ClockAlignedTimer),
    front ++ .stop :: between ++ [.intervalStartingFrom interval true] <+: calls →
      (∀ call ∈ between, ¬ call.Creates) →
        run step {} (front ++ .stop :: between ++ [.intervalStartingFrom interval true]) = some t →
          t.RunsAt (interval : ℕ)

/-- In a run whose calls are all allowed, the timer restarts after every stop. -/
theorem restarts_of_meets (allowed : Meets Allows step {} calls) : Restarts calls := by
  intro front between interval t isPrefix none finish
  obtain ⟨back, rfl⟩ := isPrefix
  -- The run is taken apart from its end: the last call, the calls in between, the stop.
  rw [run_snoc] at finish
  obtain ⟨idle, reached, started⟩ := Option.bind_eq_some_iff.mp finish
  have allowed := (meets_append.mp allowed).1
  obtain ⟨allowedFirst, allowedLast⟩ := meets_append.mp allowed
  obtain ⟨creates, -⟩ := allowedLast idle reached _ rfl
  rw [run_append] at reached
  obtain ⟨before, reachedFirst, stopped⟩ := Option.bind_eq_some_iff.mp reached
  obtain rfl := Option.some.inj started
  obtain ⟨allowedFront, allowedStop⟩ := meets_append.mp allowedFirst
  have agrees := run_guarded_invariant (fun agrees guard moved => agrees.step guard moved)
    Agrees.initial allowedFront reachedFirst
  obtain ⟨-, allowedBetween⟩ := allowedStop before reachedFirst _ rfl
  have afterStop : before.stop.Agrees := @Agrees.step before _ .stop agrees trivial rfl
  obtain ⟨-, notStarted⟩ := run_stopped afterStop (by rw [agrees.stop_eq]) allowedBetween none
    stopped
  simp only [Allows, notStarted, Bool.false_eq_true, if_false] at creates
  exact runsAt_of_created notStarted creates.2

/--
The timer restarts after every stop exactly if its calls are all allowed.

Wherever it is not started it has to be created, with a period that fits the type of ticks, and
where it is started it can only be asked for the interval that it has.
-/
theorem restarts_after_every_stop_iff :
    ((∀ t, Visits step {} calls t → t.Agrees) ∧ Restarts calls) ↔ Meets Allows step {} calls := by
  have exact_guard := @always_good_iff_meets _ _ step {} calls Agrees Agrees Allows
    (fun agrees guard moved => agrees.step guard moved) id
    (fun agrees refused moved => agrees.breaks refused moved) Agrees.initial
  exact ⟨fun ⟨always, _⟩ => exact_guard.mp always,
    fun allowed => ⟨exact_guard.mpr allowed, restarts_of_meets allowed⟩⟩

/-- Once the timer could not be created, it is not created any more, and a stop changes nothing. -/
theorem never_restarts :
    let calls : List AlignedTimerCall :=
      [.intervalStartingFrom 10 false, .stop, .intervalStartingFrom 10 true]
    ∃ t, run step {} calls = some t ∧ t.timerStarted = true ∧ t.timerHandle = none ∧
      ¬ Restarts calls := by
  refine ⟨_, rfl, rfl, rfl, fun restarts => ?_⟩
  obtain ⟨timer, handle, -⟩ := restarts [.intervalStartingFrom 10 false] [] 10 _ List.prefix_rfl
    (by simp) rfl
  cases handle

end ClockAlignedTimer

end EasyEvse.Ocpp
