import Mathlib.Data.UInt
import Mathlib.RingTheory.Coprime.Lemmas
import Mathlib.Tactic.Ring
import EasyEvse.Clock.OcppTimepoint
import EasyEvse.Csms.InFlight
import EasyEvse.Ocpp.AlignedTimer
import EasyEvse.Timers.Settled

/-! The timer objects of the stack: armed in many ways, and each time with a new kernel timer. -/

namespace EasyEvse.Csms

open Clock Ocpp Timers Transition

/-- A timer object. A kernel timer runs the callback that the object has when it expires. -/
structure FreeRtosSteadyTimer (κ : Type*) where
  timerHandle : Option ℕ := none
  timeoutTicks : UInt32 := 0
  tCallback : Option κ := none
  service : Service Timer := {}
  deriving DecidableEq

/-- The calls of a timer object, one for each overload. Durations are given in milliseconds. -/
inductive SteadyCall (κ : Type*)
  | timeout (intervalS : UInt32)
  | timeoutDuration (callback : κ) (intervalMs : ℤ)
  | timeoutSeconds (callback : κ) (intervalS : UInt32)
  | atSeconds (callback : κ) (timePoint : UInt32)
  | atTimepoint (callback : κ) (timePoint now : OcppTimepoint)
  | intervalDuration (callback : κ) (intervalMs : ℤ)
  | interval (intervalMs : ℤ)
  | stop
  deriving DecidableEq

namespace FreeRtosSteadyTimer

variable {κ : Type*} (t : FreeRtosSteadyTimer κ) (created : Bool)

/-- The timer task after it was told to end the kernel timer there is. -/
def ended : Service Timer :=
  match t.timerHandle with
  | some timer =>
    (t.service.put timerQueueLength (.stop timer)).put timerQueueLength (.delete timer)
  | none => t.service

/-- End the kernel timer there is, and create and start a new one. Creating it may fail. -/
def rearm (ticks : UInt32) (autoReload : Bool) : FreeRtosSteadyTimer κ :=
  let timeoutTicks := if ticks = 0 then 1 else ticks
  if created then
    { t with
      timeoutTicks
      timerHandle := some t.ended.created.length
      service := (t.ended.create ⟨timeoutTicks, autoReload⟩).put timerQueueLength
        (.start t.ended.created.length) }
  else { t with timeoutTicks, timerHandle := none, service := t.ended }

def stop : FreeRtosSteadyTimer κ :=
  match t.timerHandle with
  | some timer => { t with service := t.service.put timerQueueLength (.stop timer) }
  | none => t

/-- The callback stays the one that was installed last. -/
def timeout (intervalS : UInt32) : FreeRtosSteadyTimer κ :=
  let intervalMs := intervalS * 1000
  t.rearm created (pdMsToTicks intervalMs.toNat) false

def timeoutDuration (callback : κ) (intervalMs : ℤ) : FreeRtosSteadyTimer κ :=
  rearm { t with tCallback := some callback } created
    (pdMsToTicks (UInt32.ofInt intervalMs).toNat) false

def timeoutSeconds (callback : κ) (intervalS : UInt32) : FreeRtosSteadyTimer κ :=
  let intervalMs := intervalS * 1000
  rearm { t with tCallback := some callback } created (pdMsToTicks intervalMs.toNat) false

/-- The overload for a number of seconds is still to be written. -/
def atSeconds (_callback : κ) (_timePoint : UInt32) : FreeRtosSteadyTimer κ := t

/-- The seconds up to a point in time, or one second if it seems to lie in the past. -/
def secondsUntil (timePoint now : OcppTimepoint) : UInt32 :=
  let diffS := (timePoint.toTimePointS - now.toTimePointS).toInt32
  let diffS := if diffS ≤ 0 then 1 else diffS
  diffS.toUInt32

def atTimepoint (callback : κ) (timePoint now : OcppTimepoint) : FreeRtosSteadyTimer κ :=
  t.timeoutSeconds created callback (secondsUntil timePoint now)

def intervalDuration (callback : κ) (intervalMs : ℤ) : FreeRtosSteadyTimer κ :=
  rearm { t with tCallback := some callback } created
    (pdMsToTicks (UInt32.ofInt intervalMs).toNat) true

/-- The callback stays the one that was installed last. -/
def interval (intervalMs : ℤ) : FreeRtosSteadyTimer κ :=
  t.rearm created (pdMsToTicks (UInt32.ofInt intervalMs).toNat) true

/-- One call. -/
def call : SteadyCall κ → FreeRtosSteadyTimer κ
  | .timeout intervalS => t.timeout created intervalS
  | .timeoutDuration callback intervalMs => t.timeoutDuration created callback intervalMs
  | .timeoutSeconds callback intervalS => t.timeoutSeconds created callback intervalS
  | .atSeconds callback timePoint => t.atSeconds callback timePoint
  | .atTimepoint callback timePoint now => t.atTimepoint created callback timePoint now
  | .intervalDuration callback intervalMs => t.intervalDuration created callback intervalMs
  | .interval intervalMs => t.interval created intervalMs
  | .stop => t.stop

/-- A kernel timer expires, after which it goes on running if it reloads itself. -/
def expire (timer : ℕ) : Option (FreeRtosSteadyTimer κ) :=
  match t.service.created[timer]? with
  | some ⟨_, true⟩ =>
    if t.service.callback = none ∧ timer ∈ t.service.active then
      some { t with service := { t.service with callback := some timer } }
    else none
  | _ => (t.service.expire timer).map fun service => { t with service }

end FreeRtosSteadyTimer

/-- What a call asks for: how long the timer is to run, in milliseconds, and whether once. -/
structure TimerRequest where
  ms : ℤ
  autoReload : Bool
  deriving DecidableEq

/-- A kernel timer is due what was asked for, whenever that fits the type of ticks. -/
def TimerRequest.CarriedBy (request : TimerRequest) (timer : Timer) : Prop :=
  timer.autoReload = request.autoReload ∧
    (0 ≤ request.ms → request.ms < 2 ^ 32 → (timer.period.toNat : ℤ) = max 1 request.ms)

/-- The seconds from one point in time to another, which are negative if it lies in the past. -/
def secondsFrom (now timePoint : OcppTimepoint) : ℤ :=
  timePoint.toTimePointS.toNat - now.toTimePointS.toNat

namespace SteadyCall

variable {κ : Type*}

/-- What a call asks for, if it arms the timer. -/
def request? : SteadyCall κ → Option TimerRequest
  | timeout intervalS | timeoutSeconds _ intervalS => some ⟨1000 * intervalS.toNat, false⟩
  | timeoutDuration _ intervalMs => some ⟨intervalMs, false⟩
  | atTimepoint _ timePoint now => some ⟨1000 * max 1 (secondsFrom now timePoint), false⟩
  | intervalDuration _ intervalMs | interval intervalMs => some ⟨intervalMs, true⟩
  | atSeconds .. | stop => none

/-- The callback that a call that arms the timer installs, if it has one. -/
def callback? : SteadyCall κ → Option κ
  | timeoutDuration callback _ | timeoutSeconds callback _ | atTimepoint callback _ _
  | intervalDuration callback _ => some callback
  | timeout _ | atSeconds .. | interval _ | stop => none

end SteadyCall

/-- A call, or what the timer task does in between. -/
inductive SteadyOp (κ : Type*)
  | call (call : SteadyCall κ) (created : Bool)
  | processCommand
  | expire (timer : ℕ)
  | finish
  deriving DecidableEq

variable {κ : Type*}

/-- The call that an operation is, if it is one. -/
def SteadyOp.call? : SteadyOp κ → Option (SteadyCall κ)
  | .call made _ => some made
  | _ => none

/-- What the last call that arms the timer asks for. -/
def lastRequest (ops : List (SteadyOp κ)) : Option TimerRequest :=
  ((ops.filterMap SteadyOp.call?).filterMap SteadyCall.request?).getLast?

/-- The callback that was installed last. -/
def lastCallback (ops : List (SteadyOp κ)) : Option κ :=
  ((ops.filterMap SteadyOp.call?).filterMap SteadyCall.callback?).getLast?

namespace FreeRtosSteadyTimer

/-- One call or one action of the timer task, if it is possible. -/
def step : Step (FreeRtosSteadyTimer κ) (SteadyOp κ) := fun t op =>
  match op with
  | .call call created => some (t.call created call)
  | .processCommand => t.service.process.map fun service => { t with service }
  | .expire timer => t.expire timer
  | .finish => some { t with service := t.service.finish }

end FreeRtosSteadyTimer

section Periods

variable {intervalS ticks : UInt32} {intervalMs : ℤ} {timePoint now : OcppTimepoint}

/-- A signed difference of two points in time is their distance, as long as that is short. -/
theorem toInt_diff :
    (timePoint.toTimePointS - now.toTimePointS).toInt32.toInt =
      (secondsFrom now timePoint + 2 ^ 31) % 2 ^ 32 - 2 ^ 31 := by
  have size := timePoint.toTimePointS.toNat_lt
  have size' := now.toTimePointS.toNat_lt
  -- Half of the differences without a sign stand for negative ones.
  rw [← Int32.toInt_toBitVec, UInt32.toBitVec_toInt32, BitVec.toInt_eq_toNat_cond,
    UInt32.toNat_toBitVec, UInt32.toNat_sub, secondsFrom]
  split_ifs <;> omega

/-- The seconds up to a point in time, unless it is too far in the past. -/
theorem secondsUntil_toNat : ((FreeRtosSteadyTimer.secondsUntil timePoint now).toNat : ℤ) =
    max 1 ((secondsFrom now timePoint + 2 ^ 31) % 2 ^ 32 - 2 ^ 31) := by
  have value := @toInt_diff timePoint now
  unfold FreeRtosSteadyTimer.secondsUntil
  simp only [Int32.le_iff_toInt_le, value, Int32.toInt_zero]
  split_ifs with past
  · rw [max_eq_left (by omega)]
    rfl
  · -- A positive difference is the one that was computed without a sign.
    have size := timePoint.toTimePointS.toNat_lt
    have size' := now.toTimePointS.toNat_lt
    rw [max_eq_right (by omega), UInt32.toUInt32_toInt32, UInt32.toNat_sub]
    unfold secondsFrom at past ⊢
    omega

/-- The ticks that a timer is created with, for milliseconds that fit their type. -/
theorem armedTicks_toNat : (if ticks = 0 then 1 else ticks).toNat = max 1 ticks.toNat := by
  split_ifs with zero
  · simp [zero]
  · have positive : ticks.toNat ≠ 0 := fun none => zero (UInt32.toNat_inj.mp none)
    omega

/-- Seconds whose milliseconds fit the type of ticks are multiplied without loss. -/
theorem mul_thousand_toNat :
    (intervalS * 1000).toNat = 1000 * intervalS.toNat % 2 ^ 32 := by
  rw [UInt32.toNat_mul, Nat.mul_comm]
  rfl

/-- The time up to a point is right, unless the point is too far in the past. -/
def InReach (now timePoint : OcppTimepoint) : Prop :=
  - 2 ^ 31 ≤ secondsFrom now timePoint ∨ (secondsFrom now timePoint - 1) % 2 ^ 29 = 0

instance : DecidableRel InReach := fun _ _ => inferInstanceAs (Decidable (_ ∨ _))

/-- A multiple of a thousand wraps around to a thousand exactly one in so many times. -/
theorem wraps_to_thousand (d : ℤ) : 1000 * (d + 2 ^ 32) % 2 ^ 32 = 1000 ↔ (d - 1) % 2 ^ 29 = 0 := by
  have odd : IsCoprime ((2 : ℤ) ^ 29) 125 := Int.isCoprime_iff_gcd_eq_one.mpr (by decide +kernel)
  have thousand : (1000 : ℤ) % 2 ^ 32 = 1000 := rfl
  have rest : 1000 * (d + 2 ^ 32) - 1000 = 2 ^ 3 * (125 * (d - 1)) + 2 ^ 32 * 1000 := by ring
  have power : (2 : ℤ) ^ 32 = 2 ^ 3 * 2 ^ 29 := by norm_num
  calc 1000 * (d + 2 ^ 32) % 2 ^ 32 = 1000
      ↔ 2 ^ 32 ∣ 1000 * (d + 2 ^ 32) - 1000 := by
        rw [Int.dvd_iff_emod_eq_zero, ← Int.emod_eq_emod_iff_emod_sub_eq_zero, thousand]
    _ ↔ 2 ^ 32 ∣ 2 ^ 3 * (125 * (d - 1)) := by rw [rest, dvd_add_left (dvd_mul_right _ _)]
    -- Without the common factor of eight, 125 has no part in the rest of the power of two.
    _ ↔ 2 ^ 29 ∣ 125 * (d - 1) := by rw [power, mul_dvd_mul_iff_left (by norm_num)]
    _ ↔ 2 ^ 29 ∣ d - 1 := ⟨odd.dvd_of_dvd_mul_left, fun divides => divides.mul_left _⟩
    _ ↔ (d - 1) % 2 ^ 29 = 0 := Int.dvd_iff_emod_eq_zero

/-- The period up to a point in time is right exactly if the point is in reach. -/
theorem period_iff_inReach (fits : 1000 * max 1 (secondsFrom now timePoint) < 2 ^ 32) :
    (max 1 ((FreeRtosSteadyTimer.secondsUntil timePoint now * 1000).toNat) : ℤ) =
      1000 * max 1 (secondsFrom now timePoint) ↔ InReach now timePoint := by
  have seconds := @secondsUntil_toNat timePoint now
  have size := timePoint.toTimePointS.toNat_lt
  have size' := now.toTimePointS.toNat_lt
  rw [mul_thousand_toNat, InReach]
  have least : -2 ^ 32 < secondsFrom now timePoint := by unfold secondsFrom; omega
  have cast : ∀ n : ℕ, ((1000 * n % 2 ^ 32 : ℕ) : ℤ) = 1000 * (n : ℤ) % 2 ^ 32 := by
    intro n
    omega
  rw [cast, seconds]
  generalize secondsFrom now timePoint = d at fits least ⊢
  rcases lt_or_ge d (-2 ^ 31) with past | near
  · -- So far in the past, the difference is taken for one in the future.
    have wrapped : (d + 2 ^ 31) % 2 ^ 32 - 2 ^ 31 = d + 2 ^ 32 := by omega
    have future : max 1 (d + 2 ^ 32) = d + 2 ^ 32 := max_eq_right (by omega)
    have second : max 1 d = 1 := max_eq_left (by omega)
    have positive : ∀ period : ℤ, max 1 period = 1000 ↔ period = 1000 := by
      intro period
      omega
    rw [wrapped, future, second, mul_one, positive, wraps_to_thousand, or_iff_right (by omega)]
  · have same : (d + 2 ^ 31) % 2 ^ 32 - 2 ^ 31 = d := by omega
    have whole : 1000 * max 1 d % 2 ^ 32 = 1000 * max 1 d := Int.emod_eq_of_lt (by omega) fits
    rw [same, whole]
    exact ⟨fun _ => .inl near, fun _ => max_eq_right (by omega)⟩

end Periods

/-- An `at` call meets its request: it is for a point in time, and that is in reach. -/
def SteadyCall.AtMeets {κ : Type*} : SteadyCall κ → Prop
  | .atSeconds .. => False
  | .atTimepoint _ timePoint now =>
    1000 * max 1 (secondsFrom now timePoint) < 2 ^ 32 → InReach now timePoint
  | _ => True

/-- At most one kernel timer is armed, and it is the one that the object knows. -/
structure FreeRtosSteadyTimer.Tidy {κ : Type*} (t : FreeRtosSteadyTimer κ) : Prop where
  single : t.service.Single
  accepted : t.service.refused = []
  only : ∀ timer ∈ t.service.settled, t.timerHandle = some timer

namespace FreeRtosSteadyTimer

variable {κ : Type*} {t s : FreeRtosSteadyTimer κ} {call : SteadyCall κ} {ticks : UInt32}
  {autoReload : Bool}

/-- What a new kernel timer is created with. -/
def newTimer (ticks : UInt32) (autoReload : Bool) : Timer :=
  ⟨if ticks = 0 then 1 else ticks, autoReload⟩

/-- Without a kernel timer there is nothing to stop. -/
theorem stop_of_none (handle : t.timerHandle = none) : t.stop = t := by simp [stop, handle]

/-- To stop the kernel timer only sends a command. -/
theorem stop_of_some {timer : ℕ} (handle : t.timerHandle = some timer) :
    t.stop = { t with service := t.service.put timerQueueLength (.stop timer) } := by
  simp [stop, handle]

/-- After the kernel timer there is was told to end, none is armed. -/
theorem Tidy.ended (tidy : t.Tidy) (accepted : t.ended.refused = []) :
    t.ended.Single ∧ t.ended.settled = ∅ := by
  cases handle : t.timerHandle with
  | none =>
    -- Without a handle nothing is sent, and nothing was armed.
    have same : t.ended = t.service := by simp [FreeRtosSteadyTimer.ended, handle]
    rw [same]
    refine ⟨tidy.single, Finset.eq_empty_of_forall_notMem fun timer armed => ?_⟩
    have known := tidy.only timer armed
    rw [handle] at known
    cases known
  | some timer =>
    have told : t.ended = (t.service.put timerQueueLength (.stop timer)).put timerQueueLength
        (.delete timer) := by
      simp [FreeRtosSteadyTimer.ended, handle]
    rw [told] at accepted ⊢
    have stopped : (t.service.put timerQueueLength (.stop timer)).refused = [] :=
      Service.refused_of_put accepted
    -- The stop command ends the one timer that can be armed, and the other has nothing to do.
    have none : Command.apply t.service.settled (.stop timer) = ∅ := by
      refine Finset.eq_empty_of_forall_notMem fun other armed => ?_
      obtain ⟨differs, armed⟩ := Finset.mem_erase.mp armed
      have known := tidy.only other armed
      rw [handle] at known
      exact differs (Option.some.inj known).symm
    have same := stopped.trans tidy.accepted.symm
    have same' := accepted.trans stopped.symm
    have empty := (Service.settled_put same).trans none
    have single := tidy.single.put same (by rw [none]; simp)
    refine ⟨single.put same' (by rw [empty]; simp [Command.apply]), ?_⟩
    rw [Service.settled_put same', empty]
    simp [Command.apply]

/-- Arming adds a new kernel timer to those that are left armed. -/
theorem rearm_arms (accepted : (t.rearm true ticks autoReload).service.refused = []) :
    t.ended.refused = [] ∧ ∃ timer, (t.rearm true ticks autoReload).timerHandle = some timer ∧
      (t.rearm true ticks autoReload).service.settled = insert timer t.ended.settled ∧
      (t.rearm true ticks autoReload).service.created[timer]? =
        some (newTimer ticks autoReload) := by
  have before : (t.ended.create (newTimer ticks autoReload)).refused = [] :=
    Service.refused_of_put accepted
  exact ⟨before, t.ended.created.length, rfl,
    Service.settled_put (accepted.trans before.symm), by simp [rearm, newTimer, Service.create]⟩

/-- Arming leaves one kernel timer armed, which is the one that the object knows. -/
theorem Tidy.rearm (tidy : t.Tidy)
    (accepted : (t.rearm true ticks autoReload).service.refused = []) :
    (t.rearm true ticks autoReload).Tidy := by
  obtain ⟨before, timer, handle, settled, -⟩ := rearm_arms accepted
  obtain ⟨single, empty⟩ := tidy.ended before
  -- The new timer is started after the other one was told to end.
  rw [empty, insert_empty_eq] at settled
  refine ⟨?_, accepted, fun other armed => ?_⟩
  · have same : (t.rearm true ticks autoReload).service.refused =
        (t.ended.create (newTimer ticks autoReload)).refused := accepted.trans before.symm
    have one := (Service.settled_put same).symm.trans settled
    exact single.create.put same (by rw [one]; simp)
  · rw [settled] at armed
    rw [handle, Finset.mem_singleton.mp armed]

/-- Stopping only sends a command. -/
theorem stop_frame : t.stop.timerHandle = t.timerHandle ∧ t.stop.tCallback = t.tCallback ∧
    t.stop.timeoutTicks = t.timeoutTicks ∧ t.stop.service.created = t.service.created := by
  unfold stop
  split <;> simp

/-- Stopping leaves no more armed than there was. -/
theorem Tidy.stop (tidy : t.Tidy) (accepted : t.stop.service.refused = []) : t.stop.Tidy := by
  cases handle : t.timerHandle with
  | none =>
    rw [stop_of_none handle]
    exact tidy
  | some timer =>
    rw [stop_of_some handle] at accepted ⊢
    -- To stop a timer takes it from those that are armed, if it is one of them.
    have same := accepted.trans tidy.accepted.symm
    have less : Command.apply t.service.settled (.stop timer) ⊆ t.service.settled :=
      Finset.erase_subset timer _
    refine ⟨tidy.single.put same ?_, accepted, fun other armed => tidy.only other ?_⟩
    · exact (Finset.card_le_card less).trans (tidy.single _ List.prefix_rfl)
    · rw [Service.settled_put same] at armed
      exact less armed

/-- What the timer task does leaves no more armed than there was. -/
theorem Tidy.of_service (tidy : t.Tidy) {service : Service Timer} (single : service.Single)
    (accepted : service.refused = t.service.refused)
    (less : service.settled ⊆ t.service.settled) : Tidy { t with service } :=
  ⟨single, accepted.trans tidy.accepted, fun timer armed => tidy.only timer (less armed)⟩

/-- A command that is processed leaves no more armed than there was. -/
theorem Tidy.process (tidy : t.Tidy) {service : Service Timer}
    (moved : t.service.process = some service) : Tidy { t with service } := by
  refine tidy.of_service (tidy.single.process moved) ?_ (Service.settled_process moved).subset
  obtain ⟨command, commands, -, rfl⟩ := Service.process_cases moved
  rfl

/-- What an expiry changes is the timer task alone, in which no more is active than before. -/
theorem expire_service {timer : ℕ} (moved : t.expire timer = some s) :
    ∃ service, s = { t with service } ∧ service.commands = t.service.commands ∧
      service.refused = t.service.refused ∧ service.created = t.service.created ∧
      service.active ⊆ t.service.active := by
  unfold expire at moved
  split at moved
  · -- A timer that reloads itself goes on running.
    obtain ⟨-, moved⟩ := Option.ite_none_right_eq_some.mp moved
    exact ⟨_, (Option.some.inj moved).symm, rfl, rfl, rfl, subset_rfl⟩
  · -- Any other timer ends by expiring.
    obtain ⟨service, expired, rfl⟩ := Option.map_eq_some_iff.mp moved
    obtain ⟨-, rfl⟩ := Service.expire_cases expired
    exact ⟨_, rfl, rfl, rfl, rfl, Finset.erase_subset timer _⟩

/-- What an expiry leaves has no more armed than there was. -/
theorem Tidy.expire {timer : ℕ} (tidy : t.Tidy) (moved : t.expire timer = some s) : s.Tidy := by
  obtain ⟨service, rfl, queued, accepted, -, less⟩ := expire_service moved
  exact tidy.of_service (tidy.single.of_subset queued less) accepted
    (Service.settled_subset queued less)

/-- Seconds are carried whenever their milliseconds fit the type of ticks. -/
theorem carriedBy_seconds (intervalS : UInt32) : TimerRequest.CarriedBy
    ⟨1000 * intervalS.toNat, false⟩ (newTimer (pdMsToTicks (intervalS * 1000).toNat) false) := by
  refine ⟨rfl, fun _ fits => ?_⟩
  rw [pdMsToTicks_toNat, newTimer, armedTicks_toNat, mul_thousand_toNat]
  simp only at fits ⊢
  omega

/-- A duration is carried whenever it fits the type of ticks. -/
theorem carriedBy_duration (intervalMs : ℤ) (autoReload : Bool) :
    TimerRequest.CarriedBy ⟨intervalMs, autoReload⟩
      (newTimer (pdMsToTicks (UInt32.ofInt intervalMs).toNat) autoReload) := by
  refine ⟨rfl, fun least fits => ?_⟩
  have kept : ((UInt32.ofInt intervalMs).toNat : ℤ) = intervalMs := ofInt_toNat least fits
  rw [pdMsToTicks_toNat, newTimer, armedTicks_toNat]
  push_cast
  rw [kept]

/-- A point in time that is in reach is carried whenever the time up to it fits. -/
theorem carriedBy_timepoint {timePoint now : OcppTimepoint}
    (reach : 1000 * max 1 (secondsFrom now timePoint) < 2 ^ 32 → InReach now timePoint) :
    TimerRequest.CarriedBy ⟨1000 * max 1 (secondsFrom now timePoint), false⟩
      (newTimer (pdMsToTicks (secondsUntil timePoint now * 1000).toNat) false) := by
  refine ⟨rfl, fun _ fits => ?_⟩
  have period := (period_iff_inReach fits).mpr (reach fits)
  rw [pdMsToTicks_toNat, newTimer, armedTicks_toNat]
  simp only at fits ⊢
  omega

/-- A call that arms the timer installs its callback, and creates a timer that meets the request. -/
theorem call_arms {request : TimerRequest} (arms : call.request? = some request)
    (meets : call.AtMeets) : ∃ ticks,
    t.call true call = rearm { t with tCallback := call.callback?.or t.tCallback } true ticks
      request.autoReload ∧
    request.CarriedBy (newTimer ticks request.autoReload) := by
  -- Seconds are multiplied in 32 bits, durations are cast to them.
  cases call with
  | timeout intervalS =>
    obtain rfl := Option.some.inj arms
    exact ⟨_, rfl, carriedBy_seconds intervalS⟩
  | timeoutDuration callback intervalMs =>
    obtain rfl := Option.some.inj arms
    exact ⟨_, rfl, carriedBy_duration intervalMs false⟩
  | timeoutSeconds callback intervalS =>
    obtain rfl := Option.some.inj arms
    exact ⟨_, rfl, carriedBy_seconds intervalS⟩
  | atSeconds callback timePoint => cases arms
  | atTimepoint callback timePoint now =>
    obtain rfl := Option.some.inj arms
    exact ⟨_, rfl, carriedBy_timepoint meets⟩
  | intervalDuration callback intervalMs =>
    obtain rfl := Option.some.inj arms
    exact ⟨_, rfl, carriedBy_duration intervalMs true⟩
  | interval intervalMs =>
    obtain rfl := Option.some.inj arms
    exact ⟨_, rfl, carriedBy_duration intervalMs true⟩
  | stop => cases arms

/-- The commands of a call are accepted, and an `at` call meets its request. -/
def Succeeds (t : FreeRtosSteadyTimer κ) : SteadyOp κ → Prop
  | .call call created => (call.request?.isSome → created = true) ∧
    (t.call created call).service.refused = [] ∧ call.AtMeets
  | _ => True

/-- After some operations, the timer is tidy and carries what was asked for last. -/
structure Carries (ops : List (SteadyOp κ)) (t : FreeRtosSteadyTimer κ) : Prop where
  tidy : t.Tidy
  callback : t.tCallback = lastCallback ops
  request : ∀ timer ∈ t.timerHandle, ∃ request ∈ lastRequest ops,
    ∃ armed ∈ t.service.created[timer]?, armed.period = t.timeoutTicks ∧ request.CarriedBy armed

/-- What is looked up last is what the last operation gives, or else what those before it give. -/
theorem getLast?_filterMap_snoc {α β : Type*} {f : α → Option β} {l : List α} {a : α} :
    ((l ++ [a]).filterMap f).getLast? = (f a).or (l.filterMap f).getLast? := by
  cases given : f a with
  | none => simp [List.filterMap_append, given]
  | some b => simp [List.filterMap_append, given]

/-- What happens between the calls keeps what the timer carries. -/
theorem Carries.of_service {ops : List (SteadyOp κ)} {op : SteadyOp κ} (carries : Carries ops t)
    (between : op.call? = none) {service : Service Timer} (tidy : Tidy { t with service })
    (same : service.created = t.service.created) : Carries (ops ++ [op]) { t with service } := by
  -- The calls so far are the same, and so are the last ones among them.
  have calls : (ops ++ [op]).filterMap SteadyOp.call? = ops.filterMap SteadyOp.call? := by
    simp [List.filterMap_append, between]
  refine ⟨tidy, ?_, ?_⟩
  · rw [lastCallback, calls]
    exact carries.callback
  · rw [lastRequest, calls, same]
    exact carries.request

/-- A call whose commands are accepted leaves the timer carrying what was asked for last. -/
theorem Carries.of_call {ops : List (SteadyOp κ)} {created : Bool} (carries : Carries ops t)
    (succeeds : t.Succeeds (.call call created)) :
    Carries (ops ++ [.call call created]) (t.call created call) := by
  obtain ⟨creates, accepted, meets⟩ := succeeds
  have calls : (ops ++ [SteadyOp.call call created]).filterMap SteadyOp.call? =
      ops.filterMap SteadyOp.call? ++ [call] := by
    simp [List.filterMap_append, SteadyOp.call?]
  have last : lastRequest (ops ++ [.call call created]) =
      call.request?.or (lastRequest ops) := by
    rw [lastRequest, calls, getLast?_filterMap_snoc, lastRequest]
  have installed : lastCallback (ops ++ [.call call created]) =
      call.callback?.or (lastCallback ops) := by
    rw [lastCallback, calls, getLast?_filterMap_snoc, lastCallback]
  cases arms : call.request? with
  | some request =>
    obtain rfl := creates (by simp [arms])
    obtain ⟨ticks, rearmed, carried⟩ := @call_arms _ t call request arms meets
    rw [rearmed] at accepted ⊢
    -- The callback is installed before the timer is armed, which does not touch it.
    have tidy : Tidy { t with tCallback := call.callback?.or t.tCallback } :=
      ⟨carries.tidy.single, carries.tidy.accepted, carries.tidy.only⟩
    obtain ⟨-, timer, handle, -, new⟩ := rearm_arms accepted
    refine ⟨tidy.rearm accepted, ?_, fun other known => ?_⟩
    · rw [installed, ← carries.callback]
      rfl
    · obtain rfl := Option.some.inj (handle.symm.trans known)
      exact ⟨request, by simp [last, arms], _, new, rfl, carried⟩
  | none =>
    -- What arms no timer is a stop, as the overload that does nothing meets no request.
    cases call with
    | stop =>
      obtain ⟨handle, callback, ticks, same⟩ := @stop_frame _ t
      refine ⟨carries.tidy.stop accepted, installed ▸ callback.trans carries.callback, ?_⟩
      -- The object keeps its kernel timer, and what it was created with.
      rw [last]
      change ∀ timer ∈ t.stop.timerHandle, ∃ request ∈ lastRequest ops,
        ∃ armed ∈ t.stop.service.created[timer]?,
          armed.period = t.stop.timeoutTicks ∧ request.CarriedBy armed
      rw [handle, ticks, same]
      exact carries.request
    | atSeconds callback timePoint => exact meets.elim
    | timeout | timeoutDuration | timeoutSeconds | atTimepoint | intervalDuration | interval =>
      cases arms

/-- Every operation that succeeds leaves the timer carrying what was asked for last. -/
theorem Carries.step {ops : List (SteadyOp κ)} {op : SteadyOp κ} (carries : Carries ops t)
    (succeeds : t.Succeeds op) (moved : step t op = some s) : Carries (ops ++ [op]) s := by
  cases op with
  | call call created =>
    obtain rfl := Option.some.inj moved
    exact carries.of_call succeeds
  | processCommand =>
    obtain ⟨service, processed, rfl⟩ := Option.map_eq_some_iff.mp moved
    obtain ⟨command, commands, -, created⟩ := Service.process_cases processed
    exact carries.of_service rfl (carries.tidy.process processed) (by rw [created])
  | expire timer =>
    have tidy := carries.tidy.expire moved
    obtain ⟨service, rfl, -, -, created, -⟩ := expire_service moved
    exact carries.of_service rfl tidy created
  | finish =>
    obtain rfl := Option.some.inj moved
    exact carries.of_service rfl
      ⟨carries.tidy.single, carries.tidy.accepted, carries.tidy.only⟩ rfl

/-- The object has a kernel timer armed that runs a callback once, after so many ticks. -/
def ArmedOnce (t : FreeRtosSteadyTimer κ) (callback : κ) (ticks : ℤ) : Prop :=
  ∃ timer ∈ t.service.settled, t.timerHandle = some timer ∧ t.tCallback = some callback ∧
    ∃ armed ∈ t.service.created[timer]?, armed.autoReload = false ∧
      (armed.period.toNat : ℤ) = ticks

instance [DecidableEq κ] (t : FreeRtosSteadyTimer κ) (callback : κ) (ticks : ℤ) :
    Decidable (t.ArmedOnce callback ticks) := inferInstanceAs (Decidable (∃ timer ∈ _, _))

end FreeRtosSteadyTimer

/-- The two functions that are called `at`. -/
inductive AtOverload
  | seconds
  | timepoint
  deriving DecidableEq

/-- The call of one of them for a point in time. -/
def AtOverload.call (overload : AtOverload) (callback : κ) (timePoint now : OcppTimepoint) :
    SteadyCall κ :=
  match overload with
  | seconds => .atSeconds callback timePoint.toTimePointS
  | timepoint => .atTimepoint callback timePoint now

namespace FreeRtosSteadyTimer

/-- An `at` call arms a timer for the right time exactly if the point in time is in reach. -/
theorem at_arms_iff {callback : κ} {timePoint now : OcppTimepoint} {overload : AtOverload}
    (fits : 1000 * max 1 (secondsFrom now timePoint) < 2 ^ 32) :
    (∀ t : FreeRtosSteadyTimer κ,
      (t.call true (overload.call callback timePoint now)).service.refused = [] →
        (t.call true (overload.call callback timePoint now)).ArmedOnce callback
          (1000 * max 1 (secondsFrom now timePoint))) ↔
      overload = .timepoint ∧ InReach now timePoint := by
  have period := @period_iff_inReach timePoint now fits
  have armed :
      ((newTimer (pdMsToTicks (secondsUntil timePoint now * 1000).toNat) false).period.toNat : ℤ) =
        max 1 ((secondsUntil timePoint now * 1000).toNat : ℤ) := by
    rw [pdMsToTicks_toNat, newTimer, armedTicks_toNat]
    push_cast
    rfl
  cases overload with
  | seconds =>
    -- On an object without a timer, the overload that does nothing leaves none armed.
    refine iff_of_false (fun arms => ?_) (by simp)
    obtain ⟨timer, -, handle, -⟩ := arms {} rfl
    cases handle
  | timepoint =>
    rw [← period, ← armed]
    refine ⟨fun arms => ⟨rfl, ?_⟩, fun ⟨_, right⟩ t accepted => ?_⟩
    · -- On a new object every command is accepted, and shows the period.
      obtain ⟨timer, -, handle, -, kernel, new, -, right⟩ := arms {} rfl
      obtain ⟨-, other, known, -, created⟩ := @rearm_arms _ { tCallback := some callback }
        (pdMsToTicks (secondsUntil timePoint now * 1000).toNat) false rfl
      obtain rfl := Option.some.inj (known.symm.trans handle)
      obtain rfl := Option.some.inj (created.symm.trans new)
      exact right
    · obtain ⟨-, timer, handle, settled, created⟩ := rearm_arms accepted
      refine ⟨timer, ?_, handle, rfl, _, created, rfl, right⟩
      exact settled ▸ Finset.mem_insert_self timer _

/-- A timer fires as it was asked to exactly if no point in time is out of reach of `at`. -/
theorem fires_as_asked_iff :
    (∀ (overload : AtOverload) (callback : κ) (timePoint now : OcppTimepoint),
      1000 * max 1 (secondsFrom now timePoint) < 2 ^ 32 →
        ((∀ t : FreeRtosSteadyTimer κ,
          (t.call true (overload.call callback timePoint now)).service.refused = [] →
            (t.call true (overload.call callback timePoint now)).ArmedOnce callback
              (1000 * max 1 (secondsFrom now timePoint))) ↔
          overload = .timepoint ∧ InReach now timePoint)) ∧
    ∀ (ops : List (SteadyOp κ)) (t : FreeRtosSteadyTimer κ), Meets Succeeds step {} ops →
      run step {} ops = some t → t.service.active.card ≤ 1 ∧ t.service.settled.card ≤ 1 ∧
        ∀ timer ∈ t.service.settled, t.tCallback = lastCallback ops ∧
          ∃ request ∈ lastRequest ops, ∃ armed ∈ t.service.created[timer]?,
            armed.period = t.timeoutTicks ∧ request.CarriedBy armed := by
  refine ⟨fun overload callback timePoint now fits => at_arms_iff fits, ?_⟩
  intro ops t succeeds finish
  have start : Carries [] ({} : FreeRtosSteadyTimer κ) :=
    ⟨⟨Service.Single.initial, rfl, by simp [Service.settled]⟩, rfl, by simp⟩
  have carries := run_history_invariant (fun carries guard moved => carries.step guard moved)
    start succeeds finish
  refine ⟨carries.tidy.single.card_active_le, carries.tidy.single _ List.prefix_rfl, ?_⟩
  intro timer armed
  exact ⟨carries.callback, carries.request timer (carries.tidy.only timer armed)⟩

/-- A timer that is armed for two seconds, and before they are up for a point in time. -/
def armedTwice : List (SteadyOp Bool) :=
  [.call (.timeoutSeconds false 2) true, .processCommand,
    .call (.atTimepoint true (.ofTimestamp 10) (.ofTimestamp 5)) true]

/-- It serves the second call, which came five seconds before the point in time. -/
theorem fires_as_asked_iff_twice : ∃ t : FreeRtosSteadyTimer Bool,
    run step {} armedTwice = some t ∧ t.service.settled.card ≤ 1 ∧ 1 ∈ t.service.settled ∧
      t.tCallback = some true ∧
      ∃ armed ∈ t.service.created[1]?, (armed.period.toNat : ℤ) = 5000 := by
  have reach : InReach (.ofTimestamp 5) (.ofTimestamp 10) := by decide +kernel
  have succeeds : Meets Succeeds step ({} : FreeRtosSteadyTimer Bool) armedTwice := by
    rintro first ⟨⟩
    refine ⟨⟨fun _ => rfl, rfl, trivial⟩, ?_⟩
    rintro second ⟨⟩
    refine ⟨trivial, ?_⟩
    rintro third ⟨⟩
    exact ⟨⟨fun _ => rfl, rfl, fun _ => reach⟩, trivial⟩
  obtain ⟨t, ran, armed⟩ : ∃ t : FreeRtosSteadyTimer Bool,
      run step {} armedTwice = some t ∧ 1 ∈ t.service.settled :=
    ⟨_, rfl, by decide +kernel⟩
  obtain ⟨-, one, fires⟩ := fires_as_asked_iff.2 armedTwice t succeeds ran
  obtain ⟨callback, request, last, kernel, created, -, -, period⟩ := fires 1 armed
  -- The request is that of the second call.
  obtain rfl : ⟨5000, false⟩ = request := by
    have asked : lastRequest armedTwice = some ⟨5000, false⟩ := by decide +kernel
    exact Option.some.inj (asked.symm.trans last)
  exact ⟨t, ran, one, armed, callback, kernel, created, period (by decide) (by decide)⟩

/-- A point in time that is long past is taken for one that is long ahead. -/
theorem fires_after_decades :
    let timePoint := OcppTimepoint.ofTimestamp 0
    let now := OcppTimepoint.ofTimestamp (2 ^ 31 + 1)
    let t : FreeRtosSteadyTimer Unit := call {} true (.atTimepoint () timePoint now)
    1000 * max 1 (secondsFrom now timePoint) < 2 ^ 32 ∧ t.service.refused = [] ∧
      ¬ t.ArmedOnce () (1000 * max 1 (secondsFrom now timePoint)) ∧
      t.ArmedOnce () 4294966296 := by
  decide +kernel

/-- The object does with its kernel timers what the timer of the message in flight does. -/
structure Mirrors (t : FreeRtosSteadyTimer κ) (inFlight : SteadyTimer) : Prop where
  handle : t.timerHandle = inFlight.timerHandle
  service : t.service.forget = inFlight.service.forget
  once : ∀ armed ∈ t.service.created, armed.autoReload = false

variable {t s : FreeRtosSteadyTimer κ} {op : SteadyOp κ} {ticks : UInt32} {timer : ℕ}
  {service : Service Timer} {inFlight : SteadyTimer} {message : ControlMessage}

/-- To end the kernel timer creates none. -/
theorem created_ended : t.ended.created = t.service.created := by
  unfold FreeRtosSteadyTimer.ended
  split <;> simp

/-- The commands that end the kernel timer are those for the message in flight. -/
theorem Mirrors.ended (mirrors : t.Mirrors inFlight) :
    t.ended.forget = inFlight.discard.service.forget := by
  unfold FreeRtosSteadyTimer.ended SteadyTimer.discard
  rw [mirrors.handle]
  cases inFlight.timerHandle with
  | none => exact mirrors.service
  | some timer => simp [mirrors.service]

/-- Arming the timer for a message is one of the ways of arming a timer object. -/
theorem Mirrors.rearm (mirrors : t.Mirrors inFlight) (created : Bool) :
    (t.rearm created ticks false).Mirrors (inFlight.timeout message created) := by
  have ended := mirrors.ended
  have count : t.ended.created.length = inFlight.discard.service.created.length := by
    rw [← Service.length_created_forget, ended, Service.length_created_forget]
  -- The timers there were are those of the object, and a new one runs once as well.
  have once : ∀ armed ∈ t.ended.created, armed.autoReload = false :=
    created_ended ▸ mirrors.once
  cases created with
  | true =>
    refine ⟨congrArg some count, ?_, fun armed member => ?_⟩
    · simp [FreeRtosSteadyTimer.rearm, SteadyTimer.timeout, ended, count]
    · have created : (t.rearm true ticks false).service.created =
          t.ended.created ++ [newTimer ticks false] := by
        simp [FreeRtosSteadyTimer.rearm, newTimer, Service.create]
      rw [created, List.mem_append, List.mem_singleton] at member
      rcases member with earlier | rfl
      · exact once armed earlier
      · rfl
  | false =>
    -- What is ended is given up as well.
    have none : inFlight.discard.timerHandle = none := by
      unfold SteadyTimer.discard
      cases handle : inFlight.timerHandle with
      | none => exact handle
      | some timer => rfl
    exact ⟨none.symm, ended, once⟩

/-- Stopping the timer of the message in flight is stopping a timer object. -/
theorem Mirrors.stop (mirrors : t.Mirrors inFlight) : t.stop.Mirrors inFlight.stop := by
  have handle := mirrors.handle
  cases known : inFlight.timerHandle with
  | none =>
    rw [stop_of_none (handle.trans known), SteadyTimer.stop_of_none known]
    exact mirrors
  | some timer =>
    rw [stop_of_some (handle.trans known), SteadyTimer.stop_of_some known]
    exact ⟨handle, by simp [mirrors.service], by simpa using mirrors.once⟩

/-- What the timer task does to one of them, it does to the other. -/
theorem Mirrors.of_service (mirrors : t.Mirrors inFlight) {other : Service ControlMessage}
    (same : service.forget = other.forget) (created : service.created = t.service.created) :
    Mirrors { t with service } { inFlight with service := other } :=
  ⟨mirrors.handle, same, created ▸ mirrors.once⟩

/-- Without a timer that reloads itself, every timer ends by expiring. -/
theorem Mirrors.expire_eq (mirrors : t.Mirrors inFlight) :
    t.expire timer = (t.service.expire timer).map fun service => { t with service } := by
  unfold FreeRtosSteadyTimer.expire
  split
  · next ticks created =>
    have once := mirrors.once _ (List.mem_of_getElem? created)
    cases once
  · rfl

/-- A call, if it is one, arms the timer for a single expiry or does not arm it. -/
def OneShot : SteadyOp κ → Prop
  | .call call _ => ∀ request ∈ call.request?, request.autoReload = false
  | _ => True

/-- One call or one action of the timer task, where each call that arms is for one message. -/
def timerStep (message : ControlMessage) : Step SteadyTimer (SteadyOp κ) := fun t op =>
  match op with
  | .call .stop _ => some t.stop
  | .call (.atSeconds ..) _ => some t
  | .call _ created => some (t.timeout message created)
  | .processCommand => t.service.process.map fun service => { t with service }
  | .expire timer => (t.service.expire timer).map fun service => { t with service }
  | .finish => some { t with service := t.service.finish }

/-- A callback that a call installs is none of the business of the kernel timers. -/
theorem Mirrors.install (mirrors : t.Mirrors inFlight) (callback : κ) :
    Mirrors { t with tCallback := some callback } inFlight :=
  ⟨mirrors.handle, mirrors.service, mirrors.once⟩

/-- Each operation that arms no timer for more than one expiry is followed. -/
theorem Mirrors.step (mirrors : t.Mirrors inFlight) (once : OneShot op)
    (moved : step t op = some s) :
    ∃ next, timerStep message inFlight op = some next ∧ s.Mirrors next := by
  cases op with
  | call call created =>
    obtain rfl := Option.some.inj moved
    -- The calls for one expiry arm in the same way, whatever their arguments are.
    cases call with
    | timeout => exact ⟨_, rfl, mirrors.rearm created⟩
    | timeoutDuration callback | timeoutSeconds callback =>
      exact ⟨_, rfl, (mirrors.install callback).rearm created⟩
    | atTimepoint callback => exact ⟨_, rfl, (mirrors.install callback).rearm created⟩
    | atSeconds => exact ⟨_, rfl, mirrors⟩
    | intervalDuration | interval => cases once _ rfl
    | stop => exact ⟨_, rfl, mirrors.stop⟩
  | processCommand =>
    obtain ⟨service, processed, rfl⟩ := Option.map_eq_some_iff.mp moved
    have along : inFlight.service.forget.process = some service.forget := by
      rw [← mirrors.service, Service.forget_process, processed, Option.map_some]
    rw [Service.forget_process] at along
    obtain ⟨other, moves, same⟩ := Option.map_eq_some_iff.mp along
    obtain ⟨command, commands, -, created⟩ := Service.process_cases processed
    exact ⟨_, by simp [timerStep, moves], mirrors.of_service same.symm (by rw [created])⟩
  | expire timer =>
    change t.expire timer = some s at moved
    rw [mirrors.expire_eq] at moved
    obtain ⟨service, expired, rfl⟩ := Option.map_eq_some_iff.mp moved
    have along : inFlight.service.forget.expire timer = some service.forget := by
      rw [← mirrors.service, Service.forget_expire, expired, Option.map_some]
    rw [Service.forget_expire] at along
    obtain ⟨other, moves, same⟩ := Option.map_eq_some_iff.mp along
    obtain ⟨-, created⟩ := Service.expire_cases expired
    exact ⟨_, by simp [timerStep, moves], mirrors.of_service same.symm (by rw [created])⟩
  | finish =>
    obtain rfl := Option.some.inj moved
    refine ⟨_, rfl, mirrors.of_service ?_ rfl⟩
    exact congrArg Service.finish mirrors.service

/-- A timer object that is armed for one expiry at a time is the timer of a message in flight. -/
theorem mirrors_run {ops : List (SteadyOp κ)} (once : ∀ op ∈ ops, OneShot op)
    (ran : run step {} ops = some t) :
    ∃ inFlight, run (timerStep message) {} ops = some inFlight ∧ t.Mirrors inFlight :=
  run_simulation (fun mirrors once moved => mirrors.step once moved)
    ⟨rfl, rfl, by simp⟩ (meets_of_forall once) ran

end FreeRtosSteadyTimer

end EasyEvse.Csms
