import Mathlib.Algebra.Group.Int.Defs
import Mathlib.Algebra.Group.Nat.Defs
import Mathlib.Data.Int.Notation

/-! The timer behind the periodic meter values, which all transactions share. -/

namespace EasyEvse.Ocpp

/-- A software timer of the kernel. -/
structure Timer where
  /-- In ticks of a millisecond. -/
  period : UInt32
  autoReload : Bool
  deriving DecidableEq, Repr

/-- Milliseconds as ticks, by way of 64 bits. -/
def pdMsToTicks (ms : ℤ) : UInt32 := (UInt64.ofInt ms * 1000 / 1000).toUInt32

/-- Milliseconds that fit the type of ticks are as many ticks. -/
theorem pdMsToTicks_toNat (ticks : UInt32) : pdMsToTicks ticks.toNat = ticks := by
  have size := ticks.toNat_lt
  have thousand : 1000 % 2 ^ 64 = 1000 := rfl
  have natural : ((ticks.toNat : ℤ) % 2 ^ 64).toNat = ticks.toNat := by omega
  rw [← UInt32.toNat_inj, pdMsToTicks, UInt64.ofInt]
  simp only [UInt64.toNat_toUInt32, UInt64.toNat_div, UInt64.toNat_mul, UInt64.toNat_ofNat',
    UInt64.toNat_ofNat, thousand, natural]
  -- Neither the cast nor the product overflows 64 bits, and the division undoes the product.
  rw [Nat.mod_eq_of_lt (by omega : ticks.toNat < 2 ^ 64),
    Nat.mod_eq_of_lt (by omega : ticks.toNat * 1000 < 2 ^ 64), Nat.mul_div_cancel _ (by omega),
    Nat.mod_eq_of_lt size]

/-- A duration in milliseconds that fits the type of ticks is kept by the cast. -/
theorem ofInt_toNat {intervalMs : ℤ} (least : 0 ≤ intervalMs) (most : intervalMs < 2 ^ 32) :
    ((UInt32.ofInt intervalMs).toNat : ℤ) = intervalMs := by
  rw [UInt32.ofInt, UInt32.toNat_ofNat']
  omega

/-- The timer, if one was created, and the flag that goes with it. -/
structure EvseTimer where
  timerHandle : Option Timer := none
  intervalMs : ℤ := 0
  timerStarted : Bool := false
  deriving DecidableEq, Repr

namespace EvseTimer

variable (t : EvseTimer)

/-- Create and start the timer, unless it is started. Creating it may fail. -/
def startTimer (interval : ℤ) (created : Bool) : EvseTimer :=
  if t.timerStarted then t
  else if interval * 1000 = 0 then { t with intervalMs := interval * 1000 }
  else
    { t with
      intervalMs := interval * 1000
      timerHandle := if created then some ⟨pdMsToTicks (interval * 1000), true⟩ else none
      -- The flag is set whether or not there is a timer.
      timerStarted := true }

/-- Stop and delete the timer, if there is one. -/
def stop : EvseTimer :=
  if t.timerHandle = none then t else { t with timerHandle := none, timerStarted := false }

end EvseTimer

/-- The timer with the interval and the callback that were asked for last. -/
structure ClockAlignedTimer extends EvseTimer where
  callInterval : ℤ := 0
  /-- Whether a callback was installed. -/
  callback : Bool := false
  deriving DecidableEq, Repr

namespace ClockAlignedTimer

variable (t : ClockAlignedTimer)

/-- Install the callback, and have it called at that interval. -/
def intervalStartingFrom (interval : ℤ) (created : Bool) : ClockAlignedTimer :=
  { t with
    callback := true
    callInterval := interval
    toEvseTimer := t.startTimer interval created }

/-- Stop the timer. The callback stays installed. -/
def stop : ClockAlignedTimer := { t with toEvseTimer := t.toEvseTimer.stop }

/-- After a stop there is no timer. -/
@[simp] theorem stop_timerHandle : t.stop.timerHandle = none := by
  unfold stop EvseTimer.stop
  split
  · assumption
  · rfl

end ClockAlignedTimer

end EasyEvse.Ocpp
