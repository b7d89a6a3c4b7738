import EasyEvse.J1772.DutyCycle
import EasyEvse.Transition.Run

/-! The output of the pilot signal: the duty that is cached, and the timer that is programmed. -/

namespace EasyEvse.J1772

open Transition

/-- Conversion of a non-negative value to a 32-bit unsigned integer. -/
def toUint32 (value : ℚ) : UInt32 := UInt32.ofNat value.floor.toNat

/-- A value that fits is converted to its whole part. -/
theorem toUint32_toNat {value : ℚ} {n : ℕ} (above : n ≤ value) (below : value < n + 1)
    (small : n < 2 ^ 32) : (toUint32 value).toNat = n := by
  rw [toUint32, floor_eq_natCast above below, Int.toNat_natCast, UInt32.toNat_ofNat',
    Nat.mod_eq_of_lt small]

def cpPwmFreq : UInt32 := 1000

def cpPwmDefaultDutyCycle : ℚ := 100

/-- Where the converter is triggered: in the middle of the part after the pulse. -/
def calculateAdcTriggerPoint (pwmPeriod pulseWidth : UInt32) : UInt32 :=
  -- A signal that does not change can be sampled anywhere.
  let pulseWidth :=
    if pulseWidth = 0 ∨ pulseWidth = pwmPeriod + 1 then pwmPeriod / 2 else pulseWidth
  pulseWidth + (pwmPeriod - pulseWidth) / 2

def calculatePwmPeriod (pwmFreqHz timerClockHz : UInt32) : UInt32 := timerClockHz / pwmFreqHz - 1

/-- The match value of a duty. The output is high from the match to the end of the period. -/
def calculatePwmPulseWidth (dutyCyclePercent : ℚ) (pwmPeriod : UInt32) : UInt32 :=
  let dutyCyclePercent :=
    if dutyCyclePercent < 0 then 0 else if dutyCyclePercent > 100 then 100 else dutyCyclePercent
  toUint32 ((pwmPeriod + 1).toNat * (100 - dutyCyclePercent) / 100)

/-- The match channels of the timer. -/
inductive CtimerMatch
  | output
  | adcTrigger
  | period
  deriving DecidableEq, Repr

inductive PwmStatus
  | success
  | invalidArgument
  deriving DecidableEq, Repr

/-- The static variables of the pilot signal, and all that was written to the timer. -/
structure PwmOutput where
  ctimerInit : Bool := false
  ctimerPrescale : UInt32 := 0
  pwmPeriod : UInt32 := 0
  pulseWidth : UInt32 := 0
  cpDutyCycle : ℚ := 0
  /-- The match values, newest first. -/
  writes : List (CtimerMatch × UInt32) := []
  deriving DecidableEq, Repr

namespace PwmOutput

variable (t : PwmOutput)

/-- The match value that a channel has now. -/
def matchValue (channel : CtimerMatch) : UInt32 := (t.writes.lookup channel).getD 0

/-- How often the pulse width was programmed. -/
def widths : ℕ := t.writes.countP fun write => write.1 = .output

def setPwm1kHz (ctimerClkFreq : UInt32) : PwmOutput :=
  let timerClockHz := ctimerClkFreq / t.ctimerPrescale
  let pwmPeriod := calculatePwmPeriod cpPwmFreq timerClockHz
  let pulseWidth := calculatePwmPulseWidth cpPwmDefaultDutyCycle pwmPeriod
  { t with
    pwmPeriod
    pulseWidth
    writes := (.output, pulseWidth) :: (.period, pwmPeriod) :: t.writes }

/-- Set the timer up for the default duty. The cached duty is left as it is. -/
def pwmInit (ctimerClkFreq : UInt32) : PwmOutput :=
  -- By default the clock of the timer is not divided.
  { setPwm1kHz { t with ctimerPrescale := 0 + 1 } ctimerClkFreq with ctimerInit := true }

/-- Program a new duty, unless it is the one that is cached. -/
def updatePwm (dutyCyclePercent : ℚ) : PwmStatus × PwmOutput :=
  if dutyCyclePercent < 0 ∨ dutyCyclePercent > 100 then (.invalidArgument, t)
  else if t.cpDutyCycle = dutyCyclePercent then (.success, t)
  else
    let pulseWidth := calculatePwmPulseWidth dutyCyclePercent t.pwmPeriod
    (.success, { t with
      cpDutyCycle := dutyCyclePercent
      pulseWidth
      writes := (.adcTrigger, calculateAdcTriggerPoint t.pwmPeriod pulseWidth) ::
        (.output, pulseWidth) :: t.writes })

/-- One call. Every call is possible at any time. -/
def step : Step PwmOutput ℚ := fun t dutyCyclePercent => some (t.updatePwm dutyCyclePercent).2

/-- A call does to the timer what it says, or says that it does nothing. -/
def Serves (dutyCyclePercent : ℚ) : Prop :=
  let status := (t.updatePwm dutyCyclePercent).1
  let after := (t.updatePwm dutyCyclePercent).2
  let pulseWidth := calculatePwmPulseWidth dutyCyclePercent after.pwmPeriod
  (status = .success → after.matchValue .output = pulseWidth ∧
    after.cpDutyCycle = dutyCyclePercent ∧
    (t.widths < after.widths →
      after.matchValue .adcTrigger = calculateAdcTriggerPoint after.pwmPeriod pulseWidth)) ∧
  (dutyCyclePercent < 0 ∨ dutyCyclePercent > 100 → status = .invalidArgument ∧ after = t)

instance (dutyCyclePercent : ℚ) : Decidable (t.Serves dutyCyclePercent) :=
  inferInstanceAs (Decidable (_ ∧ _))

/-- A duty that can be asked for. -/
def Valid (dutyCyclePercent : ℚ) : Prop := 0 ≤ dutyCyclePercent ∧ dutyCyclePercent ≤ 100

instance : DecidablePred Valid := fun _ => inferInstanceAs (Decidable (_ ∧ _))

variable {t} {duty : ℚ} {duties : List ℚ} {ctimerClkFreq : UInt32}

/-- A duty that cannot be asked for changes nothing. -/
theorem updatePwm_of_not_valid (refused : ¬ Valid duty) :
    t.updatePwm duty = (.invalidArgument, t) := by
  have range : duty < 0 ∨ duty > 100 := by
    by_contra inside
    exact refused (by simpa [Valid, not_or] using inside)
  rw [updatePwm, if_pos range]

/-- The duty that is cached is not programmed again. -/
theorem updatePwm_of_cached (valid : Valid duty) (cached : duty = t.cpDutyCycle) :
    t.updatePwm duty = (.success, t) := by
  have range : ¬ (duty < 0 ∨ duty > 100) := by simpa [Valid, not_or] using valid
  rw [updatePwm, if_neg range, if_pos cached.symm]

/-- Any other duty is cached and programmed, together with the trigger of the converter. -/
theorem updatePwm_of_new (valid : Valid duty) (new : duty ≠ t.cpDutyCycle) :
    t.updatePwm duty = (.success, { t with
      cpDutyCycle := duty
      pulseWidth := calculatePwmPulseWidth duty t.pwmPeriod
      writes :=
        (.adcTrigger, calculateAdcTriggerPoint t.pwmPeriod
          (calculatePwmPulseWidth duty t.pwmPeriod)) ::
        (.output, calculatePwmPulseWidth duty t.pwmPeriod) :: t.writes }) := by
  have range : ¬ (duty < 0 ∨ duty > 100) := by simpa [Valid, not_or] using valid
  rw [updatePwm, if_neg range, if_neg (Ne.symm new)]

/-- A duty that cannot be asked for is served by being refused. -/
theorem serves_of_not_valid (refused : ¬ Valid duty) : t.Serves duty := by
  simp [Serves, updatePwm_of_not_valid refused]

/-- The duty that is cached is served exactly if it is the one that is programmed. -/
theorem serves_of_cached (valid : Valid duty) (cached : duty = t.cpDutyCycle) :
    t.Serves duty ↔ t.matchValue .output = calculatePwmPulseWidth duty t.pwmPeriod := by
  have range : ¬ (duty < 0 ∨ duty > 100) := by simpa [Valid, not_or] using valid
  simp [Serves, updatePwm_of_cached valid cached, cached.symm, range]

/-- Any other duty is served. -/
theorem serves_of_new (valid : Valid duty) (new : duty ≠ t.cpDutyCycle) : t.Serves duty := by
  have range : ¬ (duty < 0 ∨ duty > 100) := by simpa [Valid, not_or] using valid
  rw [Serves, updatePwm_of_new valid new]
  exact ⟨fun _ => ⟨rfl, rfl, fun _ => rfl⟩, fun outside => absurd outside range⟩

/-- All calls are served exactly if the first one does not meet a duty that is cached in vain. -/
theorem meets_serves_iff : Meets Serves step t duties ↔
    ∀ duty, duties.find? Valid = some duty → duty = t.cpDutyCycle →
      t.matchValue .output = calculatePwmPulseWidth duty t.pwmPeriod := by
  -- Each call is served in its turn, and the first valid one decides about all the others.
  induction duties generalizing t with
  | nil => simp [Meets]
  | cons duty duties ih =>
    have rest : Meets Serves step t (duty :: duties) ↔
        t.Serves duty ∧ Meets Serves step (t.updatePwm duty).2 duties := by
      simp [Meets, step]
    rw [rest]
    by_cases valid : Valid duty
    · rw [List.find?_cons_of_pos (by simpa using valid)]
      simp only [Option.some.injEq, forall_eq']
      by_cases cached : duty = t.cpDutyCycle
      · -- Nothing is programmed, so that all depends on what is programmed already.
        rw [serves_of_cached valid cached, updatePwm_of_cached valid cached, ih]
        constructor
        · rintro ⟨right, -⟩ -
          exact right
        · intro right
          -- What is cached is programmed, and serves whoever asks for it later.
          have right := right cached
          refine ⟨right, fun later _ again => ?_⟩
          rw [again, ← cached]
          exact right
      · -- The duty is programmed together with the cache, which agree from here on.
        rw [updatePwm_of_new valid cached, ih]
        refine iff_of_true ⟨serves_of_new valid cached, fun later _ again => ?_⟩
          fun same => absurd same cached
        rw [again]
        rfl
    · -- A call that is refused leaves the first valid one to the others.
      rw [updatePwm_of_not_valid valid, ih, List.find?_cons_of_neg (by simpa using valid)]
      exact and_iff_right (serves_of_not_valid valid)

/-- The number of ticks of a period comes from the clock alone. -/
theorem pwmInit_period :
    (t.pwmInit ctimerClkFreq).pwmPeriod + 1 = ctimerClkFreq / 1000 := by
  have undivided : ctimerClkFreq / (0 + 1) = ctimerClkFreq := by
    rw [← UInt32.toNat_inj, UInt32.toNat_div]
    exact Nat.div_one _
  -- What is taken off for the period is added again, even if it was none.
  change ctimerClkFreq / (0 + 1) / 1000 - 1 + 1 = _
  rw [undivided]
  exact UInt32.sub_add_cancel _ _

/-- The width of a valid duty is none exactly if less than one tick is left of the period. -/
theorem pulseWidth_eq_zero_iff {pwmPeriod : UInt32} (valid : Valid duty) :
    calculatePwmPulseWidth duty pwmPeriod = 0 ↔
      ((pwmPeriod + 1).toNat : ℚ) * (100 - duty) < 100 := by
  have clamped : calculatePwmPulseWidth duty pwmPeriod =
      toUint32 ((pwmPeriod + 1).toNat * (100 - duty) / 100) := by
    rw [calculatePwmPulseWidth, if_neg (not_lt.mpr valid.1), if_neg (not_lt.mpr valid.2)]
  have ticks : ((pwmPeriod + 1).toNat : ℚ) < 2 ^ 32 := by
    exact_mod_cast (pwmPeriod + 1).toNat_lt
  have least : (0 : ℚ) ≤ (pwmPeriod + 1).toNat * (100 - duty) :=
    mul_nonneg (Nat.cast_nonneg _) (by linarith [valid.2])
  have most : ((pwmPeriod + 1).toNat : ℚ) * (100 - duty) ≤ (pwmPeriod + 1).toNat * 100 :=
    mul_le_mul_of_nonneg_left (by linarith [valid.1]) (Nat.cast_nonneg _)
  -- The product is at most the ticks of a period, so that its whole part fits.
  rw [clamped]
  generalize ((pwmPeriod + 1).toNat : ℚ) * (100 - duty) = product at least most ⊢
  obtain ⟨n, above, below, -, small⟩ := whole_part (product / 100) 0 (2 ^ 32)
    (by push_cast; linarith) (by push_cast; linarith)
  rw [← UInt32.toNat_inj, toUint32_toNat above below small]
  constructor
  · intro none
    have none : n = 0 := none
    rw [none] at below
    push_cast at below
    linarith
  · intro less
    have none : (n : ℚ) < 1 := by linarith
    have none : n < 1 := by exact_mod_cast none
    exact Nat.lt_one_iff.mp none

/-- The calls after an initialisation are served unless the first one asks for a cached duty. -/
theorem cache_matches_iff : Meets Serves step (t.pwmInit ctimerClkFreq) duties ↔
    ∀ duty, duties.find? Valid = some duty → duty = t.cpDutyCycle →
      ((ctimerClkFreq / 1000).toNat : ℚ) * (100 - duty) < 100 := by
  have default : (t.pwmInit ctimerClkFreq).matchValue .output = 0 :=
    (pulseWidth_eq_zero_iff (by decide)).mpr (by norm_num [cpPwmDefaultDutyCycle])
  rw [meets_serves_iff, default]
  refine forall₂_congr fun duty first => ?_
  have valid : Valid duty := by simpa using List.find?_some first
  rw [@eq_comm _ 0, pulseWidth_eq_zero_iff valid, pwmInit_period]
  rfl

/-- The first duty after the start is none, which is cached although it was not programmed. -/
theorem first_duty_unserved :
    let t := pwmInit {} 16000000
    ¬ Meets Serves step t [0] ∧ (t.updatePwm 0).1 = .success ∧
      (t.updatePwm 0).2.matchValue .output = 0 ∧
      calculatePwmPulseWidth 0 (t.updatePwm 0).2.pwmPeriod = 16000 := by
  decide +kernel

end PwmOutput

end EasyEvse.J1772
