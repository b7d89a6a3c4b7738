import EasyEvse.J1772.PwmOutput

/-! Where the converter is triggered: inside the period, and behind the match if there is one. -/

namespace EasyEvse.J1772

/-- A duty as it is used, which is limited to what a signal can have. -/
def clampDuty (dutyCyclePercent : ℚ) : ℚ :=
  if dutyCyclePercent < 0 then 0 else if dutyCyclePercent > 100 then 100 else dutyCyclePercent

/-- A duty that is limited is valid. -/
theorem clampDuty_valid (duty : ℚ) : 0 ≤ clampDuty duty ∧ clampDuty duty ≤ 100 := by
  unfold clampDuty
  split_ifs <;> constructor <;> linarith

/-- Limits keep the order of two duties. -/
theorem clampDuty_mono : Monotone clampDuty := by
  intro duty other smaller
  unfold clampDuty
  split_ifs <;> linarith

/-- The width of the pulse that the trigger point is computed from. -/
def sampledWidth (pwmPeriod pulseWidth : UInt32) : UInt32 :=
  if pulseWidth = 0 ∨ pulseWidth = pwmPeriod + 1 then pwmPeriod / 2 else pulseWidth

variable {pwmPeriod : UInt32}

/-- One tick more than a short period does not wrap around. -/
theorem toNat_succ (short : pwmPeriod.toNat < 2 ^ 31) :
    (pwmPeriod + 1).toNat = pwmPeriod.toNat + 1 := by
  rw [UInt32.toNat_add]
  exact Nat.mod_eq_of_lt (by change pwmPeriod.toNat + 1 < 2 ^ 32; omega)

/-- The part of a period that is left by a duty, in ticks. -/
def exactWidth (pwmPeriod : UInt32) (duty : ℚ) : ℚ :=
  (pwmPeriod.toNat + 1) * (100 - clampDuty duty) / 100

/-- The exact width is between none and all ticks of the period. -/
theorem exactWidth_bounds (pwmPeriod : UInt32) (duty : ℚ) :
    0 ≤ exactWidth pwmPeriod duty ∧ exactWidth pwmPeriod duty ≤ pwmPeriod.toNat + 1 := by
  obtain ⟨least, most⟩ := clampDuty_valid duty
  have ticks : (0 : ℚ) ≤ pwmPeriod.toNat + 1 := by positivity
  constructor
  · exact div_nonneg (mul_nonneg ticks (by linarith)) (by norm_num)
  · rw [exactWidth, div_le_iff₀ (by norm_num)]
    exact mul_le_mul_of_nonneg_left (by linarith) ticks

/-- More duty leaves less of a period. -/
theorem exactWidth_antitone (pwmPeriod : UInt32) : Antitone (exactWidth pwmPeriod) := by
  intro duty other smaller
  have limited := clampDuty_mono smaller
  unfold exactWidth
  gcongr

/-- Without its fraction, the exact width is a number of ticks of the period. -/
theorem floor_exactWidth_le (pwmPeriod : UInt32) (duty : ℚ) :
    ⌊exactWidth pwmPeriod duty⌋₊ ≤ pwmPeriod.toNat + 1 :=
  Nat.floor_le_of_le (by exact_mod_cast (exactWidth_bounds pwmPeriod duty).2)

/-- The pulse width is the exact one without its fraction, which always fits. -/
theorem calculatePwmPulseWidth_toNat (short : pwmPeriod.toNat < 2 ^ 31) (duty : ℚ) :
    (calculatePwmPulseWidth duty pwmPeriod).toNat = ⌊exactWidth pwmPeriod duty⌋₊ := by
  have least := (exactWidth_bounds pwmPeriod duty).1
  have whole := floor_exactWidth_le pwmPeriod duty
  -- The one tick more of the period is added before anything is converted.
  have ticks : calculatePwmPulseWidth duty pwmPeriod = toUint32 (exactWidth pwmPeriod duty) := by
    rw [exactWidth, ← Nat.cast_succ, Nat.succ_eq_add_one, ← toNat_succ short]
    rfl
  rw [ticks]
  exact toUint32_toNat (Nat.floor_le least) (Nat.lt_floor_add_one _) (by omega)

/-- The pulse is at most one tick longer than what the timer counts to. -/
theorem pulseWidth_le (short : pwmPeriod.toNat < 2 ^ 31) (duty : ℚ) :
    (calculatePwmPulseWidth duty pwmPeriod).toNat ≤ pwmPeriod.toNat + 1 := by
  rw [calculatePwmPulseWidth_toNat short]
  exact floor_exactWidth_le pwmPeriod duty

/-- More duty makes the pulse no longer. -/
theorem pulseWidth_antitone (short : pwmPeriod.toNat < 2 ^ 31) {duty more : ℚ}
    (smaller : duty ≤ more) :
    calculatePwmPulseWidth more pwmPeriod ≤ calculatePwmPulseWidth duty pwmPeriod := by
  rw [UInt32.le_iff_toNat_le, calculatePwmPulseWidth_toNat short,
    calculatePwmPulseWidth_toNat short]
  exact Nat.floor_le_floor (exactWidth_antitone pwmPeriod smaller)

/-- The sampled width fits the period if the pulse is at most one tick longer. -/
theorem sampledWidth_le (short : pwmPeriod.toNat < 2 ^ 31) {pulseWidth : UInt32}
    (most : pulseWidth.toNat ≤ pwmPeriod.toNat + 1) :
    (sampledWidth pwmPeriod pulseWidth).toNat ≤ pwmPeriod.toNat := by
  unfold sampledWidth
  split_ifs with constant
  · -- Half of the period is taken for a signal that does not change.
    rw [UInt32.toNat_div]
    exact Nat.div_le_self _ _
  · -- The one width that is too long is the one that was replaced.
    have other : pulseWidth.toNat ≠ (pwmPeriod + 1).toNat := fun same =>
      constant (.inr (UInt32.toNat_inj.mp same))
    rw [toNat_succ short] at other
    omega

/-- A width that fits is taken off and half of the rest is added without wrapping around. -/
theorem calculateAdcTriggerPoint_toNat {pulseWidth : UInt32}
    (fits : (sampledWidth pwmPeriod pulseWidth).toNat ≤ pwmPeriod.toNat) :
    (calculateAdcTriggerPoint pwmPeriod pulseWidth).toNat =
      (sampledWidth pwmPeriod pulseWidth).toNat +
        (pwmPeriod.toNat - (sampledWidth pwmPeriod pulseWidth).toNat) / 2 := by
  -- Half of the rest is at most the rest, so that neither operation leaves the 32 bits.
  have point : calculateAdcTriggerPoint pwmPeriod pulseWidth =
      sampledWidth pwmPeriod pulseWidth + (pwmPeriod - sampledWidth pwmPeriod pulseWidth) / 2 := rfl
  have half : ((pwmPeriod - sampledWidth pwmPeriod pulseWidth) / 2).toNat =
      (pwmPeriod.toNat - (sampledWidth pwmPeriod pulseWidth).toNat) / 2 := by
    rw [UInt32.toNat_div, UInt32.toNat_sub_of_le _ _ (UInt32.le_iff_toNat_le.mpr fits)]
    rfl
  have bounded := pwmPeriod.toNat_lt
  rw [point, UInt32.toNat_add, half]
  exact Nat.mod_eq_of_lt (by omega)

/-- Half of what is behind the sampled width is inside the period, and behind that width. -/
theorem triggerPoint_bounds {pulseWidth : UInt32}
    (fits : (sampledWidth pwmPeriod pulseWidth).toNat ≤ pwmPeriod.toNat) :
    sampledWidth pwmPeriod pulseWidth ≤ calculateAdcTriggerPoint pwmPeriod pulseWidth ∧
      calculateAdcTriggerPoint pwmPeriod pulseWidth ≤ pwmPeriod := by
  rw [UInt32.le_iff_toNat_le, UInt32.le_iff_toNat_le, calculateAdcTriggerPoint_toNat fits]
  omega

/-- A match inside the period is sampled as it is. -/
theorem sampledWidth_of_match (short : pwmPeriod.toNat < 2 ^ 31) {pulseWidth : UInt32}
    (positive : 0 < pulseWidth) (inside : pulseWidth ≤ pwmPeriod) :
    sampledWidth pwmPeriod pulseWidth = pulseWidth := by
  refine if_neg ?_
  rintro (none | all)
  · exact absurd (none ▸ positive) (UInt32.lt_irrefl _)
  · rw [all, UInt32.le_iff_toNat_le, toNat_succ short] at inside
    exact absurd inside (Nat.not_succ_le_self _)

/-- For a period that is not too long, the width and the trigger point are inside it. -/
theorem triggerPoint_inside (range : 1 ≤ pwmPeriod.toNat ∧ pwmPeriod.toNat < 2 ^ 31) :
    (∀ duty, (calculatePwmPulseWidth duty pwmPeriod).toNat = ⌊exactWidth pwmPeriod duty⌋₊ ∧
      (calculatePwmPulseWidth duty pwmPeriod).toNat ≤ pwmPeriod.toNat + 1) ∧
    (∀ duty more, duty ≤ more →
      calculatePwmPulseWidth more pwmPeriod ≤ calculatePwmPulseWidth duty pwmPeriod) ∧
    ∀ duty,
      let pulseWidth := calculatePwmPulseWidth duty pwmPeriod
      let sampled := sampledWidth pwmPeriod pulseWidth
      let triggerPoint := calculateAdcTriggerPoint pwmPeriod pulseWidth
      sampled ≤ pwmPeriod ∧
      triggerPoint.toNat = sampled.toNat + (pwmPeriod.toNat - sampled.toNat) / 2 ∧
      triggerPoint ≤ pwmPeriod ∧
      (0 < pulseWidth → pulseWidth ≤ pwmPeriod → pulseWidth ≤ triggerPoint) := by
  obtain ⟨-, short⟩ := range
  refine ⟨fun duty => ⟨calculatePwmPulseWidth_toNat short duty, pulseWidth_le short duty⟩,
    fun _ _ => pulseWidth_antitone short, fun duty => ?_⟩
  have fits := sampledWidth_le short (pulseWidth_le short duty)
  obtain ⟨behind, inside⟩ := triggerPoint_bounds fits
  refine ⟨UInt32.le_iff_toNat_le.mpr fits, calculateAdcTriggerPoint_toNat fits, inside,
    fun positive matched => ?_⟩
  rwa [sampledWidth_of_match short positive matched] at behind

/-- At the half of a period of a thousand ticks, the trigger is in its last quarter. -/
theorem triggerPoint_half :
    calculatePwmPulseWidth 50 999 = 500 ∧ calculateAdcTriggerPoint 999 500 = 749 ∧
      calculateAdcTriggerPoint 999 500 ≤ 999 := by
  have width : calculatePwmPulseWidth 50 999 = 500 := by decide +kernel
  have inside := ((@triggerPoint_inside 999 (by decide)).2.2 50).2.2.1
  rw [width] at inside
  exact ⟨width, by decide, inside⟩

end EasyEvse.J1772
