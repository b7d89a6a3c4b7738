import Mathlib.Data.Int.Log
import EasyEvse.J1772.State

/-! The control-pilot reading: the voltage windows, and the filter of successive readings. -/

namespace EasyEvse.J1772

/-- Rounding to the nearest integer, and to the even one of two that are equally near. -/
def roundHalfEven (value : ℚ) : ℤ :=
  if value - ⌊value⌋ < 1 / 2 ∨ value - ⌊value⌋ = 1 / 2 ∧ ⌊value⌋ % 2 = 0 then ⌊value⌋
  else ⌊value⌋ + 1

/-- Rounding of a positive value in range to single precision, which has 24 significant bits. -/
def toFloat (value : ℚ) : ℚ :=
  let unit : ℚ := 2 ^ (Int.log 2 value - 23)
  roundHalfEven (value / unit) * unit

def cpReferenceSignalVoltage : ℚ := toFloat (9 / 5)

def cpMaxVoltage : ℚ := toFloat (8 / 5)

def scalingFactor : ℚ := toFloat (cpMaxVoltage / cpReferenceSignalVoltage)

/-- The window of levels of each state, both ends excluded, in the order they are tried. -/
def levels : List (ControlPilotState × ℕ × ℕ) :=
  [(.stateA, 60000, 62000), (.stateB, 54000, 56000), (.stateC, 47000, 49000),
    (.stateD, 43000, 45000), (.stateE, 30000, 32000), (.stateF, 25000, 29000)]

/-- The raw value of the converter in the scale of the levels. -/
def scaleCpValue (cpValue : UInt32) : ℕ :=
  -- A quotient too large for the conversion back is above all windows in any case.
  (⌊toFloat (toFloat cpValue.toNat / scalingFactor)⌋).toNat

/-- The state that a raw value stands for, by the windows alone. -/
def classify (cpValue : UInt32) : ControlPilotState :=
  match levels.find? fun (_, low, high) => low < scaleCpValue cpValue ∧ scaleCpValue cpValue < high
    with
  | some (state, _, _) => state
  | none => .stateUnknown

/-- How often a state must have been detected before it is returned. -/
def cpSuccesiveSameState : ℕ := 2

/-- The static variables of the filter. -/
structure CpFilter where
  latestStateReturned : ControlPilotState := .stateUnknown
  latestStateDetected : ControlPilotState := .stateA
  consecutiveSameStateReturned : ℕ := 0
  deriving DecidableEq, Repr

/-- One reading, which returns the state that is kept as the latest one returned. -/
def getStateFromCPValue (f : CpFilter) (cpValue : UInt32) : CpFilter × ControlPilotState :=
  let state := classify cpValue
  -- The detected state is written down before it is compared.
  let f := { f with latestStateDetected := state }
  let f :=
    if state = .stateUnknown then { f with consecutiveSameStateReturned := 0 }
    else if f.consecutiveSameStateReturned = cpSuccesiveSameState then
      { f with latestStateReturned := state }
    else if f.latestStateDetected = state then
      { f with consecutiveSameStateReturned := f.consecutiveSameStateReturned + 1 }
    else { f with consecutiveSameStateReturned := 0 }
  (f, f.latestStateReturned)

/-- The filter after some raw values, from the start on. -/
def filterAll (cpValues : List UInt32) : CpFilter :=
  cpValues.foldl (fun f cpValue => (getStateFromCPValue f cpValue).1) {}

example : (filterAll [0xD6D8, 0xD6D8, 0xD6D8]).latestStateReturned = .stateA := by decide +kernel

/-- A change of what is returned is to what the last two values both classify as. -/
def Debounced (cpValues : List UInt32) : Prop :=
  ∀ front u v, front ++ [u, v] <+: cpValues →
    (getStateFromCPValue (filterAll (front ++ [u])) v).2 ≠
      (getStateFromCPValue (filterAll front) u).2 →
    classify u = (getStateFromCPValue (filterAll (front ++ [u])) v).2 ∧
      classify v = (getStateFromCPValue (filterAll (front ++ [u])) v).2

/-- How many values in a row were in some window when the last one was read. -/
def knownReadings (cpValues : List UInt32) : ℕ :=
  (cpValues.reverse.takeWhile fun cpValue => classify cpValue ≠ .stateUnknown).length

/-- The state of the latest value that came third or later in a row of values in some window. -/
def latestThird (cpValues : List UInt32) : ControlPilotState :=
  let rows := cpValues.inits.filter fun front => cpSuccesiveSameState < knownReadings front
  ((rows.getLast?.bind List.getLast?).map classify).getD .stateUnknown

/--
The last of some raw values is one that the filter is right about.

If it comes third or later in a row of values in some window, it repeats the state of the value
before it, or that of the latest value before it that came third or later in such a row.
-/
def Repeats (front : List UInt32) (u v : UInt32) : Prop :=
  cpSuccesiveSameState < knownReadings (front ++ [u, v]) →
    classify v = classify u ∨ classify v = latestThird (front ++ [u])

instance (front : List UInt32) (u v : UInt32) : Decidable (Repeats front u v) :=
  inferInstanceAs (Decidable (_ → _))

/-- Every value of a sequence is one that the filter is right about. -/
def Repeating (cpValues : List UInt32) : Prop :=
  ∀ front u v, front ++ [u, v] <+: cpValues → Repeats front u v

section Filter

variable {f : CpFilter} {cpValue : UInt32} {cpValues : List UInt32}

/-- The state that is returned is kept. -/
@[simp] theorem getStateFromCPValue_returned :
    (getStateFromCPValue f cpValue).2 = (getStateFromCPValue f cpValue).1.latestStateReturned := rfl

/-- What is returned changes to a known state at once, as soon as the counter is at its limit. -/
theorem getStateFromCPValue_latestStateReturned :
    (getStateFromCPValue f cpValue).1.latestStateReturned =
      if classify cpValue ≠ .stateUnknown ∧
        f.consecutiveSameStateReturned = cpSuccesiveSameState then classify cpValue
      else f.latestStateReturned := by
  simp only [getStateFromCPValue]
  split_ifs <;> simp_all

/-- One more value is filtered after the others. -/
theorem filterAll_snoc :
    filterAll (cpValues ++ [cpValue]) = (getStateFromCPValue (filterAll cpValues) cpValue).1 := by
  simp [filterAll]

/-- A value in some window prolongs the row, and any other value ends it. -/
theorem knownReadings_snoc :
    knownReadings (cpValues ++ [cpValue]) =
      if classify cpValue = .stateUnknown then 0 else knownReadings cpValues + 1 := by
  by_cases known : classify cpValue = .stateUnknown <;> simp [knownReadings, known]

/-- A value that comes third or later in a row takes over from the one before. -/
theorem latestThird_snoc :
    latestThird (cpValues ++ [cpValue]) =
      if cpSuccesiveSameState < knownReadings (cpValues ++ [cpValue]) then classify cpValue
      else latestThird cpValues := by
  -- The longest of the beginnings is the new one, and the others are those of before.
  simp only [latestThird, List.inits_append]
  split_ifs with third <;> simp [third]

/-- The counter counts the values in any windows, up to its limit, and not those that agree. -/
theorem filterAll_consecutiveSameStateReturned :
    (filterAll cpValues).consecutiveSameStateReturned =
      min cpSuccesiveSameState (knownReadings cpValues) := by
  induction cpValues using List.reverseRecOn with
  | nil => rfl
  | append_singleton cpValues cpValue ih =>
    simp only [filterAll_snoc, getStateFromCPValue, knownReadings_snoc, ih, cpSuccesiveSameState]
    split_ifs <;> simp_all <;> omega

/-- A value comes third or later in a row exactly if it is known with the counter at its limit. -/
theorem third_iff :
    cpSuccesiveSameState < knownReadings (cpValues ++ [cpValue]) ↔
      classify cpValue ≠ .stateUnknown ∧
        (filterAll cpValues).consecutiveSameStateReturned = cpSuccesiveSameState := by
  rw [knownReadings_snoc, filterAll_consecutiveSameStateReturned]
  split_ifs with unknown
  · simp [unknown]
  · simp only [cpSuccesiveSameState, unknown, ne_eq, not_false_eq_true, true_and,
      min_eq_left_iff]
    omega

/-- What is returned is the state of the latest value that came third or later in a row. -/
theorem filterAll_latestStateReturned :
    (filterAll cpValues).latestStateReturned = latestThird cpValues := by
  induction cpValues using List.reverseRecOn with
  | nil => decide
  | append_singleton cpValues cpValue ih =>
    rw [filterAll_snoc, getStateFromCPValue_latestStateReturned, latestThird_snoc, ih]
    simp only [third_iff]

/-- One reading changes to a state that two readings agree on exactly if it repeats. -/
theorem changes_to_both_iff {front : List UInt32} {u v : UInt32} :
    (latestThird (front ++ [u, v]) ≠ latestThird (front ++ [u]) →
      classify u = latestThird (front ++ [u, v]) ∧ classify v = latestThird (front ++ [u, v])) ↔
      Repeats front u v := by
  have value : latestThird (front ++ [u, v]) =
      if cpSuccesiveSameState < knownReadings (front ++ [u, v]) then classify v
      else latestThird (front ++ [u]) := by
    simpa using @latestThird_snoc v (front ++ [u])
  rw [value, Repeats]
  -- Only a value that comes third or later in a row is returned at all.
  by_cases third : cpSuccesiveSameState < knownReadings (front ++ [u, v])
  · rw [if_pos third]
    tauto
  · simp [third]

/-- Values are debounced exactly if each that may be returned repeats what is known already. -/
theorem debounced_iff (cpValues : List UInt32) : Debounced cpValues ↔ Repeating cpValues := by
  refine forall_congr' fun front => forall_congr' fun u => forall_congr' fun v =>
    imp_congr_right fun _ => ?_
  -- What the two calls return is kept in the filter, and is told by the values alone.
  have before : (getStateFromCPValue (filterAll front) u).2 = latestThird (front ++ [u]) := by
    rw [getStateFromCPValue_returned, ← filterAll_snoc, filterAll_latestStateReturned]
  have after : (getStateFromCPValue (filterAll (front ++ [u])) v).2 =
      latestThird (front ++ [u, v]) := by
    rw [getStateFromCPValue_returned, ← filterAll_snoc, filterAll_latestStateReturned,
      List.append_assoc, List.cons_append, List.nil_append]
  rw [before, after]
  exact changes_to_both_iff

/-- A single reading of C among readings of A is returned. -/
theorem outlier_is_returned :
    classify 0xD6D8 = .stateA ∧ classify 0xA604 = .stateC ∧
      (filterAll [0xD6D8, 0xD6D8, 0xD6D8, 0xA604]).latestStateReturned = .stateC ∧
      ¬ Debounced [0xD6D8, 0xD6D8, 0xD6D8, 0xA604] := by
  refine ⟨by decide +kernel, by decide +kernel, by decide +kernel, fun debounced => ?_⟩
  have outlier := debounced [0xD6D8, 0xD6D8] 0xD6D8 0xA604 (by decide) (by decide +kernel)
  exact absurd outlier.1 (by decide +kernel)

end Filter

end EasyEvse.J1772
