import EasyEvse.J1772.Diagram
import EasyEvse.J1772.DutyCycle

/-! The duty that each branch of the loop hands on, and how it goes with the state letter. -/

namespace EasyEvse.J1772

open Transition

/-- A duty in percent stands for a current from six amperes up to the limit. -/
def Allowed (duty limit : ℚ) : Prop :=
  (getAmpsFromDutyCycle duty 0).1 = .success ∧
    6 ≤ (getAmpsFromDutyCycle duty 0).2 ∧ (getAmpsFromDutyCycle duty 0).2 ≤ limit

/-- A duty in percent is a regular one, and tells a vehicle a current that the limit allows. -/
def Tells (duty limit : ℚ) : Prop := 10 ≤ duty ∧ duty ≤ 96 ∧ Allowed duty limit

instance (duty limit : ℚ) : Decidable (Allowed duty limit) :=
  inferInstanceAs (Decidable (_ ∧ _ ∧ _))

instance (duty limit : ℚ) : Decidable (Tells duty limit) :=
  inferInstanceAs (Decidable (_ ∧ _ ∧ _))

section Currents

variable {limit : ℚ}

/-- The duty of a limit that a duty can tell tells a current that the limit allows. -/
theorem tells_limit (low : 6 ≤ limit) (high : limit ≤ 81) :
    Tells (dutyCyclePerMil limit / 10) limit := by
  obtain ⟨duty, told, codes⟩ := codes_limit low high
  have same : dutyCyclePerMil limit / 10 = duty := by
    rw [dutyCyclePerMil, codes.encodes]
    ring
  rw [same]
  refine ⟨codes.duty_ge, codes.duty_le, ?_⟩
  simp [Allowed, codes.decodes, codes.told_ge, codes.told_le]

/-- Any other limit makes the duty zero. -/
theorem dutyCyclePerMil_untold (untold : ¬ (6 ≤ limit ∧ limit ≤ 81)) :
    dutyCyclePerMil limit = 0 := by
  unfold dutyCyclePerMil getDutyCycleFromAmps
  -- The two ranges that compute a duty leave no gap between them.
  split_ifs with below lower upper
  · simp
  · exact absurd ⟨lower.1, by linarith [lower.2]⟩ untold
  · exact absurd ⟨by linarith [upper.1], upper.2⟩ untold
  · simp

end Currents

/-- The letters with a pilot held high. -/
def J1772State.Steady : J1772State → Prop
  | .stateA | .stateB | .stateC | .stateD | .lastState => True
  | .stateA2 | .stateB2 | .stateC2 | .stateD2 | .stateE | .stateF => False

/-- The letters with pulses on the pilot. -/
def J1772State.Pulsed : J1772State → Prop
  | .stateA2 | .stateB2 | .stateC2 | .stateD2 => True
  | .stateA | .stateB | .stateC | .stateD | .stateE | .stateF | .lastState => False

/-- The letters in which the vehicle is charged. -/
def J1772State.Charging (n : J1772State) : Prop := n = .stateC2 ∨ n = .stateD2

instance : DecidablePred J1772State.Charging := fun _ => inferInstanceAs (Decidable (_ ∨ _))

instance : DecidablePred J1772State.Steady := fun n => by
  cases n <;> first | exact isTrue trivial | exact isFalse id

instance : DecidablePred J1772State.Pulsed := fun n => by
  cases n <;> first | exact isTrue trivial | exact isFalse id

/--
The letters between which the duty may be left as it was: those of one kind, and a fault.

The charging letters compute it anew in each of their iterations.
-/
def KeepsDuty (old n : J1772State) : Prop :=
  (n.Steady → old.Steady) ∧ (n.Pulsed → old.Pulsed) ∧ n ≠ .stateE ∧
    old ≠ .stateE ∧ old ≠ .stateF ∧ ¬ old.Charging ∧ (n.Charging → old = .stateB2)

instance (old n : J1772State) : Decidable (KeepsDuty old n) :=
  inferInstanceAs (Decidable (_ ∧ _ ∧ _ ∧ _ ∧ _ ∧ _ ∧ _))

/-- Where the duty at the end of an iteration comes from, by the letters before and after it. -/
inductive Offer (s : Evse) : J1772State → ℚ → Prop
  /-- The pilot is held high. -/
  | raised {n : J1772State} (steady : n.Steady) : Offer s n pwm100MaxValue
  /-- An error state holds the pilot high. -/
  | faulted {n : J1772State} (at_ : s.currentState = .stateE ∨ s.currentState = .stateF)
      (still : n = .stateE ∨ n = .stateF) : Offer s n pwm100MaxValue
  /-- The duty is left as it was. -/
  | kept {n : J1772State} (keeps : KeepsDuty s.currentState n) : Offer s n s.currentPwm
  /-- The duty is computed from the configured current. -/
  | computed {n : J1772State} (pulsed : n.Pulsed ∨ n = .stateF)
      (at_ : s.currentState = .stateB ∨ s.currentState = .stateC ∨ s.currentState = .stateD ∨
        s.currentState.Charging)
      (charging : n.Charging → s.currentState ≠ .stateB) :
      Offer s n (dutyCyclePerMil s.maxCurrent)

section Offers

variable {cfg : Config} {i : Inputs} {s : Evse}

/-- What is offered for a state is offered once it was entered. -/
theorem Offer.enter (cfg : Config) {t : Evse} {n : J1772State} {pwm : ℚ}
    (offer : Offer s n pwm) :
    Offer s (setState cfg n t).currentState pwm := by
  rw [setState_currentState]
  exact offer

/-- The duty is left alone on the way from a letter to one that goes with it. -/
theorem Offer.stays {old n : J1772State} (at_ : s.currentState = old) (keeps : KeepsDuty old n) :
    Offer s n s.currentPwm :=
  .kept (at_ ▸ keeps)

/-- The case of state D, whichever of the two waiting states the iteration began in. -/
theorem handleStateD_offers {start : Evse}
    (began : start.currentState = .stateC ∨ start.currentState = .stateD)
    (limit : s.maxCurrent = start.maxCurrent)
    (here : s.currentState = .stateC ∨ s.currentState = .stateD) :
    Offer start (handleStateD cfg s start.currentPwm).1.currentState
      (handleStateD cfg s start.currentPwm).2 := by
  -- Leaving the duty alone is right on the way to any letter that does not pulse.
  have keep : ∀ {n : J1772State}, KeepsDuty .stateC n ∧ KeepsDuty .stateD n →
      Offer start n start.currentPwm := by
    intro n keeps
    rcases began with began | began
    · exact .kept (began ▸ keeps.1)
    · exact .kept (began ▸ keeps.2)
  have offer : ∀ {n : J1772State}, n.Charging → Offer start n (dutyCyclePerMil s.maxCurrent) := by
    intro n charging
    rw [limit]
    refine .computed (.inl ?_) (by tauto) fun _ => ?_
    · rcases charging with rfl | rfl <;> trivial
    · rcases began with began | began <;> simp [began]
  have stay : Offer start s.currentState start.currentPwm := by
    -- The machine is in the one waiting state or in the other.
    rcases here with here | here <;> rw [here] <;> exact keep (by decide)
  cases reading : s.cpState with
  | stateA => simpa [handleStateD, reading] using keep (n := .stateA) (by decide)
  | stateB => simpa [handleStateD, reading] using Offer.raised (n := .stateB) trivial
  | stateC =>
    -- State C is entered twice, and the second time nothing is done.
    have again : setState cfg .stateC (setState cfg .stateC s) = setState cfg .stateC s :=
      setState_self cfg (setState_currentState cfg)
    simp only [handleStateD, reading, reduceCtorEq, if_true, if_false, setState_frame, again,
      ite_self, true_or, J1772State.next, setState_currentState]
    split_ifs with full held
    · exact .enter cfg (offer (.inl rfl))
    · exact .enter cfg (keep (by decide))
    · exact .enter cfg (.raised trivial)
  | stateD =>
    simp only [handleStateD, reading, reduceCtorEq, if_true, if_false, or_true, false_and]
    split_ifs with full held
    · rw [setState_currentState]
      rcases here with here | here <;> rw [here] <;> exact offer (by decide)
    · exact stay
    · rcases here with here | here <;> rw [here] <;> exact .raised trivial
  | stateE => simpa [handleStateD, reading] using stay
  | stateF => simpa [handleStateD, reading] using keep (n := .stateF) (by decide)
  | stateUnknown => simpa [handleStateD, reading] using stay

/-- The charging cases compute the duty anew, whichever of the two the iteration began in. -/
theorem handleStateD2_offers {start : Evse} (began : start.currentState.Charging)
    (limit : s.maxCurrent = start.maxCurrent) (here : s.currentState.Charging) :
    Offer start (handleStateD2 cfg i s).1.currentState (handleStateD2 cfg i s).2 := by
  -- The duty is computed before the reading is looked at.
  have offer : ∀ {n : J1772State}, n.Pulsed ∨ n = .stateF →
      Offer start n (dutyCyclePerMil s.maxCurrent) := by
    intro n pulsed
    rw [limit]
    refine .computed pulsed (.inr (.inr (.inr began))) fun _ => ?_
    rcases began with began | began <;> simp [began]
  have pulsed : s.currentState.Pulsed := by
    rcases here with here | here <;> rw [here] <;> trivial
  -- Metering changes none of the fields the branches look at, so name its result.
  obtain ⟨u, named⟩ : ∃ u, u = meterInterval cfg i s := ⟨_, rfl⟩
  have same : u.cpState = s.cpState ∧ u.maxCurrent = s.maxCurrent ∧
      u.currentState = s.currentState := by simp [named]
  rw [← same.2.2] at pulsed here
  simp only [handleStateD2, ← named]
  clear named
  cases reading : u.cpState with
  | stateA => simpa using offer (n := .stateA2) (.inl trivial)
  | stateB => simpa using offer (n := .stateB2) (.inl trivial)
  | stateC =>
    -- A C reading right after a D reading changes the letter from D2 to C2.
    obtain ⟨v, named⟩ : ∃ v, v =
        if u.lastCpState = .stateD then setState cfg .stateC2 u else u := ⟨_, rfl⟩
    have here : v.currentState.Charging := by
      subst named
      split
      · exact .inl (setState_currentState cfg)
      · exact here
    simp only [reduceCtorEq, if_true, if_false, true_and, true_or, ← named]
    split_ifs with held
    · rw [setState_currentState]
      rcases here with here | here <;> rw [here] <;> exact .raised trivial
    · refine offer (.inl ?_)
      rcases here with here | here <;> rw [here] <;> trivial
  | stateD =>
    simp only [reduceCtorEq, if_true, if_false, false_and, or_true]
    split_ifs with held
    · rw [setState_currentState]
      rcases here with here | here <;> rw [here] <;> exact .raised trivial
    · exact offer (.inl pulsed)
  | stateE => simpa using offer (.inl pulsed)
  | stateF => simpa using offer (n := .stateF) (.inr rfl)
  | stateUnknown => simpa using offer (.inl pulsed)

/-- Every iteration takes its duty from one of these places. -/
theorem dispatch_offers :
    Offer s (dispatch cfg i s).1.currentState (dispatch cfg i s).2 := by
  -- One case for each state letter, as the switch has it.
  cases at_ : s.currentState with
  | stateA =>
    simp only [dispatch, at_, handleStateA]
    split_ifs
    · exact .enter cfg (.raised trivial)
    · exact .enter cfg (.stays at_ (by decide))
    · exact .kept (by rw [at_]; decide)
  | stateA2 =>
    simp only [dispatch, at_, handleStateA2]
    split_ifs
    · exact .enter cfg (.raised trivial)
    · exact .kept (by rw [at_]; decide)
    · exact .enter cfg (.stays at_ (by decide))
    · exact .enter cfg (.stays at_ (by decide))
    · exact .kept (by rw [at_]; decide)
  | stateB =>
    simp only [dispatch, at_, handleStateB, pollAuthorization_frame]
    split_ifs
    · exact .enter cfg (.raised trivial)
    · exact .enter cfg (.computed (.inl trivial) (.inl at_) (by simp [J1772State.Charging]))
    · rw [pollAuthorization_frame.2.2.1, at_]
      exact .raised trivial
    · rw [pollAuthorization_frame.2.2.1]
      exact .kept (by rw [at_]; decide)
    · exact .enter cfg (.stays at_ (by decide))
    · exact .kept (by rw [at_]; decide)
  | stateB2 =>
    simp only [dispatch, at_, handleStateB2]
    split_ifs
    · exact .enter cfg (.stays at_ (by decide))
    · exact .enter cfg (.raised trivial)
    · exact .enter cfg (.stays at_ (by decide))
    · exact .enter cfg (.stays at_ (by decide))
    · exact .enter cfg (.stays at_ (by decide))
    · exact .kept (by rw [at_]; decide)
  | stateC =>
    simp only [dispatch, at_, handleStateC]
    split_ifs
    · exact handleStateD_offers (.inl at_) (by simp) (.inr (setState_currentState cfg))
    · exact handleStateD_offers (.inl at_) rfl (.inl at_)
  | stateD =>
    simp only [dispatch, at_]
    exact handleStateD_offers (.inr at_) rfl (.inr at_)
  | stateC2 =>
    simp only [dispatch, at_, handleStateC2]
    split_ifs
    · exact handleStateD2_offers (.inl at_) (by simp) (.inr (setState_currentState cfg))
    · exact handleStateD2_offers (.inl at_) rfl (.inl at_)
  | stateD2 =>
    simp only [dispatch, at_]
    exact handleStateD2_offers (.inr at_) rfl (.inr at_)
  | stateE =>
    simp only [dispatch, at_, handleStateEF]
    split_ifs
    · exact .enter cfg (.raised trivial)
    · exact .enter cfg (.faulted (.inl at_) (.inr rfl))
    · exact .faulted (.inl at_) (.inl at_)
  | stateF =>
    simp only [dispatch, at_, handleStateEF]
    split_ifs
    · exact .enter cfg (.raised trivial)
    · exact .enter cfg (.faulted (.inr at_) (.inr rfl))
    · exact .faulted (.inr at_) (.inr at_)
  | lastState =>
    simp only [dispatch, at_, handleLastState]
    split_ifs
    · exact .enter cfg (.stays at_ (by decide))
    · exact .kept (by rw [at_]; decide)

/-- Only the letter, the duty and the limit of the start matter. -/
theorem Offer.congr {start : Evse} {n : J1772State} {pwm : ℚ} (offer : Offer s n pwm)
    (letter : s.currentState = start.currentState) (duty : s.currentPwm = start.currentPwm)
    (limit : s.maxCurrent = start.maxCurrent) : Offer start n pwm := by
  cases offer with
  | raised steady => exact .raised steady
  | faulted at_ still => exact .faulted (letter ▸ at_) still
  | kept keeps => exact duty ▸ .kept (letter ▸ keeps)
  | computed pulsed at_ charging =>
    exact limit ▸ .computed pulsed (letter ▸ at_) (letter ▸ charging)

/-- No case of the loop sets the duty itself. -/
theorem dispatch_pwm : (dispatch cfg i (readPilot i s)).1.currentPwm = s.currentPwm ∧
    (dispatch cfg i (readPilot i s)).1.pwmDuty = s.pwmDuty := by
  have start : (readPilot i s).currentPwm = s.currentPwm ∧
      (readPilot i s).pwmDuty = s.pwmDuty := by simp
  -- Neither the edges nor the polls nor the meter touch these two.
  exact @dispatch_rule cfg i (readPilot i s)
    (fun t => t.currentPwm = s.currentPwm ∧ t.pwmDuty = s.pwmDuty)
    (fun _ _ same => by simpa using same) (fun _ same => by simpa using same)
    (fun _ same => by simpa using same) (by simp) start

/-- The duty of an iteration is offered by its branch, and set as it is. -/
theorem apply_loop_offers : Offer s (apply cfg s (.loop i)).currentState
    (apply cfg s (.loop i)).currentPwm := by
  simp only [apply, loopEvse, applyPwm_frame]
  exact dispatch_offers.congr (by simp) (by simp [Evse.fresh]) (by simp [Evse.fresh])

/-- The duty that was set last is the one that is remembered. -/
theorem apply_loop_duty (set : s.pwmDuty = s.currentPwm / 10) :
    (apply cfg s (.loop i)).pwmDuty = (apply cfg s (.loop i)).currentPwm / 10 := by
  simp only [apply, loopEvse, applyPwm]
  split
  · rfl
  · simpa [dispatch_pwm.1, dispatch_pwm.2, Evse.fresh] using set

end Offers

/-- The limit is one that a duty can tell. -/
def Evse.InLimits (s : Evse) : Prop := 6 ≤ s.maxCurrent ∧ s.maxCurrent ≤ 81

instance (s : Evse) : Decidable s.InLimits := inferInstanceAs (Decidable (_ ∧ _))

/-- The duty goes with the letter, and it is the one that was set. -/
structure PwmFollows (s : Evse) : Prop where
  steady : s.currentState.Steady → s.currentPwm = pwm100MaxValue
  pulsed : s.currentState.Pulsed → s.currentPwm < pwm100MinValue
  set : s.pwmDuty = s.currentPwm / 10

section Follows

variable {cfg : Config} {i : Inputs} {s : Evse}

/-- A limit that a duty can tell is told by pulses. -/
theorem dutyCyclePerMil_pulses (limits : s.InLimits) :
    dutyCyclePerMil s.maxCurrent < pwm100MinValue := by
  obtain ⟨_, most, _⟩ := tells_limit limits.1 limits.2
  unfold pwm100MinValue
  linarith

/-- What is offered goes with the letter, if what was offered before did. -/
theorem Offer.follows {n : J1772State} {pwm : ℚ} (offer : Offer s n pwm) (follows : PwmFollows s)
    (limits : s.InLimits) :
    (n.Steady → pwm = pwm100MaxValue) ∧ (n.Pulsed → pwm < pwm100MinValue) := by
  cases offer with
  -- No letter is both steady and pulsed.
  | raised steady =>
    refine ⟨fun _ => rfl, fun pulsed => ?_⟩
    cases n <;> first | exact steady.elim | exact pulsed.elim
  | faulted at_ still =>
    refine ⟨fun _ => rfl, fun pulsed => ?_⟩
    rcases still with rfl | rfl <;> exact pulsed.elim
  | kept keeps =>
    exact ⟨fun steady => follows.steady (keeps.1 steady),
      fun pulsed => follows.pulsed (keeps.2.1 pulsed)⟩
  | computed pulsed at_ charging =>
    refine ⟨fun steady => ?_, fun _ => dutyCyclePerMil_pulses limits⟩
    rcases pulsed with pulsed | rfl
    · cases n <;> first | exact steady.elim | exact pulsed.elim
    · exact steady.elim

/-- Every operation keeps the duty in step with the letter, while the limit is in its range. -/
theorem apply_follows {op : Op} (follows : PwmFollows s) (limits : s.InLimits) :
    PwmFollows (apply cfg s op) := by
  cases op with
  | loop i =>
    have offers : Offer s (apply cfg s (.loop i)).currentState
        (apply cfg s (.loop i)).currentPwm := apply_loop_offers
    have kept := offers.follows follows limits
    exact ⟨kept.1, kept.2, apply_loop_duty follows.set⟩
  | stopCharging stop => exact ⟨follows.steady, follows.pulsed, follows.set⟩
  | setMaxCurrent maxCurrent =>
    rw [apply, setMaxCurrent_eq]
    exact ⟨follows.steady, follows.pulsed, follows.set⟩

/-- Initialization holds the pilot high. -/
theorem Initial.follows (initial : Initial s) : PwmFollows s := by
  obtain ⟨_, _, _, _, letter, duty, _⟩ := initial.fields
  refine ⟨fun _ => duty, fun pulsed => absurd pulsed (by rw [letter]; exact id), ?_⟩
  obtain ⟨maxCurrent, rfl⟩ := initial
  simp only [init]

/--
The duty and the letter stay consistent, while the limit is one that a duty can tell.

An error ends with the pilot held high from the second iteration on that ends in it.
And state A2 is left for state A as soon as the vehicle is gone.
-/
theorem pwm_follows_state (cfg : Config) (start : Evse) (initial : Initial start) (ops : List Op)
    (limited : Meets (fun s _ => s.InLimits) (step cfg) start ops) (t : Evse)
    (visited : Visits (step cfg) start ops t) :
    (t.currentState = .stateA ∨ t.currentState = .stateB ∨ t.currentState = .stateC ∨
      t.currentState = .stateD ∨ t.currentState = .lastState → t.currentPwm = pwm100MaxValue) ∧
    (t.currentState = .stateA2 ∨ t.currentState = .stateB2 ∨ t.currentState = .stateC2 ∨
      t.currentState = .stateD2 → t.currentPwm < pwm100MinValue) ∧
    t.pwmDuty = t.currentPwm / 10 ∧
    (∀ i, t.currentState = .stateF → (apply cfg t (.loop i)).currentState = .stateF →
      (apply cfg t (.loop i)).currentPwm = pwm100MaxValue) ∧
    ∀ i : Inputs, t.currentState = .stateA2 → i.controlPilot = .stateA →
      (apply cfg t (.loop i)).currentState = .stateA := by
  have keeps : ∀ {s op t}, PwmFollows s → s.InLimits → step cfg s op = some t →
      PwmFollows t := by
    intro s op t follows limits moved
    obtain rfl := Option.some.inj moved
    exact apply_follows follows limits
  have follows : PwmFollows t :=
    visits_guarded_invariant (fun follows limits moved => keeps follows limits moved)
      initial.follows limited visited
  refine ⟨fun letter => follows.steady ?_, fun letter => follows.pulsed ?_, follows.set, ?_, ?_⟩
  · rcases letter with letter | letter | letter | letter | letter <;> rw [letter] <;> trivial
  · rcases letter with letter | letter | letter | letter <;> rw [letter] <;> trivial
  · -- From an error state only the way back to state A and the error itself are open.
    intro i at_ still
    have offers : Offer t (apply cfg t (.loop i)).currentState
        (apply cfg t (.loop i)).currentPwm := apply_loop_offers
    rw [still] at offers
    generalize (apply cfg t (.loop i)).currentPwm = pwm at offers ⊢
    cases offers with
    | raised steady => exact steady.elim
    | faulted _ _ => rfl
    | kept keeps => exact absurd at_ keeps.2.2.2.2.1
    | computed _ from_ _ => simp [at_, J1772State.Charging] at from_
  · -- In state A2 the pulses go on, so the duty is below the one that is held high.
    intro i at_ gone
    have pulses := follows.pulsed (by rw [at_]; trivial)
    simp [apply, loopEvse, dispatch, at_, handleStateA2, gone, Evse.fresh, pulses]

/-- A vehicle is charged with a limit of 32 amperes, unplugged, and plugged in again. -/
theorem pwm_follows_state_unplugged :
    Visits (step ⟨true, false⟩) (init (setMaxCurrent 32 boot))
      (chargingRun ++ [.loop (pilotOnly .stateA)])
      (applyAll ⟨true, false⟩ charging [.loop (pilotOnly .stateA)]) ∧
    (applyAll ⟨true, false⟩ charging [.loop (pilotOnly .stateA)]).currentState = .stateA2 ∧
    (applyAll ⟨true, false⟩ charging [.loop (pilotOnly .stateA)]).currentPwm < pwm100MinValue := by
  have visited : Visits (step ⟨true, false⟩) (init (setMaxCurrent 32 boot))
      (chargingRun ++ [.loop (pilotOnly .stateA)])
      (applyAll ⟨true, false⟩ charging [.loop (pilotOnly .stateA)]) := by
    refine visits_end ?_
    rw [run_step, applyAll, List.foldl_append]
    rfl
  have here : (applyAll ⟨true, false⟩ charging [.loop (pilotOnly .stateA)]).currentState =
      .stateA2 := by decide +kernel
  exact ⟨visited, here, (pwm_follows_state ⟨true, false⟩ _ ⟨32, rfl⟩ _ (by decide +kernel) _
    visited).2.1 (.inl here)⟩

end Follows

end EasyEvse.J1772
