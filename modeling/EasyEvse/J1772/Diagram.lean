import EasyEvse.J1772.SetState

/-! The diagram of the charging state machine, and the rule that an iteration only follows it. -/

namespace EasyEvse.J1772

variable {cfg : Config} {i : Inputs} {s : Evse}

/-- The vehicle asks for power in the current state. -/
def AsksForPower (s : Evse) : Prop := s.cpState = .stateC ∨ s.cpState = .stateD

/--
The changes of the state letter that an iteration can make, with what it checked before.

The first argument is the machine just before the change.
-/
inductive Edge (s : Evse) : J1772State → Prop
  -- Unplugged, and plugged in.
  | startUp (at_ : s.currentState = .lastState) (known : s.cpState ≠ .stateUnknown) : Edge s .stateA
  | plugIn (at_ : s.currentState = .stateA) (reads : s.cpState = .stateB) : Edge s .stateB
  | replug (at_ : s.currentState = .stateA2) (reads : s.cpState = .stateB) : Edge s .stateB2
  | pwmOff (at_ : s.currentState = .stateA2) (reads : s.cpState = .stateA) : Edge s .stateA
  -- The pilot pulses for an authorized vehicle.
  | offer (at_ : s.currentState = .stateB) (reads : s.cpState = .stateB)
      (authorized : s.authNeeded = false) (ready : s.readyToCharge = true) : Edge s .stateB2
  | withdraw (at_ : s.currentState = .stateB2) (reads : s.cpState = .stateB)
      (stopped : s.readyToCharge = false) : Edge s .stateB
  -- The vehicle asks for power, with ventilation or without.
  | accept (at_ : s.currentState = .stateB2) (reads : s.cpState = .stateC) : Edge s .stateC2
  | acceptVentilated (at_ : s.currentState = .stateB2) (reads : s.cpState = .stateD) :
      Edge s .stateD2
  | ventilate (at_ : s.currentState = .stateC) (reads : s.cpState = .stateD) : Edge s .stateD
  | unventilate (at_ : s.currentState = .stateD) (reads : s.cpState = .stateC) : Edge s .stateC
  | resume (at_ : s.currentState = .stateC) (reads : s.cpState = .stateC)
      (ready : s.readyToCharge = true) : Edge s .stateC2
  | resumeVentilated (at_ : s.currentState = .stateD) (reads : s.cpState = .stateD)
      (ready : s.readyToCharge = true) : Edge s .stateD2
  -- The vehicle stops asking for power.
  | ready (at_ : s.currentState = .stateC ∨ s.currentState = .stateD)
      (reads : s.cpState = .stateB) : Edge s .stateB
  | ventilateCharging (at_ : s.currentState = .stateC2) (reads : s.cpState = .stateD) :
      Edge s .stateD2
  | unventilateCharging (at_ : s.currentState = .stateD2) (reads : s.cpState = .stateC)
      (before : s.lastCpState = .stateD) : Edge s .stateC2
  | finish (at_ : s.currentState = .stateC2 ∨ s.currentState = .stateD2)
      (reads : s.cpState = .stateB) : Edge s .stateB2
  -- The supply stops on its own.
  | suspend (at_ : s.currentState = .stateC2) (reads : s.cpState = .stateC)
      (held : s.readyToCharge = false ∨ s.overCurrent = true) : Edge s .stateC
  | suspendVentilated (at_ : s.currentState = .stateD2) (reads : AsksForPower s)
      (held : s.readyToCharge = false ∨ s.overCurrent = true) : Edge s .stateD
  -- Unplugged from anywhere, and the fault that only the reading F leads to.
  | unplug (at_ : s.currentState = .stateB ∨ s.currentState = .stateC ∨ s.currentState = .stateD ∨
      s.currentState = .stateE ∨ s.currentState = .stateF) (reads : s.cpState = .stateA) :
      Edge s .stateA
  | unplugPwm (at_ : s.currentState = .stateB2 ∨ s.currentState = .stateC2 ∨
      s.currentState = .stateD2) (reads : s.cpState = .stateA) : Edge s .stateA2
  | fault (at_ : s.currentState ≠ .lastState) (reads : s.cpState = .stateF) : Edge s .stateF

/-- Reading the pilot changes the reading, and can only end an over-current pause. -/
@[simp] theorem readPilot_frame :
    (readPilot i s).cpState = i.controlPilot ∧
    (readPilot i s).lastCpState = s.lastCpState ∧
    (readPilot i s).currentState = s.currentState ∧
    (readPilot i s).currentPwm = s.currentPwm ∧
    (readPilot i s).relayOpen = s.relayOpen ∧
    (readPilot i s).isCharging = s.isCharging ∧
    (readPilot i s).authNeeded = s.authNeeded ∧
    (readPilot i s).readyToCharge = s.readyToCharge ∧
    (readPilot i s).measuredCurrent = s.measuredCurrent ∧
    (readPilot i s).ventilation = s.ventilation ∧
    (readPilot i s).maxCurrent = s.maxCurrent ∧
    (readPilot i s).pwmDuty = s.pwmDuty ∧
    (readPilot i s).calls = s.calls := by
  -- Either way only the over-current flag can change besides the reading.
  unfold readPilot
  dsimp only
  split <;> simp

/-- Polling touches only the two authorization flags and the list of calls. -/
@[simp] theorem pollAuthorization_frame :
    (pollAuthorization i s).cpState = s.cpState ∧
    (pollAuthorization i s).lastCpState = s.lastCpState ∧
    (pollAuthorization i s).currentState = s.currentState ∧
    (pollAuthorization i s).currentPwm = s.currentPwm ∧
    (pollAuthorization i s).relayOpen = s.relayOpen ∧
    (pollAuthorization i s).isCharging = s.isCharging ∧
    (pollAuthorization i s).measuredCurrent = s.measuredCurrent ∧
    (pollAuthorization i s).ventilation = s.ventilation ∧
    (pollAuthorization i s).maxCurrent = s.maxCurrent ∧
    (pollAuthorization i s).pwmDuty = s.pwmDuty := by
  -- Without a need nothing is polled, and with one only the answer matters.
  unfold pollAuthorization
  dsimp only [Evse.record]
  (repeat' split) <;> simp

/-- While an authorization is needed, only an accepted answer makes the vehicle ready. -/
theorem pollAuthorization_ready (ready : (pollAuthorization i s).readyToCharge = true) :
    (pollAuthorization i s).authNeeded = false := by
  -- Where an answer is needed, the flag is cleared before the answer is looked at.
  by_cases needed : s.authNeeded = true
  · by_cases accepted : i.authResponse = some true
    · simp [pollAuthorization, needed, accepted]
    · simp [pollAuthorization, needed, accepted, Evse.record] at ready
  · simp [pollAuthorization, needed]

/-- Metering touches the meter, its clocks and the over-current flag, and nothing else. -/
@[simp] theorem meterInterval_frame :
    (meterInterval cfg i s).cpState = s.cpState ∧
    (meterInterval cfg i s).lastCpState = s.lastCpState ∧
    (meterInterval cfg i s).currentState = s.currentState ∧
    (meterInterval cfg i s).currentPwm = s.currentPwm ∧
    (meterInterval cfg i s).relayOpen = s.relayOpen ∧
    (meterInterval cfg i s).isCharging = s.isCharging ∧
    (meterInterval cfg i s).authNeeded = s.authNeeded ∧
    (meterInterval cfg i s).readyToCharge = s.readyToCharge ∧
    (meterInterval cfg i s).ventilation = s.ventilation ∧
    (meterInterval cfg i s).maxCurrent = s.maxCurrent ∧
    (meterInterval cfg i s).pwmDuty = s.pwmDuty ∧
    (meterInterval cfg i s).calls = s.calls := by
  -- Neither the clocks nor the meter are among these fields.
  unfold meterInterval measure
  dsimp only
  split_ifs <;> simp

/-- The end of an iteration touches the last reading and the duty, and nothing else. -/
@[simp] theorem applyPwm_frame {newPwm : ℚ} :
    (applyPwm s newPwm).cpState = s.cpState ∧
    (applyPwm s newPwm).lastCpState = s.cpState ∧
    (applyPwm s newPwm).currentState = s.currentState ∧
    (applyPwm s newPwm).currentPwm = newPwm ∧
    (applyPwm s newPwm).relayOpen = s.relayOpen ∧
    (applyPwm s newPwm).isCharging = s.isCharging ∧
    (applyPwm s newPwm).authNeeded = s.authNeeded ∧
    (applyPwm s newPwm).readyToCharge = s.readyToCharge ∧
    (applyPwm s newPwm).measuredCurrent = s.measuredCurrent ∧
    (applyPwm s newPwm).ventilation = s.ventilation ∧
    (applyPwm s newPwm).maxCurrent = s.maxCurrent ∧
    (applyPwm s newPwm).calls = s.calls := by
  -- A duty that is set already is not set again, and is the new one all the same.
  unfold applyPwm
  dsimp only
  split
  · simp
  · rename_i same; simpa using (not_not.mp same).symm

section Rule

variable {P : Evse → Prop}
  (edge : ∀ {s n}, s.cpState = i.controlPilot → Edge s n → P s → P (setState cfg n s))

include edge

/-- The case of state D keeps what the edges keep, once state C has followed a D reading. -/
theorem handleStateD_rule (at_ : s.currentState = .stateC ∨ s.currentState = .stateD)
    (followed : s.cpState = .stateD → s.currentState = .stateD)
    (reads : s.cpState = i.controlPilot) (start : P s) {newPwm : ℚ} :
    P (handleStateD cfg s newPwm).1 := by
  cases reading : s.cpState with
  | stateA => simpa [handleStateD, reading] using edge reads (.unplug (by tauto) reading) start
  | stateB => simpa [handleStateD, reading] using edge reads (.ready at_ reading) start
  | stateC =>
    -- A C reading first brings state D back to C, and leaves state C alone.
    have back : P (setState cfg .stateC s) := by
      rcases at_ with same | other
      · rw [setState_self cfg same]; exact start
      · exact edge reads (.unventilate other reading) start
    have again : setState cfg .stateC (setState cfg .stateC s) = setState cfg .stateC s :=
      setState_self cfg (setState_currentState cfg)
    simp only [handleStateD, reading, reduceCtorEq, if_true, if_false, setState_frame, again,
      ite_self, true_or, J1772State.next, setState_currentState]
    split_ifs with full held
    · exact edge (by simp [reads]) (.resume (by simp) (by simp [reading]) held.1) back
    · exact back
    · exact back
  | stateD =>
    have at_ := followed reading
    simp only [handleStateD, reading, reduceCtorEq, if_true, if_false, or_true, false_and, at_,
      J1772State.next]
    split_ifs with full held
    · exact edge reads (.resumeVentilated at_ reading held.1) start
    · exact start
    · exact start
  | stateE => simpa [handleStateD, reading] using start
  | stateF =>
    have known : s.currentState ≠ .lastState := by rcases at_ with at_ | at_ <;> simp [at_]
    simpa [handleStateD, reading] using edge reads (.fault known reading) start
  | stateUnknown => simpa [handleStateD, reading] using start

/-- The case of state D2 keeps what the edges keep, once state C2 has followed a D reading. -/
theorem handleStateD2_rule (at_ : s.currentState = .stateC2 ∨ s.currentState = .stateD2)
    (followed : s.cpState = .stateD → s.currentState = .stateD2)
    (meter : ∀ {s}, s.currentState = .stateC2 ∨ s.currentState = .stateD2 → P s →
      P (meterInterval cfg i s))
    (reads : s.cpState = i.controlPilot) (start : P s) : P (handleStateD2 cfg i s).1 := by
  -- Metering changes none of the fields the branches look at, so name its result.
  have metered := meter at_ start
  obtain ⟨u, named⟩ : ∃ u, u = meterInterval cfg i s := ⟨_, rfl⟩
  have at_ : u.currentState = .stateC2 ∨ u.currentState = .stateD2 := by simpa [named] using at_
  have followed : u.cpState = .stateD → u.currentState = .stateD2 := by
    simpa [named] using followed
  have reads : u.cpState = i.controlPilot := by simpa [named] using reads
  rw [← named] at metered
  simp only [handleStateD2, ← named]
  clear start named
  cases reading : u.cpState with
  | stateA => simpa using edge reads (.unplugPwm (by tauto) reading) metered
  | stateB => simpa using edge reads (.finish at_ reading) metered
  | stateC =>
    -- A C reading right after a D reading first brings state D2 back to C2.
    obtain ⟨v, named⟩ : ∃ v, v =
        if u.lastCpState = .stateD then setState cfg .stateC2 u else u := ⟨_, rfl⟩
    have back : P v ∧ v.cpState = .stateC ∧
        (v.currentState = .stateC2 ∨ v.currentState = .stateD2) := by
      subst named
      split
      · rename_i before
        refine ⟨?_, by simp [reading], by simp⟩
        rcases at_ with same | other
        · rw [setState_self cfg same]; exact metered
        · exact edge reads (.unventilateCharging other reading before) metered
      · exact ⟨metered, reading, at_⟩
    obtain ⟨kept, reading', at_⟩ := back
    have reads : v.cpState = i.controlPilot := by rw [reading', ← reading, reads]
    simp only [reduceCtorEq, if_true, if_false, true_and, true_or, ← named]
    split_ifs with held
    · rcases at_ with at_ | at_
      · rw [at_]; exact edge reads (.suspend at_ reading' held) kept
      · rw [at_]; exact edge reads (.suspendVentilated at_ (.inl reading') held) kept
    · exact kept
  | stateD =>
    have at_ := followed reading
    simp only [reduceCtorEq, if_true, if_false, false_and, or_true, at_]
    split_ifs with held
    · exact edge reads (.suspendVentilated at_ (.inr reading) held) metered
    · exact metered
  | stateE => simpa using metered
  | stateF =>
    have known : u.currentState ≠ .lastState := by rcases at_ with at_ | at_ <;> simp [at_]
    simpa using edge reads (.fault known reading) metered
  | stateUnknown => simpa using metered

end Rule

/--
Whatever the readings, polls, metering and edges of an iteration keep, its dispatch keeps.

Each edge is offered with the machine in the state the loop takes it from.
-/
theorem dispatch_rule {P : Evse → Prop}
    (edge : ∀ {s n}, s.cpState = i.controlPilot → Edge s n → P s → P (setState cfg n s))
    (poll : ∀ {s}, s.currentState = .stateB → P s → P (pollAuthorization i s))
    (meter : ∀ {s}, s.currentState = .stateC2 ∨ s.currentState = .stateD2 → P s →
      P (meterInterval cfg i s))
    (reads : s.cpState = i.controlPilot) (start : P s) : P (dispatch cfg i s).1 := by
  -- One case for each state letter, as the switch has it.
  cases at_ : s.currentState with
  | stateA =>
    simp only [dispatch, at_, handleStateA]
    split_ifs with plugged broken
    · exact edge reads (.plugIn at_ plugged) start
    · exact edge reads (.fault (by simp [at_]) broken) start
    · exact start
  | stateA2 =>
    simp only [dispatch, at_, handleStateA2]
    split_ifs with unplugged low plugged broken
    · exact edge reads (.pwmOff at_ unplugged) start
    · exact start
    · exact edge reads (.replug at_ plugged) start
    · exact edge reads (.fault (by simp [at_]) broken) start
    · exact start
  | stateB =>
    simp only [dispatch, at_, handleStateB]
    split_ifs with unplugged plugged offered low broken
    · exact edge reads (.unplug (by simp [at_]) unplugged) start
    · exact edge (by simp [reads]) (.offer (by simp [at_]) (by simp [plugged])
        (pollAuthorization_ready offered.2) offered.2) (poll at_ start)
    · exact poll at_ start
    · exact poll at_ start
    · exact edge reads (.fault (by simp [at_]) broken) start
    · exact start
  | stateB2 =>
    simp only [dispatch, at_, handleStateB2]
    split_ifs with unplugged stopped charge ventilated broken
    · exact edge reads (.unplugPwm (by simp [at_]) unplugged) start
    · exact edge reads (.withdraw at_ stopped.1 stopped.2) start
    · exact edge reads (.accept at_ charge) start
    · exact edge reads (.acceptVentilated at_ ventilated) start
    · exact edge reads (.fault (by simp [at_]) broken) start
    · exact start
  | stateC =>
    simp only [dispatch, at_, handleStateC]
    split_ifs with reading
    · -- The fall-through finds the machine in state D already.
      have moved := edge reads (.ventilate at_ reading.1) start
      exact handleStateD_rule edge (by simp) (by simp) (by simp [reads]) moved
    · have other : s.cpState ≠ .stateD := fun ventilated => reading ⟨ventilated, by simp⟩
      exact handleStateD_rule edge (.inl at_) (fun ventilated => absurd ventilated other) reads
        start
  | stateD =>
    simp only [dispatch, at_]
    exact handleStateD_rule edge (.inr at_) (fun _ => at_) reads start
  | stateC2 =>
    simp only [dispatch, at_, handleStateC2]
    split_ifs with reading
    · have moved := edge reads (.ventilateCharging at_ reading) start
      exact handleStateD2_rule edge (by simp) (by simp) meter (by simp [reads]) moved
    · exact handleStateD2_rule edge (.inl at_) (fun ventilated => absurd ventilated reading) meter
        reads start
  | stateD2 =>
    simp only [dispatch, at_]
    exact handleStateD2_rule edge (.inr at_) (fun _ => at_) meter reads start
  | stateE =>
    simp only [dispatch, at_, handleStateEF]
    split_ifs with unplugged broken
    · exact edge reads (.unplug (by simp [at_]) unplugged) start
    · exact edge reads (.fault (by simp [at_]) broken) start
    · exact start
  | stateF =>
    simp only [dispatch, at_, handleStateEF]
    split_ifs with unplugged broken
    · exact edge reads (.unplug (by simp [at_]) unplugged) start
    · exact edge reads (.fault (by simp [at_]) broken) start
    · exact start
  | lastState =>
    simp only [dispatch, at_, handleLastState]
    split_ifs with known
    · exact edge reads (.startUp at_ known) start
    · exact start

/-- Whatever every part of an iteration keeps, the iteration keeps. -/
theorem loopEvse_rule {P : Evse → Prop}
    (read : ∀ {s}, P s → P (readPilot i s))
    (edge : ∀ {s n}, s.cpState = i.controlPilot → Edge s n → P s → P (setState cfg n s))
    (poll : ∀ {s}, s.currentState = .stateB → P s → P (pollAuthorization i s))
    (meter : ∀ {s}, s.currentState = .stateC2 ∨ s.currentState = .stateD2 → P s →
      P (meterInterval cfg i s))
    (finish : ∀ {s newPwm}, P s → P (applyPwm s newPwm))
    (start : P s) : P (loopEvse cfg i s) :=
  -- The parts follow each other in the order of the source.
  finish (dispatch_rule edge poll meter (by simp) (read start))

end EasyEvse.J1772
