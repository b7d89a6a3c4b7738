import EasyEvse.J1772.Safety

/-! A stop request opens the contactor, unless the vehicle has almost stopped on its own. -/

namespace EasyEvse.J1772

variable {cfg : Config} {i : Inputs} {s : Evse} {newState : J1772State}

/-- A stop is requested, and the contactor is still closed. -/
structure Stopping (s : Evse) : Prop where
  requested : s.readyToCharge = false
  closed : s.relayOpen = false

/-- The contactor is open by now, or is still to be opened. -/
def Obeys (s : Evse) : Prop := s.relayOpen = true ∨ Stopping s

theorem Obeys.of_open (opened : s.relayOpen = true) : Obeys s := .inl opened

theorem Stopping.obeys (stopping : Stopping s) : Obeys s := .inr stopping

/--
An iteration that forgets a requested stop before the contactor is open.

The return to state B2 leaves the contactor closed for a small current, and withdraws the request.
-/
def ForgetsStop (s : Evse) (i : Inputs) : Prop :=
  s.readyToCharge = false ∧ s.relayOpen = false ∧
    (s.currentState = .stateC2 ∨ s.currentState = .stateD2) ∧ i.controlPilot = .stateB ∧
    i.current < minCurrentDrawBeforeDisconnectSeq7

instance : Decidable (ForgetsStop s i) := inferInstanceAs (Decidable (_ ∧ _ ∧ _ ∧ _ ∧ _))

/-- A requested stop is what keeps the charging states from closing anything. -/
theorem Stopping.charging (stopping : Stopping s)
    (target : newState = .stateC2 ∨ newState = .stateD2) (other : s.currentState ≠ newState) :
    Stopping (setState cfg newState s) := by
  -- Without permission the contactor stays as it is, and so does the request.
  obtain ⟨relay, -, -, ready, -⟩ := setState_charging cfg target other
  have refused : ¬ Permits cfg newState s := by simp [Permits, stopping.requested]
  rw [if_neg refused] at relay
  exact ⟨by simp [ready, refused], relay.trans stopping.closed⟩

/-- Reading the meter records the current that flows. -/
theorem measure_current (timeLapse : UInt32) :
    (measure cfg i timeLapse s).measuredCurrent = i.current := by
  -- A current above the maximum raises a flag, and is recorded all the same.
  simp only [measure]
  split_ifs <;> rfl

/-- When the vehicle stops asking for power, the meter is read before anything else. -/
theorem meterInterval_current (reads : s.cpState = .stateB) :
    (meterInterval cfg i s).measuredCurrent = i.current := by
  -- The reading B is one of those for which the meter is always due.
  unfold meterInterval
  dsimp only
  split_ifs <;> simp_all [measure_current]

/-- In state B2 a requested stop opens the contactor, or waits for the next charging state. -/
theorem handleStateB2_obeys (stopping : Stopping s) (at_ : s.currentState = .stateB2) {newPwm : ℚ} :
    Obeys (handleStateB2 cfg s newPwm).1 := by
  -- Every branch but those for C and D opens the contactor, or changes nothing.
  simp only [handleStateB2]
  split_ifs with unplugged withdrawn charge ventilated broken
  · exact .inl (setState_stateA2 cfg (by simp [at_])).1
  · exact .inl (setState_stateB cfg (by simp [at_]) (by simp [at_])).1
  · exact .inr (stopping.charging (.inl rfl) (by simp [at_]))
  · exact .inr (stopping.charging (.inr rfl) (by simp [at_]))
  · exact .inl (setState_error cfg (.inr rfl) (by simp [at_])).1
  · exact .inr stopping

/-- In the charging states a requested stop opens the contactor when the vehicle asks for power. -/
theorem handleStateD2_obeys (stopping : Stopping s)
    (at_ : s.currentState = .stateC2 ∨ s.currentState = .stateD2)
    (followed : s.cpState = .stateD → s.currentState = .stateD2)
    (kept : ¬ (s.cpState = .stateB ∧ i.current < minCurrentDrawBeforeDisconnectSeq7)) :
    Obeys (handleStateD2 cfg i s).1 ∧
      (AsksForPower s → (handleStateD2 cfg i s).1.relayOpen = true) := by
  -- Metering changes none of the fields the branches look at but the current.
  obtain ⟨u, named⟩ : ∃ u, u = meterInterval cfg i s := ⟨_, rfl⟩
  have metered : Stopping u :=
    ⟨by simp [named, stopping.requested], by simp [named, stopping.closed]⟩
  have at_ : u.currentState = .stateC2 ∨ u.currentState = .stateD2 := by simpa [named] using at_
  have followed : u.cpState = .stateD → u.currentState = .stateD2 := by
    simpa [named] using followed
  have pilot : s.cpState = u.cpState := by simp [named]
  have current : u.cpState = .stateB → u.measuredCurrent = i.current := by
    intro reads
    rw [named]
    exact meterInterval_current (pilot.trans reads)
  simp only [handleStateD2, ← named, AsksForPower]
  rw [pilot] at kept ⊢
  cases reading : u.cpState with
  | stateA =>
    have away : u.currentState ≠ .stateA2 := by rcases at_ with at_ | at_ <;> simp [at_]
    simpa using Obeys.of_open (setState_stateA2 cfg away).1
  | stateB =>
    have away : u.currentState ≠ .stateB2 := by rcases at_ with at_ | at_ <;> simp [at_]
    -- The current is not small, so the return to state B2 opens the contactor.
    have opens : OpensOnReturn u := by
      refine ⟨at_, fun small => kept ⟨reading, ?_⟩⟩
      rwa [current reading] at small
    have relay := (setState_stateB2 cfg away).1
    rw [if_pos opens] at relay
    simpa using Obeys.of_open relay
  | stateC =>
    obtain ⟨v, named⟩ : ∃ v, v =
        if u.lastCpState = .stateD then setState cfg .stateC2 u else u := ⟨_, rfl⟩
    have back : v.readyToCharge = false ∧
        (v.currentState = .stateC2 ∨ v.currentState = .stateD2) := by
      subst named
      split
      · by_cases same : u.currentState = .stateC2
        · rw [setState_self cfg same]
          exact ⟨metered.requested, at_⟩
        · exact ⟨(metered.charging (.inl rfl) same).requested, by simp⟩
      · exact ⟨metered.requested, at_⟩
    have opened : (setState cfg v.currentState.prev v).relayOpen = true := by
      rcases back.2 with at_ | at_
      · rw [at_]; exact (setState_suspend cfg (.inl rfl) (by simp [at_])).1
      · rw [at_]; exact (setState_suspend cfg (.inr rfl) (by simp [at_])).1
    simp only [reduceCtorEq, if_true, if_false, true_and, true_or, ← named, back.1]
    exact ⟨.of_open opened, fun _ => opened⟩
  | stateD =>
    have at_ := followed reading
    have opened : (setState cfg .stateD u).relayOpen = true :=
      (setState_suspend cfg (.inr rfl) (by simp [at_])).1
    simp only [reduceCtorEq, if_true, if_false, false_and, or_true, at_, metered.requested, true_or,
      J1772State.prev]
    exact ⟨.of_open opened, fun _ => opened⟩
  | stateE => simpa using metered.obeys
  | stateF =>
    have away : u.currentState ≠ .stateF := by rcases at_ with at_ | at_ <;> simp [at_]
    simpa using Obeys.of_open (setState_error cfg (.inr rfl) away).1
  | stateUnknown => simpa using metered.obeys

/-- State C2 carries out a requested stop in the same way, through state D2 if it has to. -/
theorem handleStateC2_obeys (stopping : Stopping s) (at_ : s.currentState = .stateC2)
    (kept : ¬ (s.cpState = .stateB ∧ i.current < minCurrentDrawBeforeDisconnectSeq7)) :
    Obeys (handleStateC2 cfg i s).1 ∧
      (AsksForPower s → (handleStateC2 cfg i s).1.relayOpen = true) := by
  -- A reading of D is followed to state D2 first, with the stop still requested.
  simp only [handleStateC2]
  split_ifs with ventilated
  · have moved : Stopping (setState cfg .stateD2 s) := stopping.charging (.inr rfl) (by simp [at_])
    have obeys := @handleStateD2_obeys cfg i _ moved (by simp) (by simp) (by simpa using kept)
    simpa [AsksForPower] using obeys
  · exact handleStateD2_obeys stopping (.inl at_) (fun reads => absurd reads ventilated) kept

/--
An iteration that does not forget a requested stop opens the contactor or leaves the stop requested.

It opens the contactor if the vehicle asks for power in a charging state.
-/
theorem loopEvse_obeys (safe : Safe s) (stopping : Stopping s) (kept : ¬ ForgetsStop s i) :
    Obeys (loopEvse cfg i s) ∧
      ((s.currentState = .stateC2 ∨ s.currentState = .stateD2) →
        (i.controlPilot = .stateC ∨ i.controlPilot = .stateD) →
        (loopEvse cfg i s).relayOpen = true) := by
  -- With a closed contactor the machine is in one of three states.
  obtain ⟨u, named⟩ : ∃ u, u = readPilot i s := ⟨_, rfl⟩
  have read : Stopping u := ⟨by simp [named, stopping.requested], by simp [named, stopping.closed]⟩
  have state : u.currentState = s.currentState := by simp [named]
  have pilot : u.cpState = i.controlPilot := by simp [named]
  have finish : ∀ newPwm v, Obeys v → Obeys (applyPwm v newPwm) := by
    intro newPwm v obeys
    rcases obeys with opened | still
    · exact .inl (by simp [opened])
    · exact .inr ⟨by simp [still.requested], by simp [still.closed]⟩
  simp only [loopEvse, ← named]
  rcases safe.closed stopping.closed with at_ | at_ | at_
  · refine ⟨finish _ _ ?_, by simp [at_]⟩
    have here : u.currentState = .stateB2 := state.trans at_
    simpa [dispatch, here] using handleStateB2_obeys read here
  · have here : u.currentState = .stateC2 := state.trans at_
    have obeys := @handleStateC2_obeys cfg i u read here fun small =>
      kept ⟨stopping.requested, stopping.closed, .inl at_, pilot ▸ small.1, small.2⟩
    simp only [dispatch, here]
    refine ⟨finish _ _ obeys.1, fun _ asks => ?_⟩
    simpa using obeys.2 (by simpa [AsksForPower, pilot] using asks)
  · have here : u.currentState = .stateD2 := state.trans at_
    have obeys := @handleStateD2_obeys cfg i u read (.inr here) (fun _ => here) fun small =>
      kept ⟨stopping.requested, stopping.closed, .inr at_, pilot ▸ small.1, small.2⟩
    simp only [dispatch, here]
    refine ⟨finish _ _ obeys.1, fun _ asks => ?_⟩
    simpa using obeys.2 (by simpa [AsksForPower, pilot] using asks)

end EasyEvse.J1772
