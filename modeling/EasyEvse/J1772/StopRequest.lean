import EasyEvse.J1772.Safety

/-! A stop request holds the contactor open until an iteration withdraws it. -/

namespace EasyEvse.J1772

variable (cfg : Config) {i : Inputs} {s : Evse} {newState : J1772State}

/-- Operations that neither unplug the vehicle nor withdraw a stop request from outside. -/
structure Undisturbed (ops : List Op) : Prop where
  plugged : NoUnplug ops
  requested : Op.stopCharging false ∉ ops

/--
An iteration that enters state B, B2 or C on its own withdraws a stop request.

Each of these changes calls for the end of a stop, which only state D leaves alone.
-/
def WithdrawsStop (s : Evse) (i : Inputs) : Prop :=
  -- Back to B, on to B2, and over to C: each by its own branch of the loop.
  (s.currentState = .stateB2 ∧ i.controlPilot = .stateB) ∨
  (s.currentState = .stateC2 ∧ (i.controlPilot = .stateB ∨ i.controlPilot = .stateC)) ∨
  (s.currentState = .stateD2 ∧ (i.controlPilot = .stateB ∨
    (i.controlPilot = .stateC ∧ s.lastCpState = .stateD))) ∨
  (s.currentState = .stateD ∧ (i.controlPilot = .stateB ∨ i.controlPilot = .stateC))

instance : Decidable (WithdrawsStop s i) := inferInstanceAs (Decidable (_ ∨ _))

/-- The operations that leave a stop request as it is. -/
def KeepsStop (s : Evse) : Op → Prop
  | .loop i => ¬ WithdrawsStop s i
  | .stopCharging _ | .setMaxCurrent _ => True

instance : ∀ s op, Decidable (KeepsStop s op)
  | s, .loop i => inferInstanceAs (Decidable (¬ WithdrawsStop s i))
  | _, .stopCharging _ | _, .setMaxCurrent _ => inferInstanceAs (Decidable True)

/-- A recorded stop request, in one of the states the machine can hold it in. -/
structure StopHeld (s : Evse) : Prop where
  requested : s.readyToCharge = false
  at_ : s.currentState = .stateB2 ∨ s.currentState = .stateC2 ∨ s.currentState = .stateD2 ∨
    s.currentState = .stateD ∨ s.currentState = .stateF

/-- The request is still held, and nothing has closed a contactor that was open. -/
def StillStopped (s t : Evse) : Prop :=
  StopHeld t ∧ (s.relayOpen = true → t.relayOpen = true)

/-- Entering C2, D2, D or F keeps a recorded request, and closes nothing. -/
theorem setState_stillStopped (requested : s.readyToCharge = false)
    (target : newState = .stateC2 ∨ newState = .stateD2 ∨ newState = .stateD ∨ newState = .stateF)
    (other : s.currentState ≠ newState) : StillStopped s (setState cfg newState s) := by
  -- Of the four states only the waiting one and the fault switch anything, and they switch it off.
  rcases target with rfl | rfl | rfl | rfl
  · -- A requested stop is what keeps the contactor from closing here.
    obtain ⟨relay, -, -, ready, -⟩ := setState_charging cfg (.inl rfl) other
    have refused : ¬ Permits cfg .stateC2 s := by simp [Permits, requested]
    refine ⟨⟨by simp [ready, refused], by simp⟩, fun off => ?_⟩
    rw [relay, if_neg refused, off]
  · obtain ⟨relay, -, -, ready, -⟩ := setState_charging cfg (.inr rfl) other
    have refused : ¬ Permits cfg .stateD2 s := by simp [Permits, requested]
    refine ⟨⟨by simp [ready, refused], by simp⟩, fun off => ?_⟩
    rw [relay, if_neg refused, off]
  · refine ⟨⟨(setState_stateD_ready cfg).trans requested, by simp⟩, fun off => ?_⟩
    by_cases waiting : s.currentState = .stateC ∨ s.currentState = .stateD
    · exact (setState_waiting cfg (.inr rfl) waiting).1.trans off
    · exact (setState_suspend cfg (.inr rfl) waiting).1
  · obtain ⟨relay, -, -, ready, -⟩ := setState_error cfg (.inr rfl) other
    exact ⟨⟨ready.trans requested, by simp⟩, fun _ => relay⟩

/-- What is still stopped after two changes in a row was still stopped after each of them. -/
theorem StillStopped.trans {t u : Evse} (first : StillStopped s t) (second : StillStopped t u) :
    StillStopped s u :=
  ⟨second.1, fun off => second.2 (first.2 off)⟩

/-- State B2 keeps a recorded request, unless the vehicle stops asking for power. -/
theorem handleStateB2_stillStopped (held : StopHeld s) (at_ : s.currentState = .stateB2)
    (plugged : s.cpState ≠ .stateA) (kept : s.cpState ≠ .stateB) {newPwm : ℚ} :
    StillStopped s (handleStateB2 cfg s newPwm).1 := by
  -- Without the readings A and B only the ways to C2, D2 and F are left.
  have moves : ∀ {newState}, newState = .stateC2 ∨ newState = .stateD2 ∨ newState = .stateD ∨
      newState = .stateF → s.currentState ≠ newState → StillStopped s (setState cfg newState s) :=
    fun target other => setState_stillStopped cfg held.requested target other
  simp only [handleStateB2, plugged, kept, if_false, false_and]
  split_ifs with charge ventilated broken
  · exact moves (by simp) (by simp [at_])
  · exact moves (by simp) (by simp [at_])
  · exact moves (by simp) (by simp [at_])
  · exact ⟨held, id⟩

/-- State D keeps a recorded request, unless the vehicle goes back to B or C. -/
theorem handleStateD_stillStopped (held : StopHeld s) (at_ : s.currentState = .stateD)
    (plugged : s.cpState ≠ .stateA) (kept : s.cpState ≠ .stateB ∧ s.cpState ≠ .stateC)
    {newPwm : ℚ} : StillStopped s (handleStateD cfg s newPwm).1 := by
  -- Without the readings A, B and C the machine stays, or meets a fault.
  simp only [handleStateD, plugged, kept.1, kept.2, if_false, false_or, false_and, held.requested,
    Bool.false_eq_true]
  split_ifs with full broken
  · exact ⟨held, id⟩
  · exact ⟨held, id⟩
  · exact setState_stillStopped cfg held.requested (by simp) (by simp [at_])
  · exact ⟨held, id⟩

/-- State D2 carries a recorded request out in state D, where it stays recorded. -/
theorem handleStateD2_stillStopped (i : Inputs) (held : StopHeld s)
    (at_ : s.currentState = .stateD2) (plugged : s.cpState ≠ .stateA) (kept : s.cpState ≠ .stateB)
    (straight : ¬ (s.cpState = .stateC ∧ s.lastCpState = .stateD)) :
    StillStopped s (handleStateD2 cfg i s).1 := by
  -- Metering changes none of the fields the branches look at, so name its result.
  obtain ⟨u, named⟩ : ∃ u, u = meterInterval cfg i s := ⟨_, rfl⟩
  have metered : StillStopped s u := by
    rw [named]
    exact ⟨⟨by simp [held.requested], by simp [at_]⟩, by simp⟩
  have inD2 : u.currentState = .stateD2 := by simp [named, at_]
  have carried : StillStopped u (setState cfg .stateD u) :=
    setState_stillStopped cfg metered.1.requested (by simp) (by simp [inD2])
  have pilot : u.cpState = s.cpState ∧ u.lastCpState = s.lastCpState := by simp [named]
  have ready : u.readyToCharge = false := metered.1.requested
  simp only [handleStateD2, ← named, pilot.1, pilot.2, plugged, kept, straight, if_false, ready,
    true_or, if_true, inD2, J1772State.prev]
  split_ifs with asks broken
  · exact metered.trans carried
  · exact metered.trans (setState_stillStopped cfg ready (by simp) (by simp [inD2]))
  · exact metered

/-- State C2 keeps a recorded request only on its way to state D. -/
theorem handleStateC2_stillStopped (held : StopHeld s) (at_ : s.currentState = .stateC2)
    (plugged : s.cpState ≠ .stateA) (kept : s.cpState ≠ .stateB ∧ s.cpState ≠ .stateC) :
    StillStopped s (handleStateC2 cfg i s).1 := by
  by_cases ventilated : s.cpState = .stateD
  · have moved : StillStopped s (setState cfg .stateD2 s) :=
      setState_stillStopped cfg held.requested (by simp) (by simp [at_])
    have carried := handleStateD2_stillStopped cfg i moved.1 (by simp)
      (by simp [plugged]) (by simp [kept.1]) (by simp [kept.2])
    simp only [handleStateC2, ventilated, if_true]
    exact moved.trans carried
  · -- Only a fault is left of the readings that move the machine.
    have unmetered : StillStopped s (meterInterval cfg i s) :=
      ⟨⟨by simp [held.requested], by simp [at_]⟩, by simp⟩
    simp only [handleStateC2, handleStateD2, ventilated, plugged, kept.1, kept.2, if_false,
      meterInterval_frame, or_self]
    split_ifs with broken
    · exact unmetered.trans
        (setState_stillStopped cfg unmetered.1.requested (by simp) (by simp [at_]))
    · exact unmetered

/-- An iteration that does not withdraw a recorded request keeps it, while the vehicle stays. -/
theorem dispatch_stillStopped (i : Inputs) (held : StopHeld s) (plugged : s.cpState ≠ .stateA)
    (reads : s.cpState = i.controlPilot) (kept : ¬ WithdrawsStop s i) :
    StillStopped s (dispatch cfg i s).1 := by
  obtain ⟨notB2, notC2, notD2, notD⟩ : ¬ _ ∧ ¬ _ ∧ ¬ _ ∧ ¬ _ := by
    simpa only [WithdrawsStop, not_or] using kept
  rw [← reads] at notB2 notC2 notD2 notD
  rcases held.at_ with at_ | at_ | at_ | at_ | at_
  · simpa [dispatch, at_] using handleStateB2_stillStopped cfg held at_ plugged (by tauto)
  · simpa [dispatch, at_] using handleStateC2_stillStopped cfg held at_ plugged (by tauto)
  · simpa [dispatch, at_] using
      handleStateD2_stillStopped cfg i held at_ plugged (by tauto) (by tauto)
  · simpa [dispatch, at_] using handleStateD_stillStopped cfg held at_ plugged (by tauto)
  · -- State F only answers to A, and to itself.
    have unmoved : (handleStateEF cfg s).1 = s := by
      unfold handleStateEF
      rw [if_neg plugged]
      split_ifs
      · exact setState_self cfg at_
      · rfl
    simp only [dispatch, at_, unmoved]
    exact ⟨held, id⟩

/-- Every undisturbed operation that keeps a recorded request keeps the contactor open with it. -/
theorem apply_stillStopped {op : Op} (held : StopHeld s) (calm : Undisturbed [op])
    (kept : KeepsStop s op) : StillStopped s (apply cfg s op) := by
  cases op with
  | loop i =>
    have plugged : i.controlPilot ≠ .stateA := calm.plugged i (by simp)
    have read : StillStopped s (readPilot i s.fresh) :=
      ⟨⟨by simp [held.requested], by simpa using held.at_⟩, by simp⟩
    have moved := dispatch_stillStopped cfg i read.1 (by simpa using plugged) (by simp)
      (by simpa [KeepsStop, WithdrawsStop] using kept)
    have finished : ∀ {newPwm}, StillStopped (dispatch cfg i (readPilot i s.fresh)).1
        (applyPwm (dispatch cfg i (readPilot i s.fresh)).1 newPwm) :=
      ⟨⟨by simpa using moved.1.requested, by simpa using moved.1.at_⟩, by simp⟩
    exact (read.trans moved).trans finished
  | stopCharging stop =>
    -- Only a repeated request is undisturbed.
    have again : stop = true := by
      by_contra other
      exact calm.requested (by simp [Bool.eq_false_of_not_eq_true other])
    subst again
    exact ⟨⟨rfl, held.at_⟩, id⟩
  | setMaxCurrent maxCurrent =>
    simp only [apply, setMaxCurrent_eq]
    exact ⟨⟨held.requested, held.at_⟩, id⟩

/-- A whole undisturbed run that keeps a recorded request keeps the contactor open with it. -/
theorem applyAll_stillStopped {ops : List Op} (held : StopHeld s) (calm : Undisturbed ops)
    (kept : Transition.Meets KeepsStop (step cfg) s ops) :
    StillStopped s (applyAll cfg s ops) := by
  -- Each operation keeps the request, and what follows it starts from there.
  induction ops generalizing s with
  | nil => exact ⟨held, id⟩
  | cons op ops ih =>
    have here : Undisturbed [op] :=
      ⟨fun i member => calm.plugged i (by simp_all), fun member => calm.requested (by simp_all)⟩
    have rest : Undisturbed ops :=
      ⟨fun i member => calm.plugged i (by simp [member]),
        fun member => calm.requested (by simp [member])⟩
    obtain ⟨keepsHere, keepsRest⟩ := kept (apply cfg s op) rfl
    have first := apply_stillStopped cfg held here keepsHere
    exact first.trans (ih first.1 rest keepsRest)

/--
A stop request is kept along every run none of whose iterations withdraws it.

Once the contactor is open after the request, it is open after everything that follows, until the
vehicle is unplugged.
-/
theorem stop_request_kept {ops opened later : List Op}
    (at_ : s.currentState = .stateB2 ∨ s.currentState = .stateC2 ∨ s.currentState = .stateD2)
    (calm : Undisturbed ops)
    (kept : Transition.Meets KeepsStop (step cfg) (apply cfg s (.stopCharging true)) ops)
    (isPrefix : opened <+: later) (within : later <+: ops)
    (off : (applyAll cfg (apply cfg s (.stopCharging true)) opened).relayOpen = true) :
    (applyAll cfg (apply cfg s (.stopCharging true)) later).relayOpen = true := by
  -- The request is held from the call on, and the run is cut where the contactor was seen open.
  have held : StopHeld (apply cfg s (.stopCharging true)) := by
    refine ⟨rfl, ?_⟩
    rcases at_ with at_ | at_ | at_ <;> simp [apply, stopCharging, at_]
  -- The run splits where the contactor was seen open, and again where it is looked at later.
  obtain ⟨between, rfl⟩ := isPrefix
  obtain ⟨after, rfl⟩ := within
  obtain ⟨⟨keptOpened, keptBetween⟩, -⟩ : (_ ∧ _) ∧ _ := by
    simpa only [Transition.meets_append] using kept
  have calmOpened : Undisturbed opened :=
    ⟨fun i member => calm.plugged i (by simp [member]),
      fun member => calm.requested (by simp [member])⟩
  have calmBetween : Undisturbed between :=
    ⟨fun i member => calm.plugged i (by simp [member]),
      fun member => calm.requested (by simp [member])⟩
  have first := applyAll_stillStopped cfg held calmOpened keptOpened
  have second := applyAll_stillStopped cfg first.1 calmBetween (keptBetween _ (run_step cfg _ _))
  have joined : applyAll cfg (apply cfg s (.stopCharging true)) (opened ++ between) =
      applyAll cfg (applyAll cfg (apply cfg s (.stopCharging true)) opened) between := by
    simp [applyAll]
  rw [joined]
  exact second.2 off

/-- A vehicle that asks for ventilation when it is stopped stays stopped. -/
theorem stop_request_kept_ventilated :
    (applyAll ⟨true, false⟩ (apply ⟨true, false⟩ charging (.stopCharging true))
      [.loop (pilotOnly .stateD), .loop (pilotOnly .stateD)]).relayOpen = true :=
  stop_request_kept ⟨true, false⟩ (by decide +kernel)
    ⟨by simp [NoUnplug, pilotOnly], by simp⟩ (by decide +kernel)
    (show [Op.loop (pilotOnly .stateD)] <+: _ from ⟨[.loop (pilotOnly .stateD)], rfl⟩)
    (List.prefix_refl _) (by decide +kernel)

/-- A vehicle that goes on asking for power is stopped by one iteration and charged by the next. -/
theorem stop_request_undone :
    Reachable ⟨true, false⟩ charging ∧ charging.currentState = .stateC2 ∧
    (applyAll ⟨true, false⟩ (apply ⟨true, false⟩ charging (.stopCharging true))
      [.loop (pilotOnly .stateC)]).relayOpen = true ∧
    (applyAll ⟨true, false⟩ (apply ⟨true, false⟩ charging (.stopCharging true))
      [.loop (pilotOnly .stateC), .loop (pilotOnly .stateC)]).relayOpen = false :=
  ⟨reachable_applyAll ⟨true, false⟩ 32 chargingRun, by decide +kernel, by decide +kernel,
    by decide +kernel⟩

end EasyEvse.J1772
