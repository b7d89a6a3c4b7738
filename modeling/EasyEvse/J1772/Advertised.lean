import EasyEvse.J1772.Stays

/-! The current that a vehicle is told while it is charged, against the configured limit. -/

namespace EasyEvse.J1772

open Transition

/-- An iteration that ends with the vehicle charged tells it a current that the limit allows. -/
def Advertises (cfg : Config) (s : Evse) : Op → Prop
  | .loop i =>
    (apply cfg s (.loop i)).currentState.Charging ∧ (apply cfg s (.loop i)).relayOpen = false →
      Tells ((apply cfg s (.loop i)).currentPwm / 10) s.maxCurrent
  | .stopCharging _ | .setMaxCurrent _ => True

/-- An iteration that begins here ends with the vehicle charged. -/
def Charges (cfg : Config) (i : Inputs) (s : Evse) : Prop :=
  match s.currentState with
  | .stateB2 =>
    -- The contactor may still be closed, for a vehicle that drew almost nothing.
    i.controlPilot = .stateC ∧ (s.relayOpen = false ∨ Permits cfg .stateC2 s) ∨
      i.controlPilot = .stateD ∧ (s.relayOpen = false ∨ Permits cfg .stateD2 s)
  | .stateC | .stateD =>
    s.currentPwm = pwm100MaxValue ∧ (readPilot i s).overCurrent = false ∧
      -- A C reading in state D withdraws a stop request.
      (i.controlPilot = .stateC ∧ (s.readyToCharge = true ∨ s.currentState = .stateD) ∨
        i.controlPilot = .stateD ∧ Permits cfg .stateD2 s)
  | .stateC2 | .stateD2 =>
    i.controlPilot ≠ .stateA ∧ i.controlPilot ≠ .stateB ∧ ¬ Suspends cfg i s ∧
      (s.relayOpen = false ∨ Restarts cfg i s ∨ TurnsBack i s)
  | .stateA | .stateA2 | .stateB | .stateE | .stateF | .lastState => False

instance (cfg : Config) (i : Inputs) (s : Evse) : Decidable (Charges cfg i s) := by
  unfold Charges
  split <;> infer_instance

/-- The charging task, with a limit that was in force before. -/
structure Noted where
  evse : Evse
  /-- The limit in the last iteration that began in neither state A2 nor state B2. -/
  limit : ℚ

/-- Apply one operation, and note the limit that the duty of the pulses goes by. -/
def Noted.apply (cfg : Config) (s : Noted) : Op → Noted
  | .loop i =>
    { evse := J1772.apply cfg s.evse (.loop i)
      -- The cases of these two states leave the duty alone.
      limit := if s.evse.currentState = .stateA2 ∨ s.evse.currentState = .stateB2 then s.limit
        else s.evse.maxCurrent }
  | .stopCharging stop => { s with evse := J1772.apply cfg s.evse (.stopCharging stop) }
  | .setMaxCurrent maxCurrent =>
    { s with evse := J1772.apply cfg s.evse (.setMaxCurrent maxCurrent) }

/-- Every operation is enabled in every state. -/
def notedStep (cfg : Config) : Step Noted Op := fun s op => some (s.apply cfg op)

/--
A limit can be told, and the duty that tells it stands for no more than the limit now in force.

From 51 amperes on, a duty tells no more than the whole multiple of 2.5 amperes below its limit.
-/
def Covers (limit now : ℚ) : Prop :=
  6 ≤ limit ∧ limit ≤ 81 ∧
    (limit ≤ now ∨ 51 ≤ now ∧ ((limit / (5 / 2)).floor : ℚ) * (5 / 2) ≤ now)

instance (limit now : ℚ) : Decidable (Covers limit now) :=
  inferInstanceAs (Decidable (_ ∧ _ ∧ (_ ∨ _ ∧ _)))

/--
The limit is one that a duty can tell, in every iteration that ends with the vehicle charged.

An iteration that begins in state B2 computes no duty.
There the limit must not have been lowered behind the duty that was computed before.
-/
def OffersLimit (cfg : Config) (s : Noted) : Op → Prop
  | .loop i => Charges cfg i s.evse →
    if s.evse.currentState = .stateB2 then Covers s.limit s.evse.maxCurrent else s.evse.InLimits
  | .stopCharging _ | .setMaxCurrent _ => True

instance (cfg : Config) (s : Evse) : DecidablePred (Advertises cfg s)
  | .loop _ => inferInstanceAs (Decidable (_ ∧ _ → Tells _ _))
  | .stopCharging _ | .setMaxCurrent _ => isTrue trivial

instance (cfg : Config) (s : Noted) : DecidablePred (OffersLimit cfg s)
  | .loop _ => inferInstanceAs (Decidable (_ → ite _ _ _))
  | .stopCharging _ | .setMaxCurrent _ => isTrue trivial

section Charged

variable {cfg : Config} {i : Inputs} {s : Evse}

/-- The waiting states lead to the charging ones from a pilot held high, if nothing holds back. -/
theorem handleStateD_delivers {newPwm : ℚ} (off : s.relayOpen = true)
    (at_ : s.currentState = .stateC ∨ s.currentState = .stateD)
    (followed : s.cpState = .stateD → s.currentState = .stateD) :
    Delivering (handleStateD cfg s newPwm).1 ↔
      s.currentPwm = pwm100MaxValue ∧ s.overCurrent = false ∧
        (s.cpState = .stateC ∧ (s.readyToCharge = true ∨ s.currentState = .stateD) ∨
          s.cpState = .stateD ∧ Permits cfg .stateD2 s) := by
  have idle : ¬ s.currentState.Charging := by
    rcases at_ with at_ | at_ <;> simp [at_, J1772State.Charging]
  -- Only the readings C and D ask for power.
  cases reading : s.cpState with
  | stateA | stateB | stateF => simp [handleStateD, reading, Delivering, J1772State.Charging]
  | stateE | stateUnknown => simp [handleStateD, reading, Delivering, idle]
  | stateC =>
    -- State D goes back to C first, which is where a stop request is withdrawn.
    have again : setState cfg .stateC (setState cfg .stateC s) = setState cfg .stateC s :=
      setState_self cfg (setState_currentState cfg)
    have ready : (setState cfg .stateC s).readyToCharge = true ↔
        s.readyToCharge = true ∨ s.currentState = .stateD := by
      rcases at_ with at_ | at_
      · simp [setState_self cfg at_, at_]
      · simp [setState, enterReady, stopCharging, at_]
    obtain ⟨-, -, -, held, -⟩ := setState_meter cfg (s := s) (n := .stateC) (by decide)
    have other : (setState cfg .stateC s).currentState ≠ .stateC2 := by simp
    obtain ⟨relay, -⟩ := setState_charging cfg (.inl rfl) other
    simp only [handleStateD, reading, reduceCtorEq, if_true, if_false, setState_frame, again,
      ite_self, true_or, J1772State.next, setState_currentState, ready, held]
    split_ifs with full free
    · simp [Delivering, J1772State.Charging, relay, Permits, ready, free, full]
    · refine iff_of_false (by simp [Delivering, J1772State.Charging]) ?_
      rintro ⟨-, held, ⟨-, asks⟩ | ⟨⟨⟩, -⟩⟩
      exact free ⟨asks, held⟩
    · simp [Delivering, J1772State.Charging, full]
  | stateD =>
    -- The letter is D already, and only ventilation can be missing.
    have letter := followed reading
    have other : s.currentState ≠ .stateD2 := by simp [letter]
    obtain ⟨relay, -⟩ := setState_charging cfg (.inr rfl) other
    simp only [handleStateD, reading, reduceCtorEq, if_true, if_false, or_true, false_and, letter,
      J1772State.next]
    split_ifs with full free
    · simp [Delivering, J1772State.Charging, relay, off, full, free.2]
    · refine iff_of_false (fun delivers => idle delivers.1) ?_
      rintro ⟨-, held, ⟨⟨⟩, -⟩ | ⟨-, permits⟩⟩
      exact free ⟨permits.1, held⟩
    · simp [Delivering, idle, full]

/-- Turning back to state C2 closes the contactor, if the charging goes on. -/
theorem turnsBack_closes (turns : TurnsBack i s)
    (charging : (apply cfg s (.loop i)).currentState.Charging) :
    (apply cfg s (.loop i)).relayOpen = false := by
  obtain ⟨at_, reads, before⟩ := turns
  simp only [apply, loopEvse, dispatch, handleStateD2, applyPwm_frame, meterInterval_frame,
    readPilot_frame, fresh_frame, at_, reads, before, reduceCtorEq, if_true, if_false, true_or,
    and_self] at charging ⊢
  have other : (meterInterval cfg i (readPilot i s.fresh)).currentState ≠ .stateC2 := by
    simp [at_]
  obtain ⟨relay, -, -, ready, -⟩ := setState_charging cfg (.inl rfl) other
  split_ifs at charging ⊢ with stops
  · -- A stop leads to the waiting state instead.
    simp [J1772State.Charging, J1772State.prev] at charging
  · rw [ready] at stops
    rw [relay, if_pos (by simpa using (not_or.mp stops).1)]

/-- The end of an iteration sets the duty, and leaves the letter and the contactor alone. -/
theorem delivering_loop :
    Delivering (apply cfg s (.loop i)) ↔ Delivering (dispatch cfg i (readPilot i s.fresh)).1 := by
  simp [Delivering, apply, loopEvse]

/-- From state B2 a reading of C or D leads to charging at once, and permission to power. -/
theorem stateB2_delivers (at_ : s.currentState = .stateB2) :
    Delivering (apply cfg s (.loop i)) ↔
      i.controlPilot = .stateC ∧ (s.relayOpen = false ∨ Permits cfg .stateC2 s) ∨
        i.controlPilot = .stateD ∧ (s.relayOpen = false ∨ Permits cfg .stateD2 s) := by
  have other : ∀ n, n.Charging → (readPilot i s.fresh).currentState ≠ n := by
    rintro n (rfl | rfl) <;> simp [at_]
  have enters : ∀ n, n.Charging → (Delivering (setState cfg n (readPilot i s.fresh)) ↔
      s.relayOpen = false ∨ Permits cfg n s) := by
    intro n charging
    obtain ⟨relay, -⟩ := setState_charging cfg charging (other n charging)
    rw [Delivering, setState_currentState, relay]
    by_cases permits : Permits cfg n s
    · have same : Permits cfg n (readPilot i s.fresh) := by simpa [Permits] using permits
      simp [charging, same, permits]
    · have same : ¬ Permits cfg n (readPilot i s.fresh) := by simpa [Permits] using permits
      simp [charging, same, permits]
  simp only [delivering_loop, dispatch, handleStateB2, readPilot_frame, fresh_frame, at_]
  cases reading : i.controlPilot with
  | stateC => simpa using enters .stateC2 (.inl rfl)
  | stateD => simpa using enters .stateD2 (.inr rfl)
  | stateB =>
    cases ready : s.readyToCharge <;> simp [Delivering, J1772State.Charging, at_]
  | stateA | stateE | stateF | stateUnknown =>
    simp [Delivering, J1772State.Charging, at_]

/-- From the waiting states the fall-through to state D makes no difference to the power. -/
theorem waiting_delivers (off : s.relayOpen = true)
    (at_ : s.currentState = .stateC ∨ s.currentState = .stateD) :
    Delivering (apply cfg s (.loop i)) ↔
      s.currentPwm = pwm100MaxValue ∧ (readPilot i s).overCurrent = false ∧
        (i.controlPilot = .stateC ∧ (s.readyToCharge = true ∨ s.currentState = .stateD) ∨
          i.controlPilot = .stateD ∧ Permits cfg .stateD2 s) := by
  have held : (readPilot i s.fresh).overCurrent = (readPilot i s).overCurrent :=
    readPilot_meter.2.2.2.2.2
  have duty : s.fresh.currentPwm = s.currentPwm := rfl
  rcases at_ with at_ | at_
  · simp only [delivering_loop, dispatch, handleStateC, readPilot_frame, fresh_frame, at_]
    split_ifs with turned
    · -- The fall-through finds the machine in state D already, with everything else as it was.
      have waits : (readPilot i s.fresh).currentState = .stateC := by simp [at_]
      have target : J1772State.stateD = .stateC ∨ J1772State.stateD = .stateD := .inr rfl
      obtain ⟨relay, -⟩ := setState_waiting cfg target (.inl waits)
      obtain ⟨-, -, -, excess, -⟩ :=
        setState_meter cfg (s := readPilot i s.fresh) (n := .stateD) (by decide)
      rw [handleStateD_delivers (by rw [relay]; simpa using off) (by simp) (by simp)]
      simp [Permits, setState_stateD_ready, excess, held, duty, turned.1]
    · rw [handleStateD_delivers (by simpa using off) (.inl (by simp [at_]))
        (fun reads => absurd ⟨by simpa using reads, by simp⟩ turned)]
      simp [Permits, held, duty, at_]
  · simp only [delivering_loop, dispatch, readPilot_frame, fresh_frame, at_]
    rw [handleStateD_delivers (by simpa using off) (.inr (by simp [at_]))
      (fun _ => by simp [at_])]
    simp [Permits, held, duty, at_]

/-- Charging goes on with the contactor left as it was, unless it is started anew. -/
theorem charging_delivers (charging : s.currentState.Charging) :
    Delivering (apply cfg s (.loop i)) ↔
      i.controlPilot ≠ .stateA ∧ i.controlPilot ≠ .stateB ∧ ¬ Suspends cfg i s ∧
        (s.relayOpen = false ∨ Restarts cfg i s ∨ TurnsBack i s) := by
  by_cases unplugged : i.controlPilot = .stateA
  · simp [Delivering, loop_unplugged charging unplugged, J1772State.Charging, unplugged]
  · obtain ⟨-, -, -, letter, relay⟩ := loop_meter cfg charging unplugged
    rw [Delivering, letter]
    by_cases ends : i.controlPilot = .stateB ∨ Suspends cfg i s
    · exact iff_of_false (fun charges => charges.1 ends)
        fun charges => ends.elim charges.2.1 charges.2.2.1
    · obtain ⟨plugged, goes⟩ := not_or.mp ends
      have relay := relay (letter.mpr ends)
      by_cases turned : TurnsBack i s
      · simp [plugged, goes, unplugged, turned, turnsBack_closes turned (letter.mpr ends)]
      · rw [if_neg turned] at relay
        rw [relay.2]
        by_cases restarts : Restarts cfg i s <;>
          simp [plugged, goes, unplugged, turned, restarts]

/-- An iteration ends with the vehicle charged exactly where it is said to beforehand. -/
theorem charges_iff (safe : Safe s) : Delivering (apply cfg s (.loop i)) ↔ Charges cfg i s := by
  rw [Charges]
  cases at_ : s.currentState with
  -- The states without power lead among themselves.
  | stateA =>
    simp only [delivering_loop, dispatch, handleStateA, readPilot_frame, fresh_frame, at_]
    split_ifs <;> simp [Delivering, J1772State.Charging, at_]
  | stateA2 =>
    simp only [delivering_loop, dispatch, handleStateA2, readPilot_frame, fresh_frame, at_]
    split_ifs <;> simp [Delivering, J1772State.Charging, at_]
  | stateB =>
    simp only [delivering_loop, dispatch, handleStateB, readPilot_frame, fresh_frame, at_]
    split_ifs <;> simp [Delivering, J1772State.Charging, at_]
  | stateE | stateF =>
    simp only [delivering_loop, dispatch, handleStateEF, readPilot_frame, fresh_frame, at_]
    split_ifs <;> simp [Delivering, J1772State.Charging, at_]
  | lastState =>
    simp only [delivering_loop, dispatch, handleLastState, readPilot_frame, fresh_frame, at_]
    split_ifs <;> simp [Delivering, J1772State.Charging, at_]
  | stateB2 => exact stateB2_delivers at_
  | stateC | stateD =>
    have off : s.relayOpen = true := safe.off (by simp [at_]) (by simp [at_]) (by simp [at_])
    rw [waiting_delivers off (by simp [at_])]
    simp [at_]
  | stateC2 | stateD2 => exact charging_delivers (by simp [J1772State.Charging, at_])

end Charged

section Told

variable {duty told : ℚ} {limit now : ℕ}

/-- A limit that a duty can tell is told for the present limit exactly if it stands for no more. -/
theorem Codes.tells_iff {limit now : ℚ} (codes : Codes limit duty told) :
    Tells (dutyCyclePerMil limit / 10) now ↔ told ≤ now := by
  have same : dutyCyclePerMil limit / 10 = duty := by
    rw [dutyCyclePerMil, codes.encodes]
    ring
  rw [same]
  simp [Tells, Allowed, codes.decodes, codes.told_ge, codes.duty_ge, codes.duty_le]

/-- The duty of a limit that was noted is sound exactly if that limit covers the present one. -/
theorem tells_iff_covers : Tells (dutyCyclePerMil limit / 10) now ↔ Covers limit now := by
  by_cases inside : (6 : ℚ) ≤ limit ∧ (limit : ℚ) ≤ 81
  · obtain ⟨low, high⟩ := inside
    simp only [Covers, low, high, true_and]
    rcases lt_or_ge (limit : ℚ) 51 with lower | upper
    · -- Below 51 amperes a whole limit loses less than an ampere.
      obtain ⟨duty, told, codes, near⟩ := codes_lower low lower
      have near := near limit le_rfl
      rw [codes.tells_iff]
      constructor
      · intro below
        have order : (limit : ℚ) < now + 1 := by linarith
        exact .inl (by exact_mod_cast Nat.lt_succ_iff.mp (by exact_mod_cast order))
      · rintro (order | ⟨large, -⟩) <;> linarith [codes.told_le]
    · obtain ⟨duty, told, codes, value⟩ := codes_upper upper high
      rw [codes.tells_iff]
      split_ifs at value with edge
      · -- The two limits at the edge stand for more than 50 amperes.
        have floor : (((limit : ℚ) / (5 / 2)).floor : ℚ) ≤ 20 := by
          have whole : ⌊(limit : ℚ) / (5 / 2)⌋ < 21 := Int.floor_lt.mpr (by exact_mod_cast edge)
          exact_mod_cast Int.lt_add_one_iff.mp whole
        constructor
        · intro below
          have large : (50 : ℚ) < now := by linarith
          have large : (51 : ℚ) ≤ now := by
            exact_mod_cast Nat.succ_le_of_lt (by exact_mod_cast large)
          exact .inr ⟨large, by linarith⟩
        · rintro (order | ⟨large, -⟩) <;> linarith
      · -- The others stand for the multiple itself, which is more than 51 amperes.
        have large : (105 / 2 : ℚ) ≤ told := by
          have whole : (21 : ℤ) ≤ ⌊(limit : ℚ) / (5 / 2)⌋ :=
            Int.le_floor.mpr (by push_cast; linarith)
          have whole : (21 : ℚ) ≤ ((limit : ℚ) / (5 / 2)).floor := by exact_mod_cast whole
          linarith
        rw [← value]
        constructor
        · exact fun below => .inr ⟨by linarith, below⟩
        · rintro (order | ⟨-, below⟩)
          · exact codes.told_le.trans order
          · exact below
  · -- A limit that no duty can tell makes the duty zero, which is none.
    rw [dutyCyclePerMil_untold inside]
    refine iff_of_false (fun tells => ?_) fun covers => inside ⟨covers.1, covers.2.1⟩
    have none := tells.1
    norm_num at none

end Told

/-- What is known of a limit that was noted: the pulses without a new duty go by it. -/
structure Noted.Holds (s : Noted) : Prop where
  safe : Safe s.evse
  pulses : s.evse.currentState = .stateA2 ∨ s.evse.currentState = .stateB2 →
    s.evse.currentPwm = dutyCyclePerMil s.limit
  -- A limit is configured in whole amperes.
  now : ∃ n : ℕ, s.evse.maxCurrent = n
  noted : ∃ n : ℕ, s.limit = n

section Steps

variable {cfg : Config} {s : Noted} {op : Op}

/-- The iterations leave the configured limit alone. -/
theorem apply_loop_maxCurrent {i : Inputs} {s : Evse} :
    (apply cfg s (.loop i)).maxCurrent = s.maxCurrent := by
  -- Neither the edges nor the polls nor the meter touch it.
  have kept := @dispatch_rule cfg i (readPilot i s.fresh) (fun t => t.maxCurrent = s.maxCurrent)
    (fun _ _ same => by simpa using same) (fun _ same => by simpa using same)
    (fun _ same => by simpa using same) (by simp) (by simp [Evse.fresh])
  simpa [apply, loopEvse] using kept

/-- The duty of the limit is sound exactly if a duty can tell that limit. -/
theorem tells_iff_inLimits {s : Evse} :
    Tells (dutyCyclePerMil s.maxCurrent / 10) s.maxCurrent ↔ s.InLimits := by
  -- A limit that no duty can tell makes the duty zero, which is none.
  constructor
  · intro tells
    by_contra untold
    have none := tells.1
    rw [dutyCyclePerMil_untold untold] at none
    norm_num at none
  · intro limits
    exact tells_limit limits.1 limits.2

/-- Pulses are only left as they were where they are not computed anew. -/
theorem KeepsDuty.from_pulsed {old n : J1772State} (keeps : KeepsDuty old n) (pulsed : n.Pulsed) :
    old = .stateA2 ∨ old = .stateB2 := by
  have before := keeps.2.1 pulsed
  have idle := keeps.2.2.2.2.2.1
  cases old <;> simp_all [J1772State.Pulsed, J1772State.Charging]

/-- Every operation keeps what is known of the limit that was noted. -/
theorem Noted.Holds.apply (holds : s.Holds) : (s.apply cfg op).Holds := by
  obtain ⟨safe, pulses, ⟨n, now⟩, noted⟩ := holds
  have safe : Safe (J1772.apply cfg s.evse op) := apply_safe safe
  cases op with
  | stopCharging stop => exact ⟨safe, pulses, ⟨n, now⟩, noted⟩
  | setMaxCurrent maxCurrent =>
    refine ⟨safe, fun at_ => ?_, ⟨maxCurrent.toNat, ?_⟩, noted⟩
    · simp only [Noted.apply, J1772.apply, setMaxCurrent_eq] at at_ ⊢
      exact pulses at_
    · simp [Noted.apply, J1772.apply, setMaxCurrent_eq]
  | loop i =>
    refine ⟨safe, fun at_ => ?_, ⟨n, apply_loop_maxCurrent.trans now⟩, ?_⟩
    · -- Pulses are kept from one of the two states to the other, and else computed.
      have offers : Offer s.evse (J1772.apply cfg s.evse (.loop i)).currentState
          (J1772.apply cfg s.evse (.loop i)).currentPwm := apply_loop_offers
      simp only [Noted.apply] at at_ ⊢
      generalize (J1772.apply cfg s.evse (.loop i)).currentState = n at offers at_
      generalize (J1772.apply cfg s.evse (.loop i)).currentPwm = pwm at offers ⊢
      cases offers with
      | raised steady => rcases at_ with rfl | rfl <;> exact steady.elim
      | faulted _ still => rcases at_ with rfl | rfl <;> simp at still
      | kept keeps =>
        have before : s.evse.currentState = .stateA2 ∨ s.evse.currentState = .stateB2 :=
          keeps.from_pulsed (by rcases at_ with rfl | rfl <;> trivial)
        rw [if_pos before]
        exact pulses before
      | computed _ began _ =>
        have other : ¬ (s.evse.currentState = .stateA2 ∨ s.evse.currentState = .stateB2) := by
          rcases began with began | began | began | began | began <;> simp [began]
        rw [if_neg other]
    · simp only [Noted.apply]
      split_ifs
      · exact noted
      · exact ⟨n, now⟩

/-- An operation advertises soundly exactly if the limits it goes by allow that. -/
theorem advertises_iff (holds : s.Holds) : Advertises cfg s.evse op ↔ OffersLimit cfg s op := by
  cases op with
  | stopCharging stop => exact Iff.rfl
  | setMaxCurrent maxCurrent => exact Iff.rfl
  | loop i =>
    refine imp_congr_ctx (charges_iff holds.safe) fun charges => ?_
    have charging := ((charges_iff holds.safe).mpr charges).1
    have offers : Offer s.evse (apply cfg s.evse (.loop i)).currentState
        (apply cfg s.evse (.loop i)).currentPwm := apply_loop_offers
    -- A charged vehicle is told by pulses, which are computed or kept.
    generalize (apply cfg s.evse (.loop i)).currentState = n at offers charging
    generalize (apply cfg s.evse (.loop i)).currentPwm = pwm at offers ⊢
    cases offers with
    | raised steady => rcases charging with rfl | rfl <;> exact steady.elim
    | faulted _ still => rcases charging with rfl | rfl <;> simp at still
    | kept keeps =>
      -- Only state B2 is left for a charging state with the duty it had.
      have at_ := keeps.2.2.2.2.2.2 charging
      obtain ⟨now, current⟩ := holds.now
      obtain ⟨limit, noted⟩ := holds.noted
      rw [if_pos at_, holds.pulses (.inr at_), current, noted]
      exact tells_iff_covers
    | computed _ at_ _ =>
      -- State B2 computes no duty, so this is about the limit alone.
      have other : s.evse.currentState ≠ .stateB2 := by
        intro here
        simp [here, J1772State.Charging] at at_
      rw [if_neg other]
      exact tells_iff_inLimits

/-- After initialization no pulses are offered yet. -/
theorem Initial.holds {start : Evse} (initial : Initial start) :
    (⟨start, start.maxCurrent⟩ : Noted).Holds := by
  obtain ⟨relay, idle, -, -, letter, -⟩ := initial.fields
  obtain ⟨n, whole⟩ : ∃ n : ℕ, start.maxCurrent = n := by
    obtain ⟨maxCurrent, rfl⟩ := initial
    simp only [init, setMaxCurrent_eq, boot]
    -- The default current is a whole number as well.
    split
    · exact ⟨25, rfl⟩
    · exact ⟨maxCurrent.toNat, rfl⟩
  exact ⟨.of_off relay idle, by simp [letter], ⟨n, whole⟩, ⟨n, whole⟩⟩

/--
Every iteration that ends with the vehicle charged advertises soundly, exactly in the runs in
which the limit is one that a duty can tell, and not lowered behind a duty that stands.
-/
theorem advertised_limit_iff (cfg : Config) (start : Evse) (initial : Initial start)
    (ops : List Op) : Meets (Advertises cfg) (step cfg) start ops ↔
      Meets (OffersLimit cfg) (notedStep cfg) ⟨start, start.maxCurrent⟩ ops := by
  have keeps : ∀ {s op t}, s.Holds → notedStep cfg s op = some t → t.Holds := by
    intro s op t holds moved
    obtain rfl := Option.some.inj moved
    exact holds.apply
  -- The run with the limits noted is the run of the charging task.
  have simulates : ∀ u op, step cfg (Noted.evse u) op = (notedStep cfg u op).map Noted.evse := by
    intro u op
    cases op <;> rfl
  have mapped : Meets (Advertises cfg) (step cfg) start ops ↔
      Meets (fun u op => Advertises cfg u.evse op) (notedStep cfg) ⟨start, start.maxCurrent⟩ ops :=
    meets_map (u := ⟨start, start.maxCurrent⟩) Noted.evse simulates
  exact mapped.trans (meets_congr keeps (fun holds => advertises_iff holds) initial.holds)

/-- The limit of 32 amperes holds from the start. -/
theorem advertised_limit_iff_charging :
    Meets (Advertises ⟨true, false⟩) (step ⟨true, false⟩) (init (setMaxCurrent 32 boot))
      chargingRun :=
  (advertised_limit_iff ⟨true, false⟩ _ ⟨32, rfl⟩ chargingRun).mpr (by decide +kernel)

/-- The limit is lowered to 6 amperes between the offer and the start of the charging. -/
def loweredLate : List Op :=
  [.loop (pilotOnly .stateA), .loop (pilotOnly .stateB),
    .loop { pilotOnly .stateB with authResponse := some true }, .setMaxCurrent 6,
    .loop (pilotOnly .stateC)]

/-- The vehicle is charged, and told more than 31 amperes. -/
theorem advertised_above_limit :
    ¬ Meets (Advertises ⟨true, false⟩) (step ⟨true, false⟩) (init (setMaxCurrent 32 boot))
      loweredLate ∧
    (applyAll ⟨true, false⟩ (init (setMaxCurrent 32 boot)) loweredLate).currentState = .stateC2 ∧
    (applyAll ⟨true, false⟩ (init (setMaxCurrent 32 boot)) loweredLate).relayOpen = false ∧
    getAmpsFromDutyCycle
      ((applyAll ⟨true, false⟩ (init (setMaxCurrent 32 boot)) loweredLate).currentPwm / 10) 0 =
      (.success, 159 / 5) := by
  decide +kernel

end Steps

end EasyEvse.J1772
