import EasyEvse.J1772.Diagram

/-! The contactor is closed only where the pilot asks for power, and a fault opens it. -/

namespace EasyEvse.J1772

variable {cfg : Config} {i : Inputs} {s : Evse} {newState : J1772State}

/-- The contactor, the charging flag and the state letter agree. -/
structure Safe (s : Evse) : Prop where
  -- The contactor is closed only where a vehicle may be charged.
  closed : s.relayOpen = false →
    s.currentState = .stateB2 ∨ s.currentState = .stateC2 ∨ s.currentState = .stateD2
  -- The flag is set only together with the contactor.
  charging : s.isCharging = true →
    s.relayOpen = false ∧ (s.currentState = .stateC2 ∨ s.currentState = .stateD2)
  -- Back in state B2 it stays closed only for almost no current.
  smallCurrent : s.relayOpen = false → s.currentState = .stateB2 →
    s.measuredCurrent < minCurrentDrawBeforeDisconnectSeq7

/-- With the power off in both senses, every state letter agrees. -/
theorem Safe.of_off (off : s.relayOpen = true) (idle : s.isCharging = false) : Safe s := by
  constructor <;> simp [off, idle]

/-- Outside the three states with a pulsed pilot and a vehicle, the contactor is open. -/
theorem Safe.off (safe : Safe s) (notB2 : s.currentState ≠ .stateB2)
    (notC2 : s.currentState ≠ .stateC2) (notD2 : s.currentState ≠ .stateD2) :
    s.relayOpen = true := by
  -- A closed contactor would put the machine in one of the three states.
  by_contra on
  rcases safe.closed (by simpa using on) with at_ | at_ | at_
  · exact notB2 at_
  · exact notC2 at_
  · exact notD2 at_

/-- Outside the two charging states nothing counts as charging. -/
theorem Safe.idle (safe : Safe s) (notC2 : s.currentState ≠ .stateC2)
    (notD2 : s.currentState ≠ .stateD2) : s.isCharging = false := by
  -- A machine that charges is in one of the two states.
  by_contra charges
  rcases (safe.charging (by simpa using charges)).2 with at_ | at_
  · exact notC2 at_
  · exact notD2 at_

/-- Waiting for power keeps the agreement, since the contactor opens on the way there. -/
theorem setState_waiting_safe (target : newState = .stateC ∨ newState = .stateD) (safe : Safe s) :
    Safe (setState cfg newState s) := by
  by_cases at_ : s.currentState = .stateC ∨ s.currentState = .stateD
  · -- Between the two waiting states nothing is switched, and nothing was on.
    obtain ⟨relay, charging, -⟩ := setState_waiting cfg target at_
    refine .of_off (relay.trans (safe.off ?_ ?_ ?_)) (charging.trans (safe.idle ?_ ?_))
    all_goals rcases at_ with at_ | at_ <;> simp [at_]
  · obtain ⟨off, idle, -⟩ := setState_suspend cfg target at_
    exact .of_off off idle

/-- Charging keeps the agreement, since the flag is set together with the contactor. -/
theorem setState_charging_safe (target : newState = .stateC2 ∨ newState = .stateD2)
    (other : s.currentState ≠ newState) (safe : Safe s) : Safe (setState cfg newState s) := by
  obtain ⟨relay, charging, -⟩ := setState_charging cfg target other
  have at_ : (setState cfg newState s).currentState = .stateC2 ∨
      (setState cfg newState s).currentState = .stateD2 := by simpa using target
  refine ⟨fun _ => .inr at_, fun charges => ⟨?_, at_⟩, fun _ inB2 => ?_⟩
  · -- Without permission both were on before.
    rw [charging] at charges
    rw [relay]
    split
    · rfl
    · rename_i refused
      exact (safe.charging (by simpa [refused] using charges)).1
  · rcases target with rfl | rfl <;> simp at inB2

/-- A return to state B2 keeps the agreement, since a real current opens the contactor. -/
theorem setState_stateB2_safe (other : s.currentState ≠ .stateB2) (safe : Safe s) :
    Safe (setState cfg .stateB2 s) := by
  obtain ⟨relay, idle, -, -, current, -⟩ := setState_stateB2 cfg other
  refine ⟨by simp, by simp [idle], fun on _ => ?_⟩
  rw [relay] at on
  split at on
  · simp at on
  · -- The contactor stayed closed, so the machine was charging with almost no current.
    rename_i kept
    rw [current]
    rcases safe.closed on with at_ | at_ | at_
    · exact absurd at_ other
    · simpa [OpensOnReturn, at_] using kept
    · simpa [OpensOnReturn, at_] using kept

/-- Outside the three states the power is off in both senses. -/
theorem Safe.powerless (safe : Safe s) (notB2 : s.currentState ≠ .stateB2)
    (notC2 : s.currentState ≠ .stateC2) (notD2 : s.currentState ≠ .stateD2) :
    s.relayOpen = true ∧ s.isCharging = false :=
  ⟨safe.off notB2 notC2 notD2, safe.idle notC2 notD2⟩

/-- Every change to a real state keeps the agreement, from wherever it is made. -/
theorem setState_safe (real : newState ≠ .lastState) (safe : Safe s) :
    Safe (setState cfg newState s) := by
  -- Every state but the three is entered with the power off.
  by_cases same : s.currentState = newState
  · rw [setState_self cfg same]; exact safe
  cases newState with
  | stateA =>
    obtain ⟨off, idle, -⟩ := setState_stateA cfg same
    exact .of_off off idle
  | stateA2 =>
    obtain ⟨off, idle, -⟩ := setState_stateA2 cfg same
    exact .of_off off idle
  | stateB =>
    by_cases unplugged : s.currentState = .stateA ∨ s.currentState = .stateA2
    · obtain ⟨off, idle, -⟩ := setState_stateB_connected cfg unplugged
      exact .of_off off idle
    · obtain ⟨off, idle, -⟩ := setState_stateB cfg same unplugged
      exact .of_off off idle
  | stateB2 => exact setState_stateB2_safe same safe
  | stateC | stateD => exact setState_waiting_safe (by simp) safe
  | stateC2 | stateD2 => exact setState_charging_safe (by simp) same safe
  | stateE =>
    obtain ⟨off, idle, -⟩ := setState_error cfg (.inl rfl) same
    exact .of_off off idle
  | stateF =>
    obtain ⟨off, idle, -⟩ := setState_error cfg (.inr rfl) same
    exact .of_off off idle
  | lastState => exact absurd rfl real

/-- The target of an edge is a real state. -/
theorem Edge.real (edge : Edge s newState) : newState ≠ .lastState := by
  cases edge <;> simp

/-- The agreement is about four fields only. -/
theorem Safe.congr {t : Evse} (safe : Safe s) (state : t.currentState = s.currentState)
    (relay : t.relayOpen = s.relayOpen) (charging : t.isCharging = s.isCharging)
    (current : t.measuredCurrent = s.measuredCurrent) : Safe t := by
  -- Each of the three facts is rewritten on its own.
  constructor
  · rw [relay, state]; exact safe.closed
  · rw [charging, relay, state]; exact safe.charging
  · rw [relay, state, current]; exact safe.smallCurrent

/-- The current is only measured in the charging states, where its size does not matter. -/
theorem Safe.meterInterval (safe : Safe s)
    (at_ : s.currentState = .stateC2 ∨ s.currentState = .stateD2) :
    Safe (meterInterval cfg i s) := by
  refine ⟨by simpa using safe.closed, by simpa using safe.charging, fun _ inB2 => ?_⟩
  rcases at_ with at_ | at_ <;> simp [at_] at inB2

/-- One iteration keeps the agreement. -/
theorem loopEvse_safe (safe : Safe s) : Safe (loopEvse cfg i s) := by
  -- The agreement is kept by each part of the iteration.
  refine loopEvse_rule (fun safe => ?_) (fun _ edge safe => setState_safe edge.real safe)
    (fun _ safe => ?_) (fun at_ safe => safe.meterInterval at_) (fun safe => ?_) safe
  · exact safe.congr (by simp) (by simp) (by simp) (by simp)
  · exact safe.congr (by simp) (by simp) (by simp) (by simp)
  · exact safe.congr (by simp) (by simp) (by simp) (by simp)

/-- Every operation on the charging task keeps the agreement. -/
theorem apply_safe {op : Op} (safe : Safe s) : Safe (apply cfg s op) := by
  -- A fresh list of calls and the two other operations touch none of the four fields.
  have fresh : Safe s.fresh := ⟨safe.closed, safe.charging, safe.smallCurrent⟩
  cases op with
  | loop i => exact loopEvse_safe fresh
  | stopCharging stop => exact ⟨fresh.closed, fresh.charging, fresh.smallCurrent⟩
  | setMaxCurrent maxCurrent =>
    simp only [apply, setMaxCurrent_eq]
    exact ⟨fresh.closed, fresh.charging, fresh.smallCurrent⟩

/-- The contactor, the charging flag and the state letter agree in every reachable state. -/
theorem Reachable.safe (reached : Reachable cfg s) : Safe s := by
  -- Initialization finds the contactor open, and every operation keeps the agreement.
  refine Transition.Reachable.invariant reached
    (fun initial => .of_off initial.fields.1 initial.fields.2.1) (fun safe moved => ?_)
  obtain rfl := Option.some.inj moved
  exact apply_safe safe

/-- An iteration that reads A ends unplugged. -/
theorem apply_reads_A (cfg : Config) (s : Evse) (reads : i.controlPilot = .stateA) :
    (apply cfg s (.loop i)).currentState = .stateA ∨
      (apply cfg s (.loop i)).currentState = .stateA2 := by
  -- Wherever the machine is, the reading A leads to A or to A2.
  cases at_ : s.currentState with
  | stateA2 =>
    -- A pilot already without pulses keeps the machine in A2.
    simp only [apply, loopEvse, dispatch, readPilot_frame, fresh_frame, at_, handleStateA2, reads,
      if_true]
    split_ifs <;> simp [at_]
  | stateC2 | stateD2 =>
    simp [apply, loopEvse, dispatch, at_, handleStateC2, handleStateD2, reads]
  | _ =>
    simp [apply, loopEvse, dispatch, at_, handleStateA, handleStateB, handleStateB2,
      handleStateC, handleStateD, handleStateEF, handleLastState, reads]

/-- An iteration that reads F ends in the fault state, or unplugged on start-up. -/
theorem apply_reads_F (s : Evse) (reads : i.controlPilot = .stateF) :
    (apply cfg s (.loop i)).currentState =
      if s.currentState = .lastState then .stateA else .stateF := by
  -- Every case of the switch has a branch for F, but for the start-up.
  cases at_ : s.currentState <;>
    simp [apply, loopEvse, dispatch, at_, handleStateA, handleStateA2, handleStateB,
      handleStateB2, handleStateC, handleStateD, handleStateC2, handleStateD2, handleStateEF,
      handleLastState, reads]

/--
After every iteration, wherever the run before it led, the contactor is where it should be.

It is closed only in B2, C2 and D2, it is closed whenever something counts as charging, a vehicle
that went back to B2 keeps it closed only with a small current, and it is open after the readings
A and F.
-/
theorem contactor_safety (reached : Reachable cfg s) (i : Inputs) :
    ((apply cfg s (.loop i)).relayOpen = false →
      (apply cfg s (.loop i)).currentState = .stateB2 ∨
      (apply cfg s (.loop i)).currentState = .stateC2 ∨
      (apply cfg s (.loop i)).currentState = .stateD2) ∧
    ((apply cfg s (.loop i)).isCharging = true →
      (apply cfg s (.loop i)).relayOpen = false ∧
      ((apply cfg s (.loop i)).currentState = .stateC2 ∨
        (apply cfg s (.loop i)).currentState = .stateD2)) ∧
    ((apply cfg s (.loop i)).relayOpen = false →
      (apply cfg s (.loop i)).currentState = .stateB2 →
      (apply cfg s (.loop i)).measuredCurrent < minCurrentDrawBeforeDisconnectSeq7) ∧
    (i.controlPilot = .stateA ∨ i.controlPilot = .stateF →
      (apply cfg s (.loop i)).relayOpen = true ∧ (apply cfg s (.loop i)).isCharging = false) := by
  -- The last part follows from the state letter that the two readings lead to.
  have safe : Safe (apply cfg s (.loop i)) := apply_safe reached.safe
  refine ⟨safe.closed, safe.charging, safe.smallCurrent, ?_⟩
  intro reads
  apply safe.powerless
  all_goals
    rcases reads with reads | reads
    · rcases apply_reads_A cfg s reads with at_ | at_ <;> rw [at_] <;> simp
    · rw [apply_reads_F s reads]; split <;> simp

/-- The agreement at the moment charging starts, and the iteration that leaves it. -/
theorem contactor_safety_charging :
    charging.relayOpen = false ∧
    ((apply ⟨true, false⟩ charging (.loop (pilotOnly .stateF))).relayOpen = true ∧
      (apply ⟨true, false⟩ charging (.loop (pilotOnly .stateF))).isCharging = false) :=
  ⟨by decide +kernel,
    (contactor_safety (reachable_applyAll ⟨true, false⟩ 32 chargingRun) (pilotOnly .stateF)).2.2.2
      (.inr rfl)⟩

/-- The power is off and the machine is in an error state. -/
def FaultHeld (s : Evse) : Prop :=
  s.relayOpen = true ∧ s.isCharging = false ∧
    (s.currentState = .stateE ∨ s.currentState = .stateF)

instance : Decidable (FaultHeld s) := inferInstanceAs (Decidable (_ ∧ _ ∧ _))

/-- The states of normal operation: every one but the error states and the start-up. -/
def Operating (s : Evse) : Prop :=
  s.currentState ≠ .stateE ∧ s.currentState ≠ .stateF ∧ s.currentState ≠ .lastState

/-- Operations none of which is an iteration that reads A. -/
def NoUnplug (ops : List Op) : Prop := ∀ i, Op.loop i ∈ ops → i.controlPilot ≠ .stateA

/-- Without an A reading an error state is not left. -/
theorem apply_error_stays (cfg : Config) {op : Op}
    (at_ : s.currentState = .stateE ∨ s.currentState = .stateF)
    (plugged : NoUnplug [op]) :
    (apply cfg s op).currentState = .stateE ∨ (apply cfg s op).currentState = .stateF := by
  cases op with
  | loop i =>
    have reads : i.controlPilot ≠ .stateA := plugged i (by simp)
    -- Only the reading F does anything here, and it leads to F.
    by_cases broken : i.controlPilot = .stateF <;> rcases at_ with at_ | at_ <;>
      simp [apply, loopEvse, dispatch, at_, handleStateEF, reads, broken]
  | stopCharging stop => exact at_
  | setMaxCurrent maxCurrent => simpa [apply, setMaxCurrent_eq] using at_

/-- A held fault stays held until an iteration reads A. -/
theorem applyAll_faultHeld {ops : List Op} (safe : Safe s) (held : FaultHeld s)
    (plugged : NoUnplug ops) : FaultHeld (applyAll cfg s ops) := by
  -- The state letter is held, and the agreement keeps the power off with it.
  induction ops generalizing s with
  | nil => exact held
  | cons op ops ih =>
    have here : NoUnplug [op] := fun i member => plugged i (by simp_all)
    have stays := apply_error_stays cfg held.2.2 here
    have safe : Safe (apply cfg s op) := apply_safe safe
    obtain ⟨off, idle⟩ := safe.powerless (by rcases stays with at_ | at_ <;> simp [at_])
      (by rcases stays with at_ | at_ <;> simp [at_])
      (by rcases stays with at_ | at_ <;> simp [at_])
    exact ih safe ⟨off, idle, stays⟩ fun i member => plugged i (by simp [member])

/-- A reading of E changes the state letter nowhere but on start-up. -/
theorem apply_reads_E (real : s.currentState ≠ .lastState) (reads : i.controlPilot = .stateE) :
    (apply cfg s (.loop i)).currentState = s.currentState := by
  -- No case of the switch has a branch for E.
  cases at_ : s.currentState with
  | lastState => exact absurd at_ real
  | _ =>
    simp [apply, loopEvse, dispatch, at_, handleStateA, handleStateA2, handleStateB,
      handleStateB2, handleStateC, handleStateD, handleStateC2, handleStateD2, handleStateEF, reads]

/--
A fault reading removes the power for good if and only if the reading is F.

The loop has no branch for E, so the machine stays in whatever state it was.
-/
theorem fault_removes_power_iff (reached : Reachable cfg s) (operating : Operating s)
    (fault : i.controlPilot = .stateE ∨ i.controlPilot = .stateF) :
    (∀ ops, NoUnplug ops → FaultHeld (applyAll cfg (apply cfg s (.loop i)) ops)) ↔
      i.controlPilot = .stateF := by
  obtain ⟨notE, notF, real⟩ := operating
  constructor
  · -- Already the iteration itself tells the two readings apart.
    intro always
    by_contra other
    have reads : i.controlPilot = .stateE := fault.resolve_right other
    obtain ⟨-, -, at_⟩ := always [] (by simp [NoUnplug])
    simp only [applyAll, List.foldl_nil, apply_reads_E real reads] at at_
    exact at_.elim notE notF
  · intro reads ops plugged
    have safe : Safe (apply cfg s (.loop i)) := apply_safe reached.safe
    have at_ : (apply cfg s (.loop i)).currentState = .stateF := by
      simp [apply_reads_F s reads, real]
    obtain ⟨off, idle⟩ := safe.powerless (by simp [at_]) (by simp [at_]) (by simp [at_])
    exact applyAll_faultHeld safe ⟨off, idle, .inr at_⟩ plugged

/-- The fault F met while charging is held when the pilot comes back. -/
theorem fault_removes_power_iff_charging :
    FaultHeld (applyAll ⟨true, false⟩
      (apply ⟨true, false⟩ charging (.loop (pilotOnly .stateF))) [.loop (pilotOnly .stateC)]) :=
  (fault_removes_power_iff (reachable_applyAll ⟨true, false⟩ 32 chargingRun)
    (by unfold Operating; decide +kernel) (.inr rfl)).mpr rfl [.loop (pilotOnly .stateC)]
    (by simp [NoUnplug, pilotOnly])

/-- A shorted pilot read as E while charging leaves the contactor closed. -/
theorem fault_E_keeps_power :
    Reachable ⟨true, false⟩ charging ∧ charging.currentState = .stateC2 ∧
      (apply ⟨true, false⟩ charging (.loop (pilotOnly .stateE))).relayOpen = false ∧
      ¬ FaultHeld (apply ⟨true, false⟩ charging (.loop (pilotOnly .stateE))) :=
  ⟨reachable_applyAll ⟨true, false⟩ 32 chargingRun, by decide +kernel, by decide +kernel,
    by decide +kernel⟩

end EasyEvse.J1772
