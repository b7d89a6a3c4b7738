import EasyEvse.J1772.Pwm
import EasyEvse.J1772.Safety

/-! The meter over a stay in the charging states: which slices of time it counts, and which not. -/

namespace EasyEvse.J1772

open Transition

variable {cfg : Config} {i : Inputs} {s : Evse}

/-- A D reading takes state C2 to D2, and thereby closes the contactor anew. -/
def Restarts (cfg : Config) (i : Inputs) (s : Evse) : Prop :=
  s.currentState = .stateC2 ∧ i.controlPilot = .stateD ∧ Permits cfg .stateD2 s

/-- A C reading right after a D reading takes state D2 back to C2. -/
def TurnsBack (i : Inputs) (s : Evse) : Prop :=
  s.currentState = .stateD2 ∧ i.controlPilot = .stateC ∧ s.lastCpState = .stateD

instance : Decidable (Restarts cfg i s) := inferInstanceAs (Decidable (_ ∧ _ ∧ _))

instance : Decidable (TurnsBack i s) := inferInstanceAs (Decidable (_ ∧ _ ∧ _))

/-- The time an iteration measures from, when the clock is not running the iteration's own. -/
def clock (cfg : Config) (i : Inputs) (s : Evse) : UInt32 :=
  if s.lastCalcTime = 0 ∨ Restarts cfg i s then i.msSinceBoot else s.lastCalcTime

/-- The meter is read: the interval is over, or the vehicle stops asking for power. -/
def Measures (cfg : Config) (i : Inputs) (s : Evse) : Prop :=
  i.msSinceBoot - clock cfg i s ≥ bcMeasureIntervalMs ∨
    i.controlPilot = .stateB ∨ i.controlPilot = .stateA

instance : Decidable (Measures cfg i s) := inferInstanceAs (Decidable (_ ∨ _ ∨ _))

/-- Something takes the machine out of the charging states: a request, or too large a current. -/
def HeldBack (cfg : Config) (i : Inputs) (s : Evse) : Prop :=
  s.readyToCharge = false ∨
    -- Without ventilation the change to state D2 is a request to stop.
    (s.currentState = .stateC2 ∧ i.controlPilot = .stateD ∧ cfg.ventilationState = false) ∨
    (readPilot i s).overCurrent = true ∨
    (Measures cfg i s ∧ cfg.enableOvercurrentTest = true ∧ i.current > s.maxCurrent)

instance : Decidable (HeldBack cfg i s) := inferInstanceAs (Decidable (_ ∨ _ ∧ _ ∧ _ ∨ _ ∨ _))

/-- The iteration ends the charging, by a fault, or because the machine is held back. -/
def Suspends (cfg : Config) (i : Inputs) (s : Evse) : Prop :=
  i.controlPilot = .stateF ∨
    (i.controlPilot = .stateC ∨ i.controlPilot = .stateD) ∧ HeldBack cfg i s

instance : Decidable (Suspends cfg i s) := inferInstanceAs (Decidable (_ ∨ _ ∧ _))

/-- The energy of one reading, for the time since the reading before it. -/
def energyOf (maxVoltage : ℚ) (since : UInt32) (i : Inputs) : ℚ :=
  calculateEnergy i.current (min i.voltage maxVoltage) (i.msSinceBoot - since).toNat

section Laws

/-- Only an unplugged state forgets the meter, and only closing the contactor stops its clock. -/
theorem setState_meter (cfg : Config) {n : J1772State} (plugged : n ≠ .stateA ∧ n ≠ .stateA2) :
    (setState cfg n s).elapseTime = s.elapseTime ∧
    (setState cfg n s).meterEnergyDelivered = s.meterEnergyDelivered ∧
    (setState cfg n s).maxVoltage = s.maxVoltage ∧
    (setState cfg n s).overCurrent = s.overCurrent ∧
    (setState cfg n s).lastCalcTime =
      if n.Charging ∧ s.currentState ≠ n ∧ Permits cfg n s then 0 else s.lastCalcTime := by
  -- Each state is entered by its own steps, and only the charging ones look at the permission.
  by_cases same : n = s.currentState
  · simp [setState, same]
  · have other : s.currentState ≠ n := Ne.symm same
    cases n
    case stateA => exact absurd rfl plugged.1
    case stateA2 => exact absurd rfl plugged.2
    case stateC2 | stateD2 =>
      -- The permission is ventilation and readiness, so their four cases are all there is.
      cases ventilated : cfg.ventilationState <;> cases ready : s.readyToCharge <;>
        simp [setState, same, other, enterCharging, enablePower, stopCharging,
          Evse.setContactorState, Evse.setEvent, Evse.record, Permits, ventilated, ready,
          J1772State.Charging]
    all_goals
      simp only [setState, same, if_false, enterVehicleDetected, noteConnected, enterReady,
        disablePower, stopCharging, Evse.setEvent, Evse.record, Evse.setContactorState,
        J1772State.Charging]
      (repeat' split) <;> simp

/-- A measurement counts its lapse of time, with the energy of the readings it takes. -/
theorem measure_meter (cfg : Config) (since : UInt32) :
    (measure cfg i (i.msSinceBoot - since) s).elapseTime =
      s.elapseTime + (i.msSinceBoot - since) ∧
    (measure cfg i (i.msSinceBoot - since) s).meterEnergyDelivered =
      s.meterEnergyDelivered + energyOf s.maxVoltage since i ∧
    (measure cfg i (i.msSinceBoot - since) s).lastCalcTime = i.msSinceBoot ∧
    (measure cfg i (i.msSinceBoot - since) s).overCurrent =
      (if cfg.enableOvercurrentTest = true ∧ i.current > s.maxCurrent then true
        else s.overCurrent) ∧
    (measure cfg i (i.msSinceBoot - since) s).maxVoltage = s.maxVoltage := by
  unfold measure
  dsimp only
  -- The test for a large current only decides what is raised beside the counts.
  split_ifs <;> simp [energyOf]

/-- Metering counts the time since its clock was started or read, if the meter is read at all. -/
theorem meterInterval_meter (cfg : Config) {since : UInt32} {due : Prop} [Decidable due]
    (clock : (if s.lastCalcTime = 0 then i.msSinceBoot else s.lastCalcTime) = since)
    (reads : due ↔ i.msSinceBoot - since ≥ bcMeasureIntervalMs ∨
      s.cpState = .stateB ∨ s.cpState = .stateA) :
    (meterInterval cfg i s).elapseTime =
      (if due then s.elapseTime + (i.msSinceBoot - since) else s.elapseTime) ∧
    (meterInterval cfg i s).meterEnergyDelivered =
      (if due then s.meterEnergyDelivered + energyOf s.maxVoltage since i
        else s.meterEnergyDelivered) ∧
    (meterInterval cfg i s).lastCalcTime = (if due then i.msSinceBoot else since) ∧
    (meterInterval cfg i s).overCurrent = (if due ∧ cfg.enableOvercurrentTest = true ∧
      i.current > s.maxCurrent then true else s.overCurrent) ∧
    (meterInterval cfg i s).maxVoltage = s.maxVoltage := by
  -- The clock is started first, or it is running already; name the machine after that.
  obtain ⟨u, named⟩ : ∃ u, u = if s.lastCalcTime = 0 then
      { s with lastCalcTime := i.msSinceBoot, lastDisplayTime := i.msSinceBoot }
    else s := ⟨_, rfl⟩
  have running : u.lastCalcTime = since := by
    rw [← clock, named]
    split_ifs <;> rfl
  have same : u.elapseTime = s.elapseTime ∧ u.meterEnergyDelivered = s.meterEnergyDelivered ∧
      u.overCurrent = s.overCurrent ∧ u.maxVoltage = s.maxVoltage ∧ u.maxCurrent = s.maxCurrent ∧
      u.cpState = s.cpState := by
    rw [named]
    split_ifs <;> simp
  obtain ⟨elapse, energy, held, voltage, current, pilot⟩ := same
  obtain ⟨mElapse, mEnergy, mClock, mHeld, mVoltage⟩ :=
    measure_meter cfg since (i := i) (s := u)
  -- What is measured from there is what would be measured from the machine itself.
  rw [elapse] at mElapse
  rw [energy, voltage] at mEnergy
  rw [current, held] at mHeld
  rw [voltage] at mVoltage
  unfold meterInterval
  simp only [← named, running, pilot, ← reads]
  clear named
  -- The display clock that is set at the end is none of these fields.
  split_ifs <;> simp_all

/-- A D reading takes state C2 to D2 before anything else is done. -/
def followPilot (cfg : Config) (s : Evse) : Evse :=
  if s.currentState = .stateC2 ∧ s.cpState = .stateD then setState cfg .stateD2 s else s

/-- Both charging cases are the case of state D2, once the letter has followed the pilot. -/
theorem dispatch_charging (charging : s.currentState.Charging) :
    dispatch cfg i s = handleStateD2 cfg i (followPilot cfg s) := by
  rcases charging with at_ | at_
  -- The case of state C2 falls through to that of state D2.
  · simp [dispatch, handleStateC2, followPilot, at_]
  · simp [dispatch, followPilot, at_]

/-- Something stops the charging in the charging case: a request, or too large a current. -/
def Held (s : Evse) : Prop := s.readyToCharge = false ∨ s.overCurrent = true

instance : Decidable (Held s) := inferInstanceAs (Decidable (_ ∨ _))

/-- A change between the charging letters forgets neither the meter nor what holds it back. -/
theorem setState_turned (cfg : Config) (charging : s.currentState.Charging) :
    (setState cfg .stateC2 s).elapseTime = s.elapseTime ∧
    (setState cfg .stateC2 s).meterEnergyDelivered = s.meterEnergyDelivered ∧
    (setState cfg .stateC2 s).maxVoltage = s.maxVoltage ∧
    (Held (setState cfg .stateC2 s) ↔ Held s) ∧
    (¬ Held s → if s.currentState = .stateD2 then (setState cfg .stateC2 s).lastCalcTime = 0
      else setState cfg .stateC2 s = s) := by
  rcases charging with at_ | at_
  · rw [setState_self cfg at_]
    simp [at_]
  · -- From state D2 the contactor is closed anew, which needs the station to be ready.
    have other : s.currentState ≠ .stateC2 := by simp [at_]
    obtain ⟨elapse, energy, voltage, held, stopped⟩ :=
      setState_meter cfg (s := s) (n := .stateC2) (by decide)
    obtain ⟨-, -, -, ready, -⟩ := setState_charging cfg (.inl rfl) other
    refine ⟨elapse, energy, voltage, ?_, fun free => ?_⟩
    · rw [Held, Held, ready, held]
      simp [Permits]
    · rw [if_pos at_, stopped, if_pos]
      have ready : s.readyToCharge = true := by
        cases ready : s.readyToCharge with
        | true => rfl
        | false => exact absurd (.inl ready) free
      exact ⟨.inl rfl, other, ready, by simp⟩

/-- After the metering, the charging case either leaves or may turn back, and counts nothing. -/
theorem handleStateD2_meter {u : Evse} (metered : meterInterval cfg i s = u)
    (charging : s.currentState.Charging) (plugged : s.cpState ≠ .stateA)
    (followed : s.cpState = .stateD → s.currentState = .stateD2) :
    (handleStateD2 cfg i s).1.elapseTime = u.elapseTime ∧
    (handleStateD2 cfg i s).1.meterEnergyDelivered = u.meterEnergyDelivered ∧
    (handleStateD2 cfg i s).1.maxVoltage = u.maxVoltage ∧
    ((handleStateD2 cfg i s).1.currentState.Charging ↔
      ¬ (s.cpState = .stateB ∨ s.cpState = .stateF ∨ AsksForPower s ∧ Held u)) ∧
    ((handleStateD2 cfg i s).1.currentState.Charging →
      if s.currentState = .stateD2 ∧ s.cpState = .stateC ∧ s.lastCpState = .stateD then
        (handleStateD2 cfg i s).1.lastCalcTime = 0
      else
        (handleStateD2 cfg i s).1.lastCalcTime = u.lastCalcTime ∧
        (handleStateD2 cfg i s).1.relayOpen = s.relayOpen) := by
  -- Metering changes none of the fields the branches look at, so name its result.
  have same : u.cpState = s.cpState ∧ u.currentState = s.currentState ∧
      u.lastCpState = s.lastCpState ∧ u.relayOpen = s.relayOpen := by simp [← metered]
  obtain ⟨pilot, letter, lastPilot, relay⟩ := same
  simp only [AsksForPower, ← pilot, ← letter, ← lastPilot, ← relay] at charging plugged followed ⊢
  simp only [handleStateD2, metered]
  clear pilot letter lastPilot relay metered
  cases reading : u.cpState with
  | stateA => exact absurd reading plugged
  | stateB => simp [setState_meter, J1772State.Charging]
  | stateC =>
    -- A C reading right after a D reading first brings state D2 back to C2.
    obtain ⟨v, named⟩ : ∃ v, v =
        if u.lastCpState = .stateD then setState cfg .stateC2 u else u := ⟨_, rfl⟩
    have turned : v.elapseTime = u.elapseTime ∧
        v.meterEnergyDelivered = u.meterEnergyDelivered ∧ v.maxVoltage = u.maxVoltage ∧
        v.currentState.Charging ∧ (Held v ↔ Held u) ∧
        (¬ Held u → if u.currentState = .stateD2 ∧ u.lastCpState = .stateD then v.lastCalcTime = 0
          else v.lastCalcTime = u.lastCalcTime ∧ v.relayOpen = u.relayOpen) := by
      subst named
      by_cases before : u.lastCpState = .stateD
      · obtain ⟨elapse, energy, voltage, held, free⟩ := setState_turned cfg charging
        rw [if_pos before]
        refine ⟨elapse, energy, voltage, .inl (setState_currentState cfg), held, fun runs => ?_⟩
        have turned := free runs
        by_cases letter : u.currentState = .stateD2
        · rw [if_pos letter] at turned
          rw [if_pos ⟨letter, before⟩]
          exact turned
        · rw [if_neg letter] at turned
          simp [letter, turned]
      · rw [if_neg before]
        simp [before, charging]
    obtain ⟨elapse, energy, voltage, letter, held, free⟩ := turned
    -- From there on it is only asked whether something stops the charging.
    simp only [reduceCtorEq, if_true, if_false, true_and, true_or, ← named, false_or]
    by_cases stops : Held v
    · have stopped : v.readyToCharge = false ∨ v.overCurrent = true := stops
      rw [if_pos stopped]
      rcases letter with letter | letter <;>
        simp [letter, setState_meter, J1772State.Charging, J1772State.prev, elapse, energy,
          voltage, held.mp stops]
    · have runs : ¬ (v.readyToCharge = false ∨ v.overCurrent = true) := stops
      rw [if_neg runs]
      have unheld : ¬ Held u := fun held' => stops (held.mpr held')
      exact ⟨elapse, energy, voltage, by simp [letter, unheld], fun _ => free unheld⟩
  | stateD =>
    -- The letter has followed the pilot, so nothing is changed but by a stop.
    have letter := followed reading
    by_cases held : Held u
    · have stops : u.readyToCharge = false ∨ u.overCurrent = true := held
      simp [letter, stops, held, setState_meter, J1772State.Charging, J1772State.prev]
    · have runs : ¬ (u.readyToCharge = false ∨ u.overCurrent = true) := held
      simp [letter, runs, held, J1772State.Charging]
  | stateE => simp [charging]
  | stateF => simp [setState_meter, J1772State.Charging]
  | stateUnknown => simp [charging]

/-- Following the pilot keeps the meter, and closing the contactor on the way stops its clock. -/
theorem followPilot_meter (cfg : Config) (reads : s.cpState = i.controlPilot) :
    (followPilot cfg s).elapseTime = s.elapseTime ∧
    (followPilot cfg s).meterEnergyDelivered = s.meterEnergyDelivered ∧
    (followPilot cfg s).maxVoltage = s.maxVoltage ∧
    (followPilot cfg s).overCurrent = s.overCurrent ∧
    (followPilot cfg s).lastCalcTime = (if Restarts cfg i s then 0 else s.lastCalcTime) ∧
    (followPilot cfg s).relayOpen = (if Restarts cfg i s then false else s.relayOpen) ∧
    ((followPilot cfg s).readyToCharge = false ↔ s.readyToCharge = false ∨
      s.currentState = .stateC2 ∧ i.controlPilot = .stateD ∧ cfg.ventilationState = false) := by
  unfold followPilot
  by_cases follows : s.currentState = .stateC2 ∧ s.cpState = .stateD
  · have other : s.currentState ≠ .stateD2 := by simp [follows.1]
    obtain ⟨elapse, energy, voltage, held, stopped⟩ :=
      setState_meter cfg (s := s) (n := .stateD2) (by decide)
    obtain ⟨relay, -, -, ready, -⟩ := setState_charging cfg (.inr rfl) other
    -- The clock, the contactor and the readiness depend on whether the change is permitted.
    rw [if_pos follows]
    refine ⟨elapse, energy, voltage, held, ?_, ?_, ?_⟩
    · rw [stopped]
      simp [Restarts, J1772State.Charging, follows, ← reads]
    · rw [relay]
      simp [Restarts, follows, ← reads]
    · rw [ready]
      cases ventilated : cfg.ventilationState <;> cases asked : s.readyToCharge <;>
        simp [Permits, follows, ← reads, ventilated, asked]
  · -- Where nothing is followed there is no change that could restart the clock.
    have stays : ¬ Restarts cfg i s :=
      fun restarts => follows ⟨restarts.1, by rw [reads, restarts.2.1]⟩
    rw [if_neg follows, if_neg stays, if_neg stays]
    refine ⟨rfl, rfl, rfl, rfl, rfl, rfl, .inl, fun asked => ?_⟩
    rcases asked with stopped | ⟨at_, turned, -⟩
    · exact stopped
    · exact absurd ⟨at_, by rw [reads, turned]⟩ follows

/-- Following the pilot changes no reading and no limit, and a D reading ends in state D2. -/
theorem followPilot_frame (cfg : Config) (charging : s.currentState.Charging) :
    (followPilot cfg s).cpState = s.cpState ∧
    (followPilot cfg s).lastCpState = s.lastCpState ∧
    (followPilot cfg s).maxCurrent = s.maxCurrent ∧
    (followPilot cfg s).currentState =
      (if s.cpState = .stateD then .stateD2 else s.currentState) := by
  unfold followPilot
  rcases charging with at_ | at_ <;> by_cases turned : s.cpState = .stateD <;> simp [at_, turned]

/-- The end of an iteration leaves the meter and its clock alone. -/
theorem applyPwm_meter {newPwm : ℚ} :
    (applyPwm s newPwm).elapseTime = s.elapseTime ∧
    (applyPwm s newPwm).meterEnergyDelivered = s.meterEnergyDelivered ∧
    (applyPwm s newPwm).maxVoltage = s.maxVoltage ∧
    (applyPwm s newPwm).lastCalcTime = s.lastCalcTime := by
  unfold applyPwm
  dsimp only
  split_ifs <;> simp

/-- The head of an iteration leaves the meter and its clock alone. -/
theorem readPilot_meter :
    (readPilot i s.fresh).elapseTime = s.elapseTime ∧
    (readPilot i s.fresh).meterEnergyDelivered = s.meterEnergyDelivered ∧
    (readPilot i s.fresh).maxVoltage = s.maxVoltage ∧
    (readPilot i s.fresh).lastCalcTime = s.lastCalcTime ∧
    (readPilot i s.fresh).maxCurrent = s.maxCurrent ∧
    (readPilot i s.fresh).overCurrent = (readPilot i s).overCurrent := by
  unfold readPilot Evse.fresh
  dsimp only
  split_ifs <;> simp

/-- What the metering of a charging iteration starts from. -/
theorem head_meter {f : Evse} (named : f = followPilot cfg (readPilot i s.fresh))
    (charging : s.currentState.Charging) :
    f.elapseTime = s.elapseTime ∧ f.meterEnergyDelivered = s.meterEnergyDelivered ∧
    f.maxVoltage = s.maxVoltage ∧ f.maxCurrent = s.maxCurrent ∧
    f.overCurrent = (readPilot i s).overCurrent ∧
    f.lastCalcTime = (if Restarts cfg i s then 0 else s.lastCalcTime) ∧
    f.relayOpen = (if Restarts cfg i s then false else s.relayOpen) ∧
    (f.readyToCharge = false ↔ s.readyToCharge = false ∨
      s.currentState = .stateC2 ∧ i.controlPilot = .stateD ∧ cfg.ventilationState = false) ∧
    f.cpState = i.controlPilot ∧ f.lastCpState = s.lastCpState ∧
    f.currentState = (if i.controlPilot = .stateD then .stateD2 else s.currentState) := by
  -- The pilot is read first, and then the letter follows it.
  obtain ⟨r, read⟩ : ∃ r, r = readPilot i s.fresh := ⟨_, rfl⟩
  have reads : r.cpState = i.controlPilot ∧ r.currentState = s.currentState ∧
      r.lastCpState = s.lastCpState ∧ r.readyToCharge = s.readyToCharge ∧
      r.relayOpen = s.relayOpen := by simp [read]
  obtain ⟨pilot, letter, lastPilot, ready, relay⟩ := reads
  obtain ⟨elapse, energy, voltage, started, current, held⟩ := readPilot_meter (i := i) (s := s)
  have restarts : Restarts cfg i r ↔ Restarts cfg i s := by
    simp [Restarts, Permits, letter, ready]
  have follows := followPilot_meter cfg pilot
  have frame := followPilot_frame cfg (s := r) (by rw [letter]; exact charging)
  -- Each field of the second is written in those of the first, and those in the machine's own.
  rw [← read] at named elapse energy voltage started current held
  rw [← named, elapse, energy, voltage, started, held, relay, ready, letter] at follows
  rw [← named, pilot, lastPilot, current, letter] at frame
  simp only [restarts] at follows
  obtain ⟨elapse, energy, voltage, held, started, relay, ready⟩ := follows
  obtain ⟨pilot, lastPilot, current, letter⟩ := frame
  exact ⟨elapse, energy, voltage, current, held, started, relay, ready, pilot, lastPilot, letter⟩

/-- An iteration in the charging states counts what it measures, and nothing else. -/
theorem loop_meter (cfg : Config) (charging : s.currentState.Charging)
    (plugged : i.controlPilot ≠ .stateA) :
    (apply cfg s (.loop i)).elapseTime = (if Measures cfg i s then
      s.elapseTime + (i.msSinceBoot - clock cfg i s) else s.elapseTime) ∧
    (apply cfg s (.loop i)).meterEnergyDelivered = (if Measures cfg i s then
      s.meterEnergyDelivered + energyOf s.maxVoltage (clock cfg i s) i
        else s.meterEnergyDelivered) ∧
    (apply cfg s (.loop i)).maxVoltage = s.maxVoltage ∧
    ((apply cfg s (.loop i)).currentState.Charging ↔
      ¬ (i.controlPilot = .stateB ∨ Suspends cfg i s)) ∧
    ((apply cfg s (.loop i)).currentState.Charging →
      if TurnsBack i s then (apply cfg s (.loop i)).lastCalcTime = 0
      else
        (apply cfg s (.loop i)).lastCalcTime =
          (if Measures cfg i s then i.msSinceBoot else clock cfg i s) ∧
        (apply cfg s (.loop i)).relayOpen =
          (if Restarts cfg i s then false else s.relayOpen)) := by
  -- Name the machine after following the pilot, and after the metering.
  obtain ⟨f, followed⟩ : ∃ f, f = followPilot cfg (readPilot i s.fresh) := ⟨_, rfl⟩
  obtain ⟨u, metered⟩ : ∃ u, meterInterval cfg i f = u := ⟨_, rfl⟩
  obtain ⟨elapse, energy, voltage, current, held, started, relay, ready, pilot, lastPilot,
    letter⟩ := head_meter followed charging
  have since : (if f.lastCalcTime = 0 then i.msSinceBoot else f.lastCalcTime) = clock cfg i s := by
    rw [started, clock]
    by_cases restarts : Restarts cfg i s <;> simp [restarts]
  have due : Measures cfg i s ↔ i.msSinceBoot - clock cfg i s ≥ bcMeasureIntervalMs ∨
      f.cpState = .stateB ∨ f.cpState = .stateA := by rw [pilot]; rfl
  have meter := meterInterval_meter cfg since due
  rw [metered] at meter
  obtain ⟨uElapse, uEnergy, uClock, uHeld, uVoltage⟩ := meter
  have uReady : u.readyToCharge = f.readyToCharge := by simp [← metered]
  have heldBack : Held u ↔ HeldBack cfg i s := by
    rw [Held, HeldBack, uReady, ready, uHeld, held, current]
    -- A current that is too large holds back as soon as it is measured.
    by_cases tooLarge : Measures cfg i s ∧ cfg.enableOvercurrentTest = true ∧
        i.current > s.maxCurrent
    · simp [tooLarge]
    · simp [tooLarge, or_assoc]
  have fCharging : f.currentState.Charging := by
    rw [letter]
    split_ifs
    · exact .inr rfl
    · exact charging
  -- The charging case is done with the meter as it is after the reading.
  have handled := handleStateD2_meter metered fCharging (by rw [pilot]; exact plugged)
    (by rw [pilot, letter]; intro turned; rw [if_pos turned])
  have looped : apply cfg s (.loop i) =
      applyPwm (handleStateD2 cfg i f).1 (handleStateD2 cfg i f).2 := by
    have letter : (readPilot i s.fresh).currentState.Charging := by simpa using charging
    simp only [apply, loopEvse, dispatch_charging letter, ← followed]
  have turns : (f.currentState = .stateD2 ∧ f.cpState = .stateC ∧ f.lastCpState = .stateD) ↔
      TurnsBack i s := by
    rw [letter, pilot, lastPilot, TurnsBack]
    by_cases turned : i.controlPilot = .stateC <;> simp [turned]
  have asks : AsksForPower f ↔ i.controlPilot = .stateC ∨ i.controlPilot = .stateD := by
    rw [AsksForPower, pilot]
  -- What is left is to write the conditions in the machine at the start of the iteration.
  obtain ⟨hElapse, hEnergy, hVoltage, hLetter, hClock⟩ := handled
  simp only [turns] at hClock
  rw [asks, heldBack, pilot] at hLetter
  rw [looped]
  simp only [applyPwm_meter, applyPwm_frame]
  rw [hElapse, hEnergy, hVoltage, uElapse, uEnergy, uVoltage, elapse, energy, voltage]
  rw [uClock, relay] at hClock
  exact ⟨rfl, rfl, rfl, hLetter, hClock⟩

end Laws

/-- No vehicle is plugged in, or none was detected yet. -/
def Unplugged (s : Evse) : Prop :=
  s.currentState = .stateA ∨ s.currentState = .stateA2 ∨ s.currentState = .lastState

instance : DecidablePred Unplugged := fun _ => inferInstanceAs (Decidable (_ ∨ _ ∨ _))

/-- An iteration reads neither a negative voltage nor a negative current. -/
def NonNegative (i : Inputs) : Prop := 0 ≤ i.voltage ∧ 0 ≤ i.current

instance : DecidablePred NonNegative := fun _ => inferInstanceAs (Decidable (_ ∧ _))

section Delivered

/-- Readings that are not negative deliver no negative energy. -/
theorem energyOf_nonneg {maxVoltage : ℚ} {since : UInt32} (readings : NonNegative i)
    (limit : 0 ≤ maxVoltage) : 0 ≤ energyOf maxVoltage since i := by
  have voltage : 0 ≤ min i.voltage maxVoltage := le_min readings.1 limit
  have current : 0 ≤ i.current := readings.2
  -- The energy is a product of three factors, and none of them is negative.
  unfold energyOf calculateEnergy
  positivity

/-- Entering an unplugged state forgets the energy, and no other change of state does. -/
theorem setState_delivered (cfg : Config) (n : J1772State) (s : Evse) :
    (setState cfg n s).maxVoltage = s.maxVoltage ∧
    (setState cfg n s).meterEnergyDelivered =
      (if (n = .stateA ∨ n = .stateA2) ∧ s.currentState ≠ n then 0 else
        s.meterEnergyDelivered) := by
  by_cases away : n = .stateA ∨ n = .stateA2
  · -- The data of the vehicle is reset on entering, and only then.
    by_cases same : s.currentState = n
    · simp [setState_self cfg same, same]
    · have other : n ≠ s.currentState := Ne.symm same
      rcases away with rfl | rfl <;>
        simp [setState, same, other, enterUnplugged, disablePower, stopCharging, resetVehicleData,
          Evse.setContactorState, Evse.setEvent, Evse.record]
  · obtain ⟨-, energy, voltage, -⟩ := setState_meter cfg (s := s) (not_or.mp away)
    simp [energy, voltage, away]

/-- Polling for the authorization leaves the meter alone. -/
theorem pollAuthorization_meter :
    (pollAuthorization i s).maxVoltage = s.maxVoltage ∧
    (pollAuthorization i s).meterEnergyDelivered = s.meterEnergyDelivered := by
  unfold pollAuthorization
  dsimp only [Evse.record]
  split_ifs <;> simp

/-- Without a vehicle no energy is on the meter, and the voltage limit is the initial one. -/
structure Forgets (s : Evse) : Prop where
  voltage : s.maxVoltage = 230
  energy : Unplugged s → s.meterEnergyDelivered = 0

/-- Only three fields matter for what is forgotten. -/
theorem Forgets.congr {t : Evse} (forgets : Forgets s) (voltage : t.maxVoltage = s.maxVoltage)
    (energy : t.meterEnergyDelivered = s.meterEnergyDelivered)
    (letter : t.currentState = s.currentState) : Forgets t := by
  refine ⟨by rw [voltage]; exact forgets.voltage, fun unplugged => ?_⟩
  rw [Unplugged, letter] at unplugged
  rw [energy]
  exact forgets.energy unplugged

/-- An edge that ends unplugged forgets the energy. -/
theorem Forgets.edge {n : J1772State} (forgets : Forgets s) (edge : Edge s n) :
    Forgets (setState cfg n s) := by
  obtain ⟨voltage, energy⟩ := setState_delivered cfg n s
  refine ⟨by rw [voltage]; exact forgets.voltage, fun unplugged => ?_⟩
  rw [Unplugged, setState_currentState] at unplugged
  -- No edge leads to the state before the first.
  have away : n = .stateA ∨ n = .stateA2 := by
    rcases unplugged with unplugged | unplugged | unplugged
    · exact .inl unplugged
    · exact .inr unplugged
    · exact absurd unplugged edge.real
  -- Where the state is not entered anew, the energy was forgotten before.
  by_cases same : s.currentState = n
  · rw [setState_self cfg same]
    exact forgets.energy (by rw [Unplugged, same]; tauto)
  · rw [energy, if_pos ⟨away, same⟩]

/-- Every operation keeps to what is forgotten. -/
theorem Forgets.apply {op : Op} (forgets : Forgets s) : Forgets (apply cfg s op) := by
  have fresh : Forgets s.fresh := forgets.congr rfl rfl rfl
  cases op with
  | stopCharging stop => exact fresh.congr rfl rfl rfl
  | setMaxCurrent maxCurrent =>
    rw [J1772.apply, setMaxCurrent_eq]
    exact fresh.congr rfl rfl rfl
  | loop i =>
    -- The reading, the edges, the polling, the metering and the pulses, in this order.
    refine loopEvse_rule (fun forgets => ?_) (fun _ edge forgets => forgets.edge edge)
      (fun _ forgets => ?_) (fun {s} charging forgets => ?_) (fun forgets => ?_) fresh
    · exact forgets.congr (by unfold readPilot; dsimp only; split_ifs <;> rfl)
        (by unfold readPilot; dsimp only; split_ifs <;> rfl) (by simp)
    · exact forgets.congr pollAuthorization_meter.1 pollAuthorization_meter.2 (by simp)
    · refine ⟨?_, fun unplugged => ?_⟩
      · rw [(meterInterval_meter cfg rfl Iff.rfl).2.2.2.2]
        exact forgets.voltage
      · -- The meter is only read in the charging states.
        rcases charging with charging | charging <;> simp [Unplugged, charging] at unplugged
    · exact forgets.congr applyPwm_meter.2.2.1 applyPwm_meter.2.1 (by simp)

/-- In every reachable state the energy of earlier vehicles is forgotten. -/
theorem Reachable.forgets (reached : Reachable cfg s) : Forgets s := by
  refine Transition.Reachable.invariant reached (fun initial => ?_) (fun forgets moved => ?_)
  · -- The initialization sets the voltage limit, and starts with nothing on the meter.
    obtain ⟨maxCurrent, rfl⟩ := initial
    simp only [init, setMaxCurrent_eq, boot]
    split <;> exact ⟨rfl, fun _ => rfl⟩
  · obtain rfl := Option.some.inj moved
    exact forgets.apply

/-- The reading A leads to the unplugged states only. -/
theorem Edge.on_A {n : J1772State} (edge : Edge s n) (reads : s.cpState = .stateA) :
    n = .stateA ∨ n = .stateA2 := by
  cases edge <;> simp_all [AsksForPower]

/-- After the start-up, only the reading A leads to the unplugged states. -/
theorem Edge.reads_A {n : J1772State} (edge : Edge s n) (target : n = .stateA ∨ n = .stateA2)
    (started : s.currentState ≠ .lastState) : s.cpState = .stateA := by
  cases edge <;> simp_all

/-- The machine is on its way out, or has delivered at least so much energy. -/
def KeepsEnergy (i : Inputs) (energy : ℚ) (s : Evse) : Prop :=
  s.maxVoltage = 230 ∧
    (Unplugged s ∧ i.controlPilot = .stateA ∨ ¬ Unplugged s ∧ energy ≤ s.meterEnergyDelivered)

/-- Three fields decide whether the energy is kept. -/
theorem KeepsEnergy.congr {energy : ℚ} {t : Evse} (keeps : KeepsEnergy i energy s)
    (voltage : t.maxVoltage = s.maxVoltage)
    (meter : t.meterEnergyDelivered = s.meterEnergyDelivered)
    (letter : t.currentState = s.currentState) : KeepsEnergy i energy t := by
  unfold KeepsEnergy Unplugged at *
  rw [voltage, meter, letter]
  exact keeps

/-- An edge keeps the energy, or leaves for an unplugged state with the reading for it. -/
theorem KeepsEnergy.edge {energy : ℚ} {n : J1772State} (keeps : KeepsEnergy i energy s)
    (reads : s.cpState = i.controlPilot) (edge : Edge s n) :
    KeepsEnergy i energy (setState cfg n s) := by
  obtain ⟨limit, keeps⟩ := keeps
  obtain ⟨voltage, meter⟩ := setState_delivered cfg n s
  refine ⟨by rw [voltage, limit], ?_⟩
  rw [Unplugged, setState_currentState, meter]
  rcases keeps with ⟨unplugged, away⟩ | ⟨plugged, least⟩
  · -- Without a vehicle, the reading A only leads to the unplugged states.
    rcases edge.on_A (by rw [reads, away]) with target | target
    · exact .inl ⟨.inl target, away⟩
    · exact .inl ⟨.inr (.inl target), away⟩
  · -- With a vehicle, only the reading A leads away from it.
    by_cases away : n = .stateA ∨ n = .stateA2
    · refine .inl ⟨by tauto, ?_⟩
      rw [← reads]
      exact edge.reads_A away fun at_ => plugged (.inr (.inr at_))
    · refine .inr ⟨?_, by rw [if_neg (fun both => away both.1)]; exact least⟩
      have real := edge.real
      tauto

/-- While a vehicle is plugged in, no operation takes energy off the meter or moves its limit. -/
theorem apply_delivered {op : Op} (plugged : ¬ Unplugged s) (limit : s.maxVoltage = 230)
    (readings : ∀ i, op = .loop i → NonNegative i) (stays : ¬ Unplugged (apply cfg s op)) :
    (apply cfg s op).maxVoltage = 230 ∧
      s.meterEnergyDelivered ≤ (apply cfg s op).meterEnergyDelivered := by
  cases op with
  | stopCharging stop => exact ⟨limit, le_rfl⟩
  | setMaxCurrent maxCurrent =>
    rw [apply, setMaxCurrent_eq]
    exact ⟨limit, le_rfl⟩
  | loop i =>
    -- What the iteration starts with is carried through each of its parts.
    have start : KeepsEnergy i s.meterEnergyDelivered s.fresh := ⟨limit, .inr ⟨plugged, le_rfl⟩⟩
    have finish : KeepsEnergy i s.meterEnergyDelivered (apply cfg s (.loop i)) := by
      refine loopEvse_rule (fun keeps => ?_) (fun reads edge keeps => keeps.edge reads edge)
        (fun _ keeps => ?_) (fun {s} charging keeps => ?_) (fun keeps => ?_) start
      · exact keeps.congr (by unfold readPilot; dsimp only; split_ifs <;> rfl)
          (by unfold readPilot; dsimp only; split_ifs <;> rfl) (by simp)
      · exact keeps.congr pollAuthorization_meter.1 pollAuthorization_meter.2 (by simp)
      · -- What the metering adds is not negative.
        obtain ⟨since, clock⟩ : ∃ since, (if s.lastCalcTime = 0 then i.msSinceBoot
            else s.lastCalcTime) = since := ⟨_, rfl⟩
        obtain ⟨-, meter, -, -, voltage⟩ := meterInterval_meter cfg clock Iff.rfl
        obtain ⟨limit, ⟨unplugged, -⟩ | ⟨plugged, least⟩⟩ := keeps
        · rcases charging with charging | charging <;> simp [Unplugged, charging] at unplugged
        · have added : 0 ≤ energyOf s.maxVoltage since i :=
            energyOf_nonneg (readings i rfl) (by rw [limit]; norm_num)
          refine ⟨by rw [voltage, limit], .inr ⟨by simpa [Unplugged] using plugged, ?_⟩⟩
          rw [meter]
          split_ifs <;> linarith
      · exact keeps.congr applyPwm_meter.2.2.1 applyPwm_meter.2.1 (by simp)
    rcases finish.2 with ⟨unplugged, -⟩ | ⟨-, least⟩
    · exact absurd unplugged stays
    · exact ⟨finish.1, least⟩

end Delivered

end EasyEvse.J1772
