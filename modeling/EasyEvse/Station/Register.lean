import EasyEvse.J1772.Stays

/-! The import register that telemetry reports, from the energy on the meter to the OCPP record. -/

namespace EasyEvse

open J1772 Transition

/-- Which way the energy flows, as the OCPP task asks for it. -/
inductive ChargingDirection
  | g2v | v2g | noChargingDirection
  deriving DecidableEq, Repr

/-- The charging protocols the firmware knows. -/
inductive ChargingProtocol
  | basicChargingJ1772 | highLevelChargingISO15118 | highLevelChargingISO15118_20
  deriving DecidableEq, Repr

/-- The protocol of this build, which nothing in it changes. -/
def currentChargingProtocol : ChargingProtocol := .basicChargingJ1772

/-- The direction of the energy, which is only known while charging. -/
def chargingDirection (isCharging : Bool) : ChargingDirection :=
  if isCharging then
    -- The other protocols are compiled out, and then tell no direction.
    if currentChargingProtocol = .basicChargingJ1772 then .g2v else .noChargingDirection
  else .noChargingDirection

/-- What the charging task tells about the vehicle. -/
structure VehicleData where
  /-- The time in seconds since the charging started. -/
  elapsedTime : UInt32 := 0
  /-- The energy delivered from the connection of the vehicle until its disconnection. -/
  deliveredEnergy : UInt32 := 0
  chargeCurrent : ℚ := 0
  deriving DecidableEq, Repr

/-- Conversion of a non-negative value below `2 ^ 32` to an unsigned integer. -/
def toUint32 (value : ℚ) : UInt32 := UInt32.ofNat value.floor.toNat

/-- The vehicle data as the charging state machine has them. -/
def getVehicleData (evse : Evse) : VehicleData where
  chargeCurrent := evse.measuredCurrent
  deliveredEnergy := toUint32 evse.meterEnergyDelivered
  elapsedTime := evse.elapseTime / 1000

/-- A value for each of the three lines. -/
structure PhaseData where
  ph1 : ℚ
  ph2 : ℚ
  ph3 : ℚ
  deriving DecidableEq, Repr

/-- A sum or a direct-current value, with the values of the lines where they are known. -/
structure LineValues where
  total : ℚ
  lines : Option PhaseData
  deriving DecidableEq, Repr

/-- The record of the power meter that is reported to the central system. -/
structure Powermeter where
  timestamp : String := ""
  /-- The energy imported from the grid, in watt-hours. -/
  energyWhImport : ℚ := 0
  meterId : Option String := none
  phaseSeqError : Option Bool := none
  /-- The energy exported to the grid. -/
  energyWhExport : Option ℚ := none
  powerW : Option LineValues := none
  voltageV : Option LineValues := none
  var : Option ℚ := none
  currentA : Option LineValues := none
  frequencyHz : Option ℚ := none
  deriving DecidableEq, Repr

/-- What one report reads from outside, and whether it got hold of the vehicle data in time. -/
structure Reading where
  timestamp : String
  urms : PhaseData
  irms : PhaseData
  power : PhaseData
  locked : Bool
  deriving DecidableEq, Repr

/-- The charging task, and the two records through which its energy is reported. -/
structure Telemetry where
  evse : Evse
  vehicleData : VehicleData := {}
  currentPowerData : Powermeter := {}
  /-- The totals of the import register reported so far, in order. -/
  totals : List ℚ := []
  deriving DecidableEq

/-- Bring the vehicle data up to date, unless another task holds on to them. -/
def refreshVehicleData (locked : Bool) (s : Telemetry) : Telemetry :=
  if locked then { s with vehicleData := getVehicleData s.evse } else s

/-- Clear the record of the power meter for a vehicle that was connected. -/
def initCurrentPowerData (timestamp : String) (s : Telemetry) : Telemetry :=
  { s with
    currentPowerData :=
      { timestamp
        energyWhImport := 0
        meterId := some "MTR553"
        phaseSeqError := some false
        energyWhExport := some 0
        powerW := some ⟨0, none⟩
        voltageV := some ⟨0, none⟩
        var := some 0
        currentA := some ⟨0, none⟩
        frequencyHz := some 0 } }

/-- Fill the record of the power meter for one report. -/
def vehicleDataToOcppData (reading : Reading) (s : Telemetry) : Telemetry :=
  let s := refreshVehicleData reading.locked s
  let data := { s.currentPowerData with
    timestamp := reading.timestamp
    phaseSeqError := some false
    energyWhImport := 0
    energyWhExport := some 0 }
  -- Only the register of the direction is filled again, and none while nothing is charged.
  let data := match chargingDirection s.evse.isCharging with
    | .g2v => { data with energyWhImport := s.vehicleData.deliveredEnergy.toNat }
    | .v2g => { data with energyWhExport := some (s.vehicleData.deliveredEnergy.toNat : ℚ) }
    | .noChargingDirection => data
  let { urms, irms, power, .. } := reading
  -- The first line stands for the direct-current value of voltage and current.
  let data := { data with
    powerW := some ⟨power.ph1 + power.ph3 + power.ph2, some power⟩
    voltageV := some ⟨urms.ph1, some urms⟩
    currentA := some ⟨irms.ph1, some irms⟩
    frequencyHz := some 50 }
  { s with currentPowerData := data, totals := s.totals ++ [data.energyWhImport] }

/-- What can happen around the reports, in any order. -/
inductive TelemetryOp
  /-- An operation on the charging task. -/
  | charging (op : Op)
  /-- The charging task refreshes the vehicle data. -/
  | refresh (locked : Bool)
  /-- The OCPP task handles the connection of the vehicle. -/
  | connected (timestamp : String)
  /-- The OCPP task handles a telemetry event. -/
  | report (reading : Reading)
  deriving DecidableEq

/-- Apply one operation. -/
def telemetryApply (cfg : Config) (s : Telemetry) : TelemetryOp → Telemetry
  | .charging op => { s with evse := apply cfg s.evse op }
  | .refresh locked => refreshVehicleData locked s
  | .connected timestamp => initCurrentPowerData timestamp s
  | .report reading => vehicleDataToOcppData reading s

/-- Every operation is enabled in every state. -/
def telemetryStep (cfg : Config) : Step Telemetry TelemetryOp :=
  fun s op => some (telemetryApply cfg s op)

/-- Running the partial step is folding the total one. -/
theorem run_telemetryStep (cfg : Config) (s : Telemetry) (ops : List TelemetryOp) :
    run (telemetryStep cfg) s ops = some (ops.foldl (telemetryApply cfg) s) :=
  run_total

/-- A vehicle has just been plugged in, and nothing was reported for it yet. -/
def PluggedIn (cfg : Config) (s : Telemetry) : Prop :=
  -- A station without a vehicle is in state A, or in state A2 if pulses are still offered.
  ∃ evse i, Reachable cfg evse ∧ (evse.currentState = .stateA ∨ evse.currentState = .stateA2) ∧
    i.controlPilot = .stateB ∧ s.evse = apply cfg evse (.loop i) ∧ s.totals = []

/-- An operation reads nothing negative. -/
def ReadsNonNegative : TelemetryOp → Prop
  | .charging (.loop i) => NonNegative i
  | _ => True

/-- The vehicle stays plugged in, and nothing negative is read. -/
def InSession (cfg : Config) (s : Telemetry) (op : TelemetryOp) : Prop :=
  ¬ Unplugged (telemetryApply cfg s op).evse ∧ ReadsNonNegative op

/-- The energy on the meter fits into the vehicle data. -/
def Fits (s : Telemetry) : Prop := s.evse.meterEnergyDelivered < 2 ^ 32

/-- The vehicle data that are reported are those of the meter, now or at an earlier time. -/
def ReadsMeter (s : Telemetry) : TelemetryOp → Prop
  | .refresh locked => locked = true → Fits s
  | .report reading =>
    (reading.locked = true → Fits s) ∧
    -- Vehicle data that are not refreshed are not those of a vehicle with more energy.
    (s.evse.isCharging = true → reading.locked = false →
      s.vehicleData.deliveredEnergy.toNat ≤ s.evse.meterEnergyDelivered)
  | .charging _ | .connected _ => True

/-- A report that is made while the vehicle is charged, with a watt-hour or more to report. -/
def ReportsEnergy (s : Telemetry) : TelemetryOp → Prop
  | .report reading => s.evse.isCharging = true ∧
    if reading.locked then 1 ≤ s.evse.meterEnergyDelivered
    else s.vehicleData.deliveredEnergy ≠ 0
  | .charging _ | .refresh _ | .connected _ => False

/-- A report that is made while nothing is charged. -/
def ReportsPause (s : Telemetry) : TelemetryOp → Prop
  | .report _ => s.evse.isCharging = false
  | .charging _ | .refresh _ | .connected _ => False

/-- After a report with energy, no report of the run is made while nothing is charged. -/
def PausesUnreported (cfg : Config) : Telemetry → List TelemetryOp → Prop
  | _, [] => True
  | s, op :: ops =>
    (ReportsEnergy s op →
      Meets (fun u later => ¬ ReportsPause u later) (telemetryStep cfg)
        (telemetryApply cfg s op) ops) ∧
    PausesUnreported cfg (telemetryApply cfg s op) ops

instance : DecidablePred ReadsNonNegative
  | .charging (.loop i) => inferInstanceAs (Decidable (NonNegative i))
  | .charging (.stopCharging _) | .charging (.setMaxCurrent _) => isTrue trivial
  | .refresh _ | .connected _ | .report _ => isTrue trivial

instance (cfg : Config) (s : Telemetry) (op : TelemetryOp) : Decidable (InSession cfg s op) :=
  inferInstanceAs (Decidable (_ ∧ _))

instance (s : Telemetry) : Decidable (Fits s) := inferInstanceAs (Decidable (_ < _))

instance (s : Telemetry) : ∀ op, Decidable (ReadsMeter s op)
  | .refresh _ => inferInstanceAs (Decidable (_ → _))
  | .report _ => inferInstanceAs (Decidable (_ ∧ _))
  | .charging _ | .connected _ => isTrue trivial

instance (s : Telemetry) : ∀ op, Decidable (ReportsEnergy s op)
  | .report _ => inferInstanceAs (Decidable (_ ∧ ite _ _ _))
  | .charging _ | .refresh _ | .connected _ => isFalse id

instance (s : Telemetry) : ∀ op, Decidable (ReportsPause s op)
  | .report _ => inferInstanceAs (Decidable (_ = _))
  | .charging _ | .refresh _ | .connected _ => isFalse id

instance decidablePausesUnreported (cfg : Config) :
    ∀ s ops, Decidable (PausesUnreported cfg s ops)
  | _, [] => isTrue trivial
  | s, op :: ops =>
    have := decidablePausesUnreported cfg (telemetryApply cfg s op) ops
    inferInstanceAs (Decidable (_ ∧ _))

/-- A watt-hour or more was reported. -/
def ToldEnergy (s : Telemetry) : Prop := ∃ total ∈ s.totals, 0 < total

/-- What holds between the reports and the meter while a vehicle is plugged in. -/
structure Registers (s : Telemetry) : Prop where
  plugged : ¬ Unplugged s.evse
  voltage : s.evse.maxVoltage = 230
  delivered : 0 ≤ s.evse.meterEnergyDelivered
  ordered : s.totals.Pairwise (· ≤ ·)
  /-- No report is above the meter, or above the vehicle data it was taken from. -/
  reported : ∀ total ∈ s.totals, ∃ n : ℕ, total = n ∧ n ≤ s.evse.meterEnergyDelivered ∧
    n ≤ s.vehicleData.deliveredEnergy.toNat

section Laws

variable {cfg : Config} {s t : Telemetry} {op : TelemetryOp}

/-- A value that fits is converted to its whole part. -/
theorem toUint32_toNat {value : ℚ} (fits : value < 2 ^ 32) :
    (toUint32 value).toNat = ⌊value⌋.toNat := by
  -- The whole part fits as well, so nothing is cut off.
  have small : ⌊value⌋.toNat < 2 ^ 32 := by
    have whole : ⌊value⌋ < 2 ^ 32 := Int.floor_lt.mpr (by exact_mod_cast fits)
    omega
  show (UInt32.ofNat ⌊value⌋.toNat).toNat = _
  rw [UInt32.toNat_ofNat']
  exact Nat.mod_eq_of_lt small

/-- The conversion does not exceed the value. -/
theorem toUint32_le {value : ℚ} (positive : 0 ≤ value) (fits : value < 2 ^ 32) :
    ((toUint32 value).toNat : ℚ) ≤ value := by
  have whole : (0 : ℤ) ≤ ⌊value⌋ := Int.floor_nonneg.mpr positive
  rw [toUint32_toNat fits]
  calc ((⌊value⌋.toNat : ℕ) : ℚ) = ((⌊value⌋ : ℤ) : ℚ) := by
        exact_mod_cast congrArg (Int.cast (R := ℚ)) (Int.toNat_of_nonneg whole)
    _ ≤ value := Int.floor_le value

/-- A whole number below the value does not exceed what it is converted to. -/
theorem le_toUint32 {value : ℚ} {n : ℕ} (below : n ≤ value) (fits : value < 2 ^ 32) :
    n ≤ (toUint32 value).toNat := by
  have whole : (n : ℤ) ≤ ⌊value⌋ := Int.le_floor.mpr (by exact_mod_cast below)
  rw [toUint32_toNat fits]
  omega

/-- A refresh brings the vehicle data up to what the meter shows, or leaves them alone. -/
theorem Registers.refresh {locked : Bool} (registers : Registers s)
    (fits : locked = true → Fits s) : Registers (refreshVehicleData locked s) := by
  obtain ⟨plugged, voltage, delivered, ordered, reported⟩ := registers
  cases locked with
  | false => exact ⟨plugged, voltage, delivered, ordered, reported⟩
  | true =>
    -- What was reported is a whole number below the meter, so the new data have it too.
    refine ⟨plugged, voltage, delivered, ordered, fun total member => ?_⟩
    obtain ⟨n, same, below, -⟩ := reported total member
    exact ⟨n, same, below, le_toUint32 below (fits rfl)⟩

/-- The charging task keeps the vehicle data, and takes no energy off the meter. -/
theorem Registers.charging {op : Op} (registers : Registers s)
    (session : InSession cfg s (.charging op)) :
    Registers (telemetryApply cfg s (.charging op)) := by
  obtain ⟨plugged, voltage, delivered, ordered, reported⟩ := registers
  obtain ⟨stays, reads⟩ := session
  have readings : ∀ i, op = .loop i → NonNegative i := by
    intro i same
    subst same
    exact reads
  -- The meter only grows, so that what was below it stays below it.
  obtain ⟨limit, grows⟩ := apply_delivered plugged voltage readings stays
  refine ⟨stays, limit, delivered.trans grows, ordered, fun total member => ?_⟩
  obtain ⟨n, same, below, known⟩ := reported total member
  exact ⟨n, same, below.trans grows, known⟩

/-- A refresh changes nothing but the vehicle data. -/
theorem refreshVehicleData_frame (locked : Bool) (s : Telemetry) :
    (refreshVehicleData locked s).evse = s.evse ∧
      (refreshVehicleData locked s).totals = s.totals := by
  unfold refreshVehicleData
  split_ifs <;> simp

/-- Without any energy told, all that was reported is zero. -/
theorem Registers.totals_eq_zero (registers : Registers s) (none : ¬ ToldEnergy s) :
    ∀ total ∈ s.totals, total = 0 := by
  intro total member
  obtain ⟨n, same, -, -⟩ := registers.reported total member
  by_contra nonzero
  have positive : 0 < total := by
    rw [same] at nonzero ⊢
    exact_mod_cast Nat.pos_of_ne_zero (by exact_mod_cast nonzero)
  exact none ⟨total, member, positive⟩

/-- A report leaves the charging task alone, refreshes the vehicle data, and adds one total. -/
theorem vehicleDataToOcppData_frame (reading : Reading) (s : Telemetry) :
    (vehicleDataToOcppData reading s).evse = s.evse ∧
    (vehicleDataToOcppData reading s).vehicleData =
      (refreshVehicleData reading.locked s).vehicleData ∧
    (vehicleDataToOcppData reading s).totals = s.totals ++ [if s.evse.isCharging then
      ((refreshVehicleData reading.locked s).vehicleData.deliveredEnergy.toNat : ℚ) else 0] := by
  have same := refreshVehicleData_frame reading.locked s
  cases charging : s.evse.isCharging <;>
    simp [vehicleDataToOcppData, chargingDirection, currentChargingProtocol, same, charging]

/-- A report adds something to what was told exactly if there is energy to report. -/
theorem reportsEnergy_iff {reading : Reading} (registers : Registers s)
    (reads : ReadsMeter s (.report reading)) : ReportsEnergy s (.report reading) ↔
      0 < if s.evse.isCharging then
        ((refreshVehicleData reading.locked s).vehicleData.deliveredEnergy.toNat : ℚ) else 0 := by
  -- The whole part of the meter is positive from one watt-hour on.
  have whole : Fits s →
      (1 ≤ s.evse.meterEnergyDelivered ↔ 0 < (toUint32 s.evse.meterEnergyDelivered).toNat) := by
    intro fits
    constructor
    · intro least
      exact le_toUint32 (by exact_mod_cast least) fits
    · intro positive
      calc (1 : ℚ) ≤ (toUint32 s.evse.meterEnergyDelivered).toNat := by exact_mod_cast positive
        _ ≤ s.evse.meterEnergyDelivered := toUint32_le registers.delivered fits
  cases charging : s.evse.isCharging with
  | false => simp [ReportsEnergy, charging]
  | true =>
    cases locked : reading.locked with
    | false =>
      have nonzero : s.vehicleData.deliveredEnergy ≠ 0 ↔
          0 < s.vehicleData.deliveredEnergy.toNat := by
        rw [Nat.pos_iff_ne_zero]
        exact not_congr UInt32.toNat_inj.symm
      simpa [ReportsEnergy, charging, locked, refreshVehicleData] using nonzero
    | true =>
      simpa [ReportsEnergy, charging, locked, refreshVehicleData, getVehicleData] using
        whole (reads.1 locked)

/-- A report adds a total that is not below the others, unless it comes in a pause after them. -/
theorem Registers.report {reading : Reading} (registers : Registers s)
    (reads : ReadsMeter s (.report reading))
    (apart : ¬ (ToldEnergy s ∧ s.evse.isCharging = false)) :
    Registers (vehicleDataToOcppData reading s) := by
  obtain ⟨fits, known⟩ := reads
  -- What was reported before a report in a pause is zero.
  have paused : s.evse.isCharging = false → ∀ total ∈ s.totals, total = 0 := fun pause =>
    registers.totals_eq_zero fun told => apart ⟨told, pause⟩
  -- The vehicle data are refreshed before the report is made.
  obtain ⟨u, named⟩ : ∃ u, u = refreshVehicleData reading.locked s := ⟨_, rfl⟩
  have refreshed : Registers u := named ▸ registers.refresh fits
  have same : u.evse = s.evse ∧ u.totals = s.totals := named ▸ refreshVehicleData_frame _ _
  obtain ⟨evse, data, totals⟩ := vehicleDataToOcppData_frame reading s
  rw [← named] at data totals
  rw [← same.2] at totals paused
  obtain ⟨plugged, voltage, delivered, ordered, reported⟩ := refreshed
  rw [same.1] at plugged voltage delivered reported
  -- The new total is a whole number that neither the meter nor the vehicle data fall short of.
  obtain ⟨n, added, below, told, least⟩ : ∃ n : ℕ,
      (if s.evse.isCharging then (u.vehicleData.deliveredEnergy.toNat : ℚ) else 0) = n ∧
      n ≤ s.evse.meterEnergyDelivered ∧ n ≤ u.vehicleData.deliveredEnergy.toNat ∧
      ∀ total ∈ u.totals, total ≤ n := by
    cases charging : s.evse.isCharging with
    | false =>
      -- Nothing but zeros was reported, and here is another one.
      refine ⟨0, by simp, by simpa using delivered, Nat.zero_le _, fun total member => ?_⟩
      simp [paused charging total member]
    | true =>
      refine ⟨_, rfl, ?_, le_rfl, fun total member => ?_⟩
      · -- The data are those of now, or those of before.
        cases locked : reading.locked with
        | false =>
          have stale : u.vehicleData = s.vehicleData := by simp [named, locked, refreshVehicleData]
          rw [stale]
          exact known charging locked
        | true =>
          have fresh : u.vehicleData = getVehicleData s.evse := by
            simp [named, locked, refreshVehicleData]
          rw [fresh]
          exact toUint32_le delivered (fits locked)
      · obtain ⟨n, same, -, most⟩ := reported total member
        rw [same]
        exact_mod_cast most
  rw [added] at totals
  -- It joins the others at the end, where it is the largest.
  refine ⟨by rw [evse]; exact plugged, by rw [evse]; exact voltage,
    by rw [evse]; exact delivered, ?_, ?_⟩
  · rw [totals]
    refine List.pairwise_append.mpr ⟨ordered, List.pairwise_singleton _ _, ?_⟩
    intro total member other last
    rw [List.mem_singleton.mp last]
    exact least total member
  · rw [totals, evse, data]
    intro total member
    rcases List.mem_append.mp member with before | last
    · exact reported total before
    · exact ⟨n, List.mem_singleton.mp last, below, told⟩

/-- Every operation of a session keeps what holds between the reports and the meter. -/
theorem Registers.step (registers : Registers s) (session : InSession cfg s op)
    (reads : ReadsMeter s op) (apart : ¬ (ToldEnergy s ∧ ReportsPause s op)) :
    Registers (telemetryApply cfg s op) := by
  cases op with
  | charging op => exact registers.charging session
  | refresh locked => exact registers.refresh reads
  -- The record that is cleared is none of what the invariant speaks of.
  | connected timestamp =>
    exact ⟨registers.plugged, registers.voltage, registers.delivered, registers.ordered,
      registers.reported⟩
  | report reading => exact registers.report reads apart

/-- Only a report with energy makes a difference to whether something was told. -/
theorem told_telemetryApply (registers : Registers s) (reads : ReadsMeter s op) :
    ToldEnergy (telemetryApply cfg s op) ↔ ToldEnergy s ∨ ReportsEnergy s op := by
  cases op with
  | charging op => simp [ToldEnergy, telemetryApply, ReportsEnergy]
  | refresh locked =>
    cases locked <;> simp [ToldEnergy, telemetryApply, ReportsEnergy, refreshVehicleData]
  | connected timestamp => simp [ToldEnergy, telemetryApply, ReportsEnergy, initCurrentPowerData]
  | report reading =>
    rw [reportsEnergy_iff registers reads]
    simp [ToldEnergy, telemetryApply, (vehicleDataToOcppData_frame reading s).2.2, or_and_right,
      exists_or]

/-- Nothing is taken back from what was reported. -/
theorem totals_grow (ops : List TelemetryOp) :
    s.totals <+: (ops.foldl (telemetryApply cfg) s).totals := by
  induction ops generalizing s with
  | nil => exact List.prefix_refl _
  | cons op ops ih =>
    have first : s.totals <+: (telemetryApply cfg s op).totals := by
      cases op with
      | charging op => exact List.prefix_refl _
      | refresh locked => cases locked <;> exact List.prefix_refl _
      | connected timestamp => exact List.prefix_refl _
      | report reading =>
        rw [telemetryApply, (vehicleDataToOcppData_frame reading s).2.2]
        exact List.prefix_append _ _
    exact first.trans ih

/-- A report in a pause after something was told takes the register back for good. -/
theorem backwards_of_pause (ops : List TelemetryOp) (told : ToldEnergy s)
    (pause : ReportsPause s op) :
    ¬ (ops.foldl (telemetryApply cfg) (telemetryApply cfg s op)).totals.Pairwise (· ≤ ·) := by
  intro ordered
  obtain ⟨total, member, positive⟩ := told
  cases op with
  | charging op => exact pause
  | refresh locked => exact pause
  | connected timestamp => exact pause
  | report reading =>
    -- The zero of the report stands behind the total.
    have back : (telemetryApply cfg s (.report reading)).totals = s.totals ++ [0] := by
      have none : s.evse.isCharging = false := pause
      simp [telemetryApply, (vehicleDataToOcppData_frame reading s).2.2, none]
    have least := ordered.sublist (totals_grow ops).sublist
    rw [back] at least
    have below : total ≤ 0 :=
      (List.pairwise_append.mp least).2.2 total member 0 (List.mem_singleton.mpr rfl)
    exact absurd positive (not_lt.mpr below)

/-- The totals of a run stay in order exactly if no pause is reported after some energy. -/
theorem ordered_iff {ops : List TelemetryOp} (registers : Registers s)
    (session : Meets (InSession cfg) (telemetryStep cfg) s ops)
    (reads : Meets ReadsMeter (telemetryStep cfg) s ops) :
    (ops.foldl (telemetryApply cfg) s).totals.Pairwise (· ≤ ·) ↔
      (ToldEnergy s → Meets (fun u later => ¬ ReportsPause u later) (telemetryStep cfg) s ops) ∧
        PausesUnreported cfg s ops := by
  -- What was told before the run counts as told by its first operation.
  induction ops generalizing s with
  | nil => simp [Meets, PausesUnreported, registers.ordered]
  | cons op ops ih =>
    obtain ⟨stays, session⟩ := session _ rfl
    obtain ⟨read, reads⟩ := reads _ rfl
    have head : Meets (fun u later => ¬ ReportsPause u later) (telemetryStep cfg) s (op :: ops) ↔
        ¬ ReportsPause s op ∧ Meets (fun u later => ¬ ReportsPause u later) (telemetryStep cfg)
          (telemetryApply cfg s op) ops := by
      simp [Meets, telemetryStep]
    rw [List.foldl_cons, head, PausesUnreported]
    by_cases back : ToldEnergy s ∧ ReportsPause s op
    · -- The register runs backwards here, whatever comes after it.
      refine iff_of_false (backwards_of_pause ops back.1 back.2) fun kept => ?_
      exact (kept.1 back.1).1 back.2
    · rw [ih (registers.step stays read back) session reads, told_telemetryApply registers read]
      tauto

/-- A plug-in enters state B or state B2, with the voltage limit and the energy of before. -/
theorem plugged_apply {evse : Evse} {i : Inputs}
    (at_ : evse.currentState = .stateA ∨ evse.currentState = .stateA2)
    (reads : i.controlPilot = .stateB) :
    ¬ Unplugged (apply cfg evse (.loop i)) ∧
    (apply cfg evse (.loop i)).maxVoltage = evse.maxVoltage ∧
    (apply cfg evse (.loop i)).meterEnergyDelivered = evse.meterEnergyDelivered := by
  -- Either way one state is entered that forgets nothing, and the pulses come after it.
  obtain ⟨n, newPwm, entered, looped⟩ : ∃ n newPwm, (n = .stateB ∨ n = .stateB2) ∧
      apply cfg evse (.loop i) = applyPwm (setState cfg n (readPilot i evse.fresh)) newPwm := by
    rcases at_ with at_ | at_
    · exact ⟨.stateB, pwm100MaxValue, .inl rfl, by
        simp [apply, loopEvse, dispatch, handleStateA, at_, reads]⟩
    · exact ⟨.stateB2, (readPilot i evse.fresh).currentPwm, .inr rfl, by
        simp [apply, loopEvse, dispatch, handleStateA2, at_, reads]⟩
  obtain ⟨voltage, energy⟩ := setState_delivered cfg n (readPilot i evse.fresh)
  rw [looped, applyPwm_meter.2.1, applyPwm_meter.2.2.1, voltage, energy, readPilot_meter.2.1,
    readPilot_meter.2.2.1]
  rcases entered with rfl | rfl <;> simp [Unplugged]

/-- A vehicle that has just been plugged in has been delivered nothing. -/
theorem PluggedIn.registers (start : PluggedIn cfg s) : Registers s := by
  obtain ⟨evse, i, reached, at_, reads, same, none⟩ := start
  obtain ⟨limit, forgotten⟩ := reached.forgets
  obtain ⟨plugged, voltage, energy⟩ := @plugged_apply cfg evse i at_ reads
  -- The energy of the vehicle before was forgotten when its states were left.
  have meter : s.evse.meterEnergyDelivered = 0 := by
    rw [same, energy]
    exact forgotten (by rw [Unplugged]; tauto)
  refine ⟨by rw [same]; exact plugged, ?_, meter.ge, by simp [none], by simp [none]⟩
  rw [same, voltage, limit]

end Laws

/-- A station after its start-up. -/
def startedUp : Evse :=
  applyAll ⟨true, false⟩ (init (setMaxCurrent 32 boot)) [.loop (pilotOnly .stateA)]

/-- A vehicle that was plugged in after the start-up. -/
def justPlugged : Telemetry where
  evse := apply ⟨true, false⟩ startedUp (.loop (pilotOnly .stateB))

/-- It was plugged in while the station was in state A. -/
theorem justPlugged_pluggedIn : PluggedIn ⟨true, false⟩ justPlugged :=
  ⟨startedUp, pilotOnly .stateB, reachable_applyAll _ 32 _, .inl (by decide +kernel), rfl, rfl, rfl⟩

/-- A report that gets hold of the vehicle data. -/
def reportNow : TelemetryOp := .report ⟨"now", ⟨230, 230, 230⟩, ⟨10, 10, 10⟩, ⟨2300, 0, 0⟩, true⟩

/-- An hour of charging with ten amperes, and a report at its end. -/
def chargedHour : List TelemetryOp :=
  [.charging (.loop { pilotOnly .stateB with authResponse := some true }),
    .charging (.loop (readingAt 1000 .stateC)), .charging (.loop (readingAt 2000 .stateC)),
    .charging (.loop (readingAt 3602000 .stateC)), reportNow]

/--
In a session whose vehicle data are those of the meter, the reported totals never decrease
exactly if no report in a pause comes after one that was made with energy.

The session is a run from the plug-in of a vehicle, in state A or A2, that leaves it plugged in.
-/
theorem register_never_backwards_iff (cfg : Config) (s t : Telemetry) (ops : List TelemetryOp)
    (start : PluggedIn cfg s) (session : Meets (InSession cfg) (telemetryStep cfg) s ops)
    (reads : Meets ReadsMeter (telemetryStep cfg) s ops)
    (finish : run (telemetryStep cfg) s ops = some t) :
    t.totals.Pairwise (· ≤ ·) ↔ PausesUnreported cfg s ops := by
  rw [run_telemetryStep] at finish
  obtain rfl := Option.some.inj finish
  -- Nothing was told before the session.
  have untold : ¬ ToldEnergy s := by
    obtain ⟨-, -, -, -, -, -, none⟩ := start
    simp [ToldEnergy, none]
  rw [ordered_iff start.registers session reads]
  exact and_iff_right fun told => absurd told untold

/-- A second report while the charging goes on. -/
theorem register_never_backwards_iff_charging :
    ((chargedHour ++ [.charging (.loop (readingAt 5402000 .stateC)), reportNow]).foldl
      (telemetryApply ⟨true, false⟩) justPlugged).totals.Pairwise (· ≤ ·) :=
  (register_never_backwards_iff ⟨true, false⟩ justPlugged _
    (chargedHour ++ [.charging (.loop (readingAt 5402000 .stateC)), reportNow])
    justPlugged_pluggedIn (by decide +kernel) (by decide +kernel)
    (run_telemetryStep _ _ _)).mpr (by decide +kernel)

/-- A report after the vehicle has stopped to ask for power takes the register back to zero. -/
theorem register_runs_backwards : ¬ ∀ (cfg : Config) (s t : Telemetry) (ops : List TelemetryOp),
    PluggedIn cfg s → Meets (InSession cfg) (telemetryStep cfg) s ops →
    run (telemetryStep cfg) s ops = some t → t.totals.Pairwise (· ≤ ·) := by
  intro monotone
  have ordered := monotone ⟨true, false⟩ justPlugged _
    (chargedHour ++ [.charging (.loop (readingAt 3603000 .stateB)), reportNow])
    justPlugged_pluggedIn (by decide +kernel) (run_telemetryStep _ _ _)
  exact absurd ordered (by decide +kernel)

end EasyEvse
