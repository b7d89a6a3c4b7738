import EasyEvse.J1772.State
import EasyEvse.Transition.Run

/-! The charging state machine: one iteration of its loop, and the calls that interleave with it. -/

namespace EasyEvse.J1772

/-- Remember a call made to another part of the station. -/
def Evse.record (s : Evse) (call : Call) : Evse := { s with calls := s.calls ++ [call] }

/-- Set an event bit for the OCPP task. -/
def Evse.setEvent (s : Evse) (event : OcppEvent) : Evse := s.record (.setEvent event)

/-- Command the contactor open or closed. -/
def Evse.setContactorState (s : Evse) (relayOpen : Bool) : Evse :=
  { s with relayOpen := relayOpen }.record (.setContactorState relayOpen)

/-- Report the end of charging and open the contactor. -/
def disablePower (s : Evse) : Evse :=
  (s.setEvent .chargingStopped).setContactorState true

/-- Report the start of charging and close the contactor. -/
def enablePower (s : Evse) : Evse :=
  (s.setEvent .chargingStarted).setContactorState false

/-- Record a request to stop, or withdraw it. -/
def stopCharging (stop : Bool) (s : Evse) : Evse := { s with readyToCharge := !stop }

/-- Change the configured current. -/
def setMaxCurrent (maxCurrent : UInt32) (s : Evse) : Evse :=
  if s.maxCurrent ≠ maxCurrent.toNat then { s with maxCurrent := maxCurrent.toNat } else s

/-- Forget what was measured for the vehicle that left. -/
def resetVehicleData (s : Evse) : Evse :=
  { s with
    measuredVoltage := 0, measuredCurrent := 0, measuredPower := 0
    meterEnergyDelivered := 0, meterReading := 0, elapseTime := 0, lastCalcTime := 0 }

/-- Leave for one of the two unplugged states. -/
def enterUnplugged (s : Evse) : Evse :=
  -- The measurements are forgotten before the power is switched off.
  let s := disablePower (resetVehicleData s)
  stopCharging false { s with isCharging := false, readyToCharge := true, overCurrent := false }

/-- Coming from an unplugged state, a vehicle has just been connected and must be authorized. -/
def noteConnected (s : Evse) : Evse :=
  -- In any other state the vehicle was there already.
  if s.currentState = .stateA ∨ s.currentState = .stateA2 then
    { (s.setEvent .evConnected).setEvent .evAuthNeeded with authNeeded := true }
  else s

/-- Open the contactor on a return from charging, unless the vehicle draws almost nothing. -/
def enterVehicleDetected (newState : J1772State) (s : Evse) : Evse :=
  let s := { s with isCharging := false }
  let s :=
    if newState = .stateB2 ∧ (s.currentState = .stateC2 ∨ s.currentState = .stateD2) then
      -- The contactor stays closed here for a vehicle that draws almost nothing.
      if s.measuredCurrent < minCurrentDrawBeforeDisconnectSeq7 then s else disablePower s
    -- State B always switches off, and state B2 reached from elsewhere never does.
    else if newState = .stateB then disablePower s
    else s
  stopCharging false s

/-- Enter one of the two states in which the vehicle asks for power and gets none. -/
def enterReady (newState : J1772State) (s : Evse) : Evse :=
  -- Only state C withdraws a stop request.
  let s := if newState = .stateC then stopCharging false s else s
  -- Between the two states the power is off already.
  if s.currentState ≠ .stateC ∧ s.currentState ≠ .stateD then
    disablePower { s with isCharging := false }
  else s

/-- Enter one of the two states in which the vehicle is charged, if a stop is not requested. -/
def enterCharging (cfg : Config) (newState : J1772State) (s : Evse) : Evse :=
  let s :=
    if cfg.ventilationState then { s with ventilation := some (newState = .stateD2) }
    -- Without ventilation a vehicle that needs it is not charged.
    else if newState = .stateD2 then stopCharging true s
    else s
  if s.readyToCharge then
    { enablePower s with lastCalcTime := 0, isCharging := true }
  else s

/-- Change the state letter, with everything the new state brings along. -/
def setState (cfg : Config) (newState : J1772State) (s : Evse) : Evse :=
  -- A state that does not change brings nothing along.
  if newState = s.currentState then s
  else
    -- The old letter is still in place while the new state is entered.
    let s := match newState with
      | .stateA =>
        enterUnplugged { s.setEvent .evDisconnected with authNeeded := false }
      | .stateA2 => enterUnplugged s
      | .stateB => enterVehicleDetected .stateB (noteConnected s)
      | .stateB2 => enterVehicleDetected .stateB2 s
      | .stateC => enterReady .stateC s
      | .stateD => enterReady .stateD s
      | .stateC2 => enterCharging cfg .stateC2 s
      | .stateD2 => enterCharging cfg .stateD2 s
      | .stateE | .stateF => { disablePower s with isCharging := false }
      -- No state follows the start-up letter, which is never asked for again.
      | .lastState => s
    { s with currentState := newState }

/-- The case of state A, which returns the machine and the duty to set. -/
def handleStateA (cfg : Config) (s : Evse) (newPwm : ℚ) : Evse × ℚ :=
  if s.cpState = .stateB then (setState cfg .stateB s, pwm100MaxValue)
  else if s.cpState = .stateF then (setState cfg .stateF s, newPwm)
  else (s, newPwm)

/-- The case of state A2. -/
def handleStateA2 (cfg : Config) (s : Evse) (newPwm : ℚ) : Evse × ℚ :=
  if s.cpState = .stateA then
    -- The vehicle is gone as soon as the pulses are stopped as well.
    if s.currentPwm < pwm100MinValue then (setState cfg .stateA s, pwm100MaxValue)
    else (s, newPwm)
  -- A vehicle that comes back is not authorized again.
  else if s.cpState = .stateB then (setState cfg .stateB2 s, newPwm)
  else if s.cpState = .stateF then (setState cfg .stateF s, newPwm)
  else (s, newPwm)

/-- Poll for the authorization answer while one is needed. -/
def pollAuthorization (i : Inputs) (s : Evse) : Evse :=
  if s.authNeeded then
    -- A vehicle without an answer is not ready, whatever was asked of it before.
    let s := { s with readyToCharge := false }.record (.getAuthResponse i.authResponse)
    if i.authResponse = some true then { s with readyToCharge := true, authNeeded := false } else s
  else s

/-- The case of state B. -/
def handleStateB (cfg : Config) (i : Inputs) (s : Evse) (newPwm : ℚ) : Evse × ℚ :=
  if s.cpState = .stateA then (setState cfg .stateA s, pwm100MaxValue)
  else if s.cpState = .stateB then
    let s := pollAuthorization i s
    -- Pulses are offered only from a pilot held high, which takes one more iteration to reach.
    if s.currentPwm = pwm100MaxValue ∧ s.readyToCharge then
      (setState cfg .stateB2 s, dutyCyclePerMil s.maxCurrent)
    else if s.currentPwm ≠ pwm100MaxValue then (s, pwm100MaxValue)
    else (s, newPwm)
  else if s.cpState = .stateF then (setState cfg .stateF s, newPwm)
  else (s, newPwm)

/-- The case of state B2. -/
def handleStateB2 (cfg : Config) (s : Evse) (newPwm : ℚ) : Evse × ℚ :=
  if s.cpState = .stateA then (setState cfg .stateA2 s, newPwm)
  -- A requested stop brings the vehicle back to state B.
  else if s.cpState = .stateB ∧ s.readyToCharge = false then
    (setState cfg .stateB s, pwm100MaxValue)
  -- State C2 is entered even when a stop is requested, and then does not close the contactor.
  else if s.cpState = .stateC then (setState cfg .stateC2 s, newPwm)
  else if s.cpState = .stateD then (setState cfg .stateD2 s, newPwm)
  else if s.cpState = .stateF then (setState cfg .stateF s, newPwm)
  else (s, newPwm)

/-- The case of state D, into which the case of state C falls through. -/
def handleStateD (cfg : Config) (s : Evse) (newPwm : ℚ) : Evse × ℚ :=
  -- The letter follows the pilot from D back to C before anything else.
  let s := if s.cpState = .stateC then setState cfg .stateC s else s
  if s.cpState = .stateB then (setState cfg .stateB s, pwm100MaxValue)
  else if s.cpState = .stateC ∨ s.cpState = .stateD then
    let s :=
      if s.cpState = .stateC ∧ s.lastCpState = .stateD then setState cfg .stateC s else s
    -- The pilot is held high while the vehicle waits, and pulses again when it is charged.
    if s.currentPwm = pwm100MaxValue then
      if s.readyToCharge ∧ s.overCurrent = false then
        (setState cfg s.currentState.next s, dutyCyclePerMil s.maxCurrent)
      else (s, newPwm)
    else (s, pwm100MaxValue)
  else if s.cpState = .stateA then (setState cfg .stateA s, newPwm)
  else if s.cpState = .stateF then (setState cfg .stateF s, newPwm)
  else (s, newPwm)

/-- The case of state C. -/
def handleStateC (cfg : Config) (s : Evse) (newPwm : ℚ) : Evse × ℚ :=
  let s :=
    if s.cpState = .stateD ∧ s.currentState ≠ .stateD then setState cfg .stateD s else s
  handleStateD cfg s newPwm

/-- Read the meter and account for the interval since it was last read. -/
def measure (cfg : Config) (i : Inputs) (timeLapse : UInt32) (s : Evse) : Evse :=
  let s := { s with
    elapseTime := s.elapseTime + timeLapse
    measuredVoltage := i.voltage, measuredCurrent := i.current, measuredPower := i.power }
  let s :=
    if cfg.enableOvercurrentTest ∧ s.measuredCurrent > s.maxCurrent then
      { s with overCurrent := true, overCurrentTime := i.msSinceBoot }
    else s
  -- The voltage is limited, and the current is not.
  let s := { s with measuredVoltage := min s.measuredVoltage s.maxVoltage }
  -- The energy is that of the readings just taken, for the time since the last ones.
  let energy := calculateEnergy s.measuredCurrent s.measuredVoltage timeLapse.toNat
  { s with
    meterReading := s.meterReading + energy
    meterEnergyDelivered := s.meterEnergyDelivered + energy
    lastCalcTime := i.msSinceBoot }

/-- The metering at the head of the charging case: start the clocks, then read when due. -/
def meterInterval (cfg : Config) (i : Inputs) (s : Evse) : Evse :=
  let s :=
    -- The clock is started by the first iteration of a stay, which then measures no time.
    if s.lastCalcTime = 0 then
      { s with lastCalcTime := i.msSinceBoot, lastDisplayTime := i.msSinceBoot }
    else s
  let timeLapse := i.msSinceBoot - s.lastCalcTime
  let timeLapseDisplay := i.msSinceBoot - s.lastDisplayTime
  let s :=
    -- A vehicle that stops asking for power is measured at once.
    if timeLapse ≥ bcMeasureIntervalMs ∨ s.cpState = .stateB ∨ s.cpState = .stateA then
      measure cfg i timeLapse s
    else s
  if timeLapseDisplay ≥ bcDisplayIntervalMs then { s with lastDisplayTime := i.msSinceBoot } else s

/-- The case of state D2, into which the case of state C2 falls through. -/
def handleStateD2 (cfg : Config) (i : Inputs) (s : Evse) : Evse × ℚ :=
  -- The offered current is kept up to date while the vehicle is charged.
  let newPwm := dutyCyclePerMil s.maxCurrent
  let s := meterInterval cfg i s
  if s.cpState = .stateA then (setState cfg .stateA2 s, newPwm)
  else if s.cpState = .stateB then (setState cfg .stateB2 s, newPwm)
  else if s.cpState = .stateC ∨ s.cpState = .stateD then
    let s :=
      if s.cpState = .stateC ∧ s.lastCpState = .stateD then setState cfg .stateC2 s else s
    -- A stop goes back to the waiting state that belongs to the letter.
    if s.readyToCharge = false ∨ s.overCurrent then
      (setState cfg s.currentState.prev s, pwm100MaxValue)
    else (s, newPwm)
  else if s.cpState = .stateF then (setState cfg .stateF s, newPwm)
  else (s, newPwm)

/-- The case of state C2. -/
def handleStateC2 (cfg : Config) (i : Inputs) (s : Evse) : Evse × ℚ :=
  -- The fall-through finds the machine in state D2 already.
  let s := if s.cpState = .stateD then setState cfg .stateD2 s else s
  handleStateD2 cfg i s

/-- The case of the two error states. -/
def handleStateEF (cfg : Config) (s : Evse) : Evse × ℚ :=
  if s.cpState = .stateA then (setState cfg .stateA s, pwm100MaxValue)
  else if s.cpState = .stateF then (setState cfg .stateF s, pwm100MaxValue)
  else (s, pwm100MaxValue)

/-- The case before the first known reading. -/
def handleLastState (cfg : Config) (s : Evse) (newPwm : ℚ) : Evse × ℚ :=
  if s.cpState ≠ .stateUnknown then (setState cfg .stateA s, newPwm) else (s, newPwm)

/-- The readings at the head of an iteration: the pilot, and the end of an over-current pause. -/
def readPilot (i : Inputs) (s : Evse) : Evse :=
  -- The times wrap, and so does their difference.
  let s := { s with cpState := i.controlPilot }
  if i.msSinceBoot - s.overCurrentTime > overcurrentProtectionTimeoutMs then
    { s with overCurrent := false }
  else s

/-- The switch over the state letter. -/
def dispatch (cfg : Config) (i : Inputs) (s : Evse) : Evse × ℚ :=
  match s.currentState with
  -- Every case but the charging ones starts from the duty that is set.
  | .stateA => handleStateA cfg s s.currentPwm
  | .stateA2 => handleStateA2 cfg s s.currentPwm
  | .stateB => handleStateB cfg i s s.currentPwm
  | .stateB2 => handleStateB2 cfg s s.currentPwm
  | .stateC => handleStateC cfg s s.currentPwm
  | .stateD => handleStateD cfg s s.currentPwm
  | .stateC2 => handleStateC2 cfg i s
  | .stateD2 => handleStateD2 cfg i s
  -- Both error states wait for the vehicle to be unplugged.
  | .stateE | .stateF => handleStateEF cfg s
  | .lastState => handleLastState cfg s s.currentPwm

/-- The end of an iteration: keep the reading, and set the duty if it changed. -/
def applyPwm (s : Evse) (newPwm : ℚ) : Evse :=
  -- The next iteration compares its reading with this one.
  let s := { s with lastCpState := s.cpState }
  if newPwm ≠ s.currentPwm then { s with pwmDuty := newPwm / 10, currentPwm := newPwm } else s

/-- One iteration of the charging loop. -/
def loopEvse (cfg : Config) (i : Inputs) (s : Evse) : Evse :=
  let (s, newPwm) := dispatch cfg i (readPilot i s)
  applyPwm s newPwm

/-- The statically zeroed record before initialization, with the contactor open. -/
def boot : Evse where
  maxCurrent := 0
  maxVoltage := 0
  lastCalcTime := 0
  lastDisplayTime := 0
  overCurrentTime := 0
  measuredVoltage := 0
  measuredCurrent := 0
  measuredPower := 0
  meterEnergyDelivered := 0
  meterReading := 0
  elapseTime := 0
  currentState := .stateA
  cpState := .stateA
  lastCpState := .stateA
  currentPwm := 0
  isCharging := false
  authNeeded := false
  readyToCharge := false
  overCurrent := false
  relayOpen := true
  pwmDuty := 0
  ventilation := none
  calls := []

/-- Initialize the charging task. -/
def init (s : Evse) : Evse :=
  let s := { s with maxVoltage := 230 }
  -- A current that was configured before is kept.
  let s := if s.maxCurrent = 0 then setMaxCurrent 25 s else s
  let s :=
    { s with readyToCharge := true, currentState := .lastState, currentPwm := pwm100MaxValue }
  { s with pwmDuty := s.currentPwm / 10 }

/-- What can happen to the charging task, in any order. -/
inductive Op
  | loop (i : Inputs)
  | stopCharging (stop : Bool)
  | setMaxCurrent (maxCurrent : UInt32)
  deriving DecidableEq, Repr

/-- Start a fresh list of observable calls. -/
def Evse.fresh (s : Evse) : Evse := { s with calls := [] }

/-- Apply one operation. Its observable calls are those it makes itself. -/
def apply (cfg : Config) (s : Evse) : Op → Evse
  | .loop i => loopEvse cfg i s.fresh
  | .stopCharging stop => stopCharging stop s.fresh
  | .setMaxCurrent maxCurrent => setMaxCurrent maxCurrent s.fresh

/-- Apply operations from left to right. -/
def applyAll (cfg : Config) (s : Evse) (ops : List Op) : Evse := ops.foldl (apply cfg) s

/-- Every operation is enabled in every state. -/
def step (cfg : Config) : Transition.Step Evse Op := fun s op => some (apply cfg s op)

/-- Initialization may follow a configuration of the current. -/
def Initial (s : Evse) : Prop := ∃ maxCurrent, s = init (setMaxCurrent maxCurrent boot)

/-- The states some run of operations leads to after initialization. -/
def Reachable (cfg : Config) : Evse → Prop := Transition.Reachable Initial (step cfg)

/-- Running the partial step is folding the total one. -/
theorem run_step (cfg : Config) (s : Evse) (ops : List Op) :
    Transition.run (step cfg) s ops = some (applyAll cfg s ops) :=
  Transition.run_total

/-- Operations applied after initialization lead to a reachable state. -/
theorem reachable_applyAll (cfg : Config) (maxCurrent : UInt32) (ops : List Op) :
    Reachable cfg (applyAll cfg (init (setMaxCurrent maxCurrent boot)) ops) :=
  ⟨_, ops, ⟨maxCurrent, rfl⟩, run_step cfg _ ops⟩

/-- One more operation leads from a reachable state to a reachable state. -/
theorem Reachable.apply {cfg : Config} {s : Evse} (reached : Reachable cfg s) (op : Op) :
    Reachable cfg (apply cfg s op) :=
  Transition.Reachable.snoc reached rfl

/-- Readings that only tell the pilot: no time passes and no current flows. -/
def pilotOnly (controlPilot : ControlPilotState) : Inputs where
  msSinceBoot := 0
  controlPilot := controlPilot
  voltage := 0
  current := 0
  power := 0
  authResponse := none

/-- The shortest way from start-up to charging: plug in, be authorized, ask for power. -/
def chargingRun : List Op :=
  [.loop (pilotOnly .stateA), .loop (pilotOnly .stateB),
    .loop { pilotOnly .stateB with authResponse := some true }, .loop (pilotOnly .stateC)]

/-- A station with ventilation that has just started to charge. -/
def charging : Evse := applyAll ⟨true, false⟩ (init (setMaxCurrent 32 boot)) chargingRun

example : charging.currentState = .stateC2 ∧ charging.relayOpen = false := by decide +kernel

end EasyEvse.J1772
