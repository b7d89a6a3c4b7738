import Mathlib.Algebra.Order.Floor.Ring
import Mathlib.Data.Rat.Floor
import EasyEvse.Ocpp.Event

/-! The data of the J1772 charging task, and the duty cycles it advertises. -/

namespace EasyEvse.J1772

/-- The control-pilot reading the low-level handlers return. -/
inductive ControlPilotState
  | stateA | stateB | stateC | stateD | stateE | stateF | stateUnknown
  deriving DecidableEq, Repr

/-- The state letter of the charging state machine, in the order of the source's enumeration. -/
inductive J1772State
  | stateA | stateA2 | stateB | stateB2 | stateC | stateC2 | stateD | stateD2 | stateE | stateF
  | lastState
  deriving DecidableEq, Repr

/-- The state after this one in the enumeration, which the loop uses for C to C2 and D to D2. -/
def J1772State.next : J1772State → J1772State
  | .stateA => .stateA2
  | .stateA2 => .stateB
  | .stateB => .stateB2
  | .stateB2 => .stateC
  | .stateC => .stateC2
  | .stateC2 => .stateD
  | .stateD => .stateD2
  | .stateD2 => .stateE
  | .stateE => .stateF
  -- The enumeration ends here.
  | .stateF | .lastState => .lastState

/-- The state before this one in the enumeration, which the loop uses for C2 to C and D2 to D. -/
def J1772State.prev : J1772State → J1772State
  -- The enumeration starts here.
  | .stateA | .stateA2 => .stateA
  | .stateB => .stateA2
  | .stateB2 => .stateB
  | .stateC => .stateB2
  | .stateC2 => .stateC
  | .stateD => .stateC2
  | .stateD2 => .stateD
  | .stateE => .stateD2
  | .stateF => .stateE
  | .lastState => .stateF

/-- What the duty-cycle conversions report. -/
inductive J1772Status
  | success | error | cpReqDigitalMode
  deriving DecidableEq, Repr

/-- The calls the charging task makes that other parts of the station can observe. -/
inductive Call
  /-- A bit set in the OCPP event group. -/
  | setEvent (event : OcppEvent)
  /-- The answer of a non-blocking authorization poll: absent, or whether it was accepted. -/
  | getAuthResponse (response : Option Bool)
  /-- The contactor commanded open or closed. -/
  | setContactorState (relayOpen : Bool)
  deriving DecidableEq, Repr

/-- The build switch and the hardware table the charging task runs with. -/
structure Config where
  /-- Whether the hardware table has a ventilation function. -/
  ventilationState : Bool
  /-- Whether the measured current is compared with the configured maximum. -/
  enableOvercurrentTest : Bool
  deriving DecidableEq, Repr

/-- Everything one iteration of the loop reads from outside the charging task. -/
structure Inputs where
  /-- Milliseconds since boot, wrapping at 32 bits. -/
  msSinceBoot : UInt32
  controlPilot : ControlPilotState
  voltage : ℚ
  current : ℚ
  power : ℚ
  /-- What polling for the authorization answer would give. -/
  authResponse : Option Bool
  deriving DecidableEq, Repr

/--
The simulation record of the charging task, with its nested records flattened.

The last four fields are what the hardware and the OCPP layer have been told.
-/
structure Evse where
  maxCurrent : ℚ
  maxVoltage : ℚ
  lastCalcTime : UInt32
  lastDisplayTime : UInt32
  overCurrentTime : UInt32
  measuredVoltage : ℚ
  measuredCurrent : ℚ
  measuredPower : ℚ
  meterEnergyDelivered : ℚ
  meterReading : ℚ
  elapseTime : UInt32
  currentState : J1772State
  cpState : ControlPilotState
  lastCpState : ControlPilotState
  /-- The duty in tenths of a percent. -/
  currentPwm : ℚ
  isCharging : Bool
  authNeeded : Bool
  readyToCharge : Bool
  overCurrent : Bool
  /-- The last argument of the contactor function: open, or closed and delivering. -/
  relayOpen : Bool
  /-- The last argument of the duty function. -/
  pwmDuty : ℚ
  /-- The last argument of the ventilation function, if it was ever called. -/
  ventilation : Option Bool
  /-- The calls made by the current activation of the task, oldest first. -/
  calls : List Call
  deriving DecidableEq, Repr

def bcDisplayIntervalMs : UInt32 := 2000

def bcMeasureIntervalMs : UInt32 := 100

/-- Duties from this value on count as a pilot without pulses. -/
def pwm100MinValue : ℚ := 980

/-- The duty of a pilot held high. -/
def pwm100MaxValue : ℚ := 1000

/-- Currents below this value allow the supply to stay on when the vehicle stops drawing. -/
def minCurrentDrawBeforeDisconnectSeq7 : ℚ := 1

def overcurrentProtectionTimeoutMs : UInt32 := 1000

/-- Conversion of a non-negative reading to an eight-bit unsigned integer. -/
def toUint8 (value : ℚ) : ℚ := ((value.floor.toNat % 256 : ℕ) : ℚ)

/-- Energy in watt-hours for a time interval in milliseconds. -/
def calculateEnergy (current voltage timeInterval : ℚ) : ℚ :=
  current * voltage * timeInterval / 1000 / 3600

/-- Decode a duty in percent, given what the result variable held before. -/
def getAmpsFromDutyCycle (dutyCycle amps : ℚ) : J1772Status × ℚ :=
  -- The ranges are looked at from below, and each leaves its lower end to the one before.
  if dutyCycle < 3 then (.success, 0)
  -- A duty that asks for digital communication tells no current.
  else if 3 ≤ dutyCycle ∧ dutyCycle ≤ 7 then (.cpReqDigitalMode, amps)
  else if 7 < dutyCycle ∧ dutyCycle < 8 then (.success, 0)
  else if 8 ≤ dutyCycle ∧ dutyCycle < 10 then (.success, 6)
  -- The two linear ranges drop the fraction of the duty first.
  else if dutyCycle < 85 then (.success, toUint8 dutyCycle * (3 / 5))
  else if dutyCycle < 97 then (.success, toUint8 (dutyCycle - 64) * (5 / 2))
  else if dutyCycle = 100 then (.success, 0)
  else (.error, amps)

/-- Encode a current in amperes, given what the result variable held before. -/
def getDutyCycleFromAmps (amps dutyCycle : ℚ) : J1772Status × ℚ :=
  -- Currents that no duty can tell leave the result variable alone, or clear it.
  if amps < 6 then (.error, dutyCycle)
  -- The two linear ranges drop a fraction: of the current, or of the duty.
  else if 6 ≤ amps ∧ amps < 51 then (.success, toUint8 amps / (3 / 5))
  else if 51 ≤ amps ∧ amps ≤ 81 then (.success, toUint8 (amps / (5 / 2) + 64))
  else (.error, 0)

/-- The duty in tenths of a percent that the loop computes from the configured current. -/
def dutyCyclePerMil (maxCurrent : ℚ) : ℚ :=
  -- The loop starts from zero and does not look at the status.
  (getDutyCycleFromAmps maxCurrent 0).2 * 10

end EasyEvse.J1772
