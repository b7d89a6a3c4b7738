import Mathlib.Data.Finset.Insert

/-! The event bits the other tasks set for the OCPP task. -/

namespace EasyEvse

/-- The bits of the OCPP event group, in the order of their numbers. -/
inductive OcppEvent
  | evConnected
  | evAuthNeeded
  | evAuthorized
  | chargingStarted
  | chargingStopped
  | telemetryReady
  | evDisconnected
  | chargingStartRemote
  | chargingStopRemote
  | networkDown
  | reconnect
  deriving DecidableEq, Repr

/-- The bits set in the event group, which remembers neither order nor multiplicity. -/
abbrev EventBits := Finset OcppEvent

end EasyEvse
