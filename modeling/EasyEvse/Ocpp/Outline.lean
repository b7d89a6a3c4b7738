import EasyEvse.Ocpp.Session

/-! What matters of a session: five flags, and how each event moves them. -/

namespace EasyEvse.Ocpp

/-- The state of a session without its identifiers, reasons and messages. -/
structure Outline where
  /-- A vehicle is plugged in and its session is running. -/
  running : Bool := false
  /-- The running session has a transaction that is not finished. -/
  isOpen : Bool := false
  /-- The running session was told that the vehicle is authorized. -/
  authorized : Bool := false
  /-- The running session was told that the contactor is closed. -/
  charging : Bool := false
  /-- The last answer from the management system was an acceptance. -/
  accepted : Bool := false
  deriving DecidableEq, Repr

namespace Outline

/-- A report on charging finishes the transaction of a session that is not authorized. -/
def report (o : Outline) : Outline := { o with isOpen := o.isOpen && o.authorized }

/-- How an event moves the flags. -/
def handle (o : Outline) : OcppEvent → Outline
  -- A running session keeps its transaction, and a new one is not authorized.
  | .evConnected =>
    if o.running then o else { o with running := true, isOpen := true, authorized := false }
  | .evAuthorized => if o.running then { o with authorized := o.accepted } else o
  -- The three reports from elsewhere do not count as charging.
  | .chargingStarted => if o.running then { o.report with charging := true } else o
  | .chargingStartRemote | .chargingStopRemote => if o.running then o.report else o
  | .chargingStopped =>
    if o.running && o.charging then { o.report with charging := false } else o
  -- Nothing is left of a session that ends.
  | .evDisconnected => {}
  | .evAuthNeeded | .telemetryReady | .networkDown | .reconnect => o

/-- The events whose handling follows the pointer to the data of a finished transaction. -/
def Faults (o : Outline) : OcppEvent → Prop
  -- A stop on the spot is only reported to a session that was told of the start.
  | .chargingStopped => o.running = true ∧ o.charging = true ∧ o.isOpen = false
  | .chargingStopRemote => o.running = true ∧ o.isOpen = false
  | _ => False

instance : ∀ (o : Outline) event, Decidable (o.Faults event)
  | _, .chargingStopped => inferInstanceAs (Decidable (_ ∧ _ ∧ _))
  | _, .chargingStopRemote => inferInstanceAs (Decidable (_ ∧ _))
  | _, .evConnected | _, .evAuthNeeded | _, .evAuthorized | _, .chargingStarted
  | _, .telemetryReady | _, .evDisconnected | _, .chargingStartRemote | _, .networkDown
  | _, .reconnect => isFalse id

end Outline

/-- The transaction data of the session's EVSE, if it has any. -/
def TransactionHandler.transactionData (h : TransactionHandler) : Option TransactionData :=
  (h.evseIdTransactionDataMap.lookup evseId).join

/-- The flags of a session. -/
def Session.outline (s : Session) : Outline where
  -- The handler is there exactly as long as the session is.
  running := s.transactionHandler.isSome
  -- The data of a transaction is dropped when it is finished.
  isOpen := s.transactionHandler.elim false (·.transactionData.isSome)
  authorized := s.transactionHandler.elim false fun h => (h.conditions evseId).isAuthorized
  charging := s.sessionStarted
  accepted := s.isEvAuthorized

/--
A handler in the middle of a session, with the log of the stack it reports to.

Between two events every transaction it still has data for was started.
-/
structure InSession (c : ChargePoint) (h : TransactionHandler) : Prop where
  -- The handler is configured as the task configures it.
  startPoints : h.txStartPoints = startPoints
  stopPoints : h.txStopPoints = stopPoints
  -- Nothing but the end of the session submits the end of the connection.
  connected : (h.conditions evseId).isEvConnected = true
  unreset : (h.conditions evseId).isImmediateReset = false
  -- The only EVSE has an entry, which may be null.
  slot : h.evseIdTransactionDataMap.lookup evseId = some h.transactionData
  started : ∀ data ∈ h.transactionData, data.started = true
  -- A transaction is open at the stack exactly while there is data.
  kept : Transition.Kept ChargePointCall.Starts ChargePointCall.Finishes c.calls
    h.transactionData.isSome

/-- The flags of the task agree with its handler, and its calls with both. -/
structure Session.Sound (s : Session) : Prop where
  -- The flag and the handler are set and cleared together.
  plugged : s.evPluggedIn = s.transactionHandler.isSome
  charging : s.sessionStarted = true → s.evPluggedIn = true
  idle : s.transactionHandler = none →
    Transition.Kept ChargePointCall.Starts ChargePointCall.Finishes s.chargePoint.calls false
  inSession : ∀ h ∈ s.transactionHandler, InSession s.chargePoint h

/-- An initial session is sound. -/
theorem Session.sound_init : ({} : Session).Sound where
  plugged := rfl
  charging := by simp
  idle _ := .start
  inSession := by simp

end EasyEvse.Ocpp
