import Mathlib.Data.Finmap
import EasyEvse.Ocpp.Event

/-! The transaction handler: which event of a session starts its transaction, and which stops it. -/

namespace EasyEvse.Ocpp

/-- The points at which a transaction can be configured to start or to stop. -/
inductive TxStartStopPoint
  | parkingBayOccupancy | evConnected | authorized | powerPathClosed | energyTransfer | dataSigned
  deriving DecidableEq, Repr

/-- The events that influence the start and stop conditions. -/
inductive TxEvent
  | none | evConnected | evDisconnected | authorized | deauthorized | parkingBayOccupied
  | parkingBayUnoccupied | energyTransferStarted | energyTransferStopped
  | signedStartDataReceived | immediateReset
  deriving DecidableEq, Repr

/-- What a submitted event asks the caller to do. -/
inductive TxEventEffect
  | startTransaction | stopTransaction | none
  deriving DecidableEq, Repr

/-- Why a transaction event is reported. -/
inductive TriggerReason
  | authorized | cablePluggedIn | chargingStateChanged | evCommunicationLost | meterValueClock
  | meterValuePeriodic | remoteStart | remoteStop | stopAuthorized | trigger
  deriving DecidableEq, Repr

/-- The charging state that is reported with a transaction. -/
inductive ChargingState
  | evConnected | charging | suspendedEV | suspendedEVSE | idle
  deriving DecidableEq, Repr

/-- Why a transaction is stopped. -/
inductive Reason
  | deAuthorized | emergencyStop | energyLimitReached | evDisconnected | groundFault
  | immediateReset | masterPass | «local» | localOutOfCredit | other | overcurrentFault | powerLoss
  | powerQuality | reboot | remote | socLimitReached | stoppedByEV | timeLimitReached | timeout
  deriving DecidableEq, Repr

/-- How a call can fail instead of returning. -/
inductive Fault
  /-- An index that the handler does not know. -/
  | outOfRange (what : String)
  /-- A runtime error raised on purpose. -/
  | runtimeError (what : String)
  /-- A null pointer to transaction data that is followed. -/
  | nullTransactionData
  deriving DecidableEq, Repr

/-- The conditions from which the effect of an event is derived. -/
structure TxStartStopConditions where
  isAuthorized : Bool := false
  isEvConnected : Bool := false
  isParkingBayOccupied : Bool := false
  isEnergyTransfered : Bool := false
  isSignedDataReceived : Bool := false
  isImmediateReset : Bool := false
  deriving DecidableEq, Repr

namespace TxStartStopConditions

/-- An event sets or clears the condition it is about. -/
def submitEvent (c : TxStartStopConditions) : TxEvent → TxStartStopConditions
  | .evConnected => { c with isEvConnected := true }
  -- A vehicle that leaves takes its energy transfer along, and not its authorization.
  | .evDisconnected => { c with isEvConnected := false, isEnergyTransfered := false }
  | .authorized => { c with isAuthorized := true }
  | .deauthorized => { c with isAuthorized := false }
  | .parkingBayOccupied => { c with isParkingBayOccupied := true }
  | .parkingBayUnoccupied => { c with isParkingBayOccupied := false }
  | .energyTransferStarted => { c with isEnergyTransfered := true }
  | .energyTransferStopped => { c with isEnergyTransfered := false }
  | .signedStartDataReceived => { c with isSignedDataReceived := true }
  | .immediateReset => { c with isImmediateReset := true }
  -- The event that stands for no event at all.
  | .none => c

/-- Whether a start point has been reached. -/
def isStartConditionFullfilled (c : TxStartStopConditions) : TxStartStopPoint → Bool
  | .parkingBayOccupancy => c.isParkingBayOccupied
  | .evConnected => c.isEvConnected
  | .authorized => c.isAuthorized
  -- The power path is closed for an authorized vehicle that is there.
  | .powerPathClosed => c.isAuthorized && c.isEvConnected
  | .energyTransfer => c.isEnergyTransfered
  | .dataSigned => c.isSignedDataReceived

/-- Whether a stop point has been reached. An immediate reset stops at every point. -/
def isStopConditionFullfilled (c : TxStartStopConditions) (point : TxStartStopPoint) : Bool :=
  c.isImmediateReset || match point with
    | .parkingBayOccupancy => !c.isParkingBayOccupied
    | .evConnected => !c.isEvConnected
    | .authorized => !c.isAuthorized
    | .powerPathClosed => !c.isAuthorized || !c.isEvConnected
    | .energyTransfer => !c.isEnergyTransfered
    -- No event takes signed data back.
    | .dataSigned => false

end TxStartStopConditions

/-- What the messages about one transaction need. -/
structure TransactionData where
  started : Bool := false
  connectorId : ℤ
  sessionId : String
  triggerReason : TriggerReason
  chargingState : ChargingState
  stopReason : Reason := .other
  deriving DecidableEq, Repr

/--
The conditions and the transaction data of every EVSE, under their numbers.

Looking up conditions under a new number creates them, while data has only the numbers it started
with. An entry without data is a null pointer.
-/
structure TransactionHandler where
  txStartPoints : Finset TxStartStopPoint
  txStopPoints : Finset TxStartStopPoint
  txStartStopConditions : Finmap fun _ : ℤ => TxStartStopConditions
  evseIdTransactionDataMap : Finmap fun _ : ℤ => Option TransactionData
  deriving DecidableEq

namespace TransactionHandler

variable (h : TransactionHandler) (evseId : ℤ)

/-- A handler for the EVSEs from one up to a number, without any transaction yet. -/
def new (nrOfEvses : ℤ) (txStartPoints txStopPoints : Finset TxStartStopPoint) :
    Except Fault TransactionHandler :=
  -- The points are checked before the number, and each with its own message.
  if txStartPoints = ∅ ∨ txStopPoints = ∅ then
    .error (.runtimeError
      "Cannot construct TransactionHandler with either TxStart or TxStop points being empty")
  else if nrOfEvses ≤ 0 then
    .error (.runtimeError "Cannot construct TransactionHandler with nr_of_evses <= 0")
  else
    -- The numbers start at one, and each entry starts as a null pointer.
    .ok ((List.range nrOfEvses.toNat).foldl (fun h index =>
      let evseId : ℤ := index + 1
      { h with
        txStartStopConditions := h.txStartStopConditions.insert evseId {}
        evseIdTransactionDataMap := h.evseIdTransactionDataMap.insert evseId none })
      { txStartPoints, txStopPoints, txStartStopConditions := ∅, evseIdTransactionDataMap := ∅ })

/-- The conditions of an EVSE, which are the initial ones until an event is submitted for it. -/
def conditions : TxStartStopConditions := (h.txStartStopConditions.lookup evseId).getD {}

def setTxStartPoints (txStartPoints : Finset TxStartStopPoint) : TransactionHandler :=
  { h with txStartPoints := txStartPoints }

def setTxStopPoints (txStopPoints : Finset TxStartStopPoint) : TransactionHandler :=
  { h with txStopPoints := txStopPoints }

/-- Point the entry under a number to other transaction data. -/
def setData (data : Option TransactionData) : TransactionHandler :=
  { h with evseIdTransactionDataMap := h.evseIdTransactionDataMap.insert evseId data }

/-- Put transaction data under a number, unless the number is too small or too large. -/
def addTransactionData (data : Option TransactionData) : Except Fault TransactionHandler :=
  -- The bound counts the conditions, which can be more than the handler started with.
  if evseId ≤ 0 ∨ evseId > h.txStartStopConditions.keys.card then
    .error (.outOfRange "Can not add transaction data for evse_id <= 0 or > nr_of_evses")
  else .ok (h.setData evseId data)

/-- The transaction data under a number, which may be null. -/
def getTransactionData : Except Fault (Option TransactionData) :=
  match h.evseIdTransactionDataMap.lookup evseId with
  | none => .error (.outOfRange "Attempt to get transaction_data for invalid evse_id")
  | some data => .ok data

/-- Put a null pointer under a number. -/
def resetTransactionData : Except Fault TransactionHandler :=
  match h.evseIdTransactionDataMap.lookup evseId with
  | none => .error (.outOfRange "Attempt to reset transaction_data for invalid evse_id")
  | some _ => .ok (h.setData evseId none)

/-- Whether present data that is not started meets some start point. -/
def shouldTransactionStart : Except Fault Bool :=
  match h.evseIdTransactionDataMap.lookup evseId with
  | none =>
    .error (.outOfRange "Can not retrieve if transaction should start for invalid evse_id")
  -- A null pointer neither starts nor stops anything.
  | some none => .ok false
  | some (some data) => .ok (data.started = false ∧
      ∃ point ∈ h.txStartPoints, (h.conditions evseId).isStartConditionFullfilled point)

/-- Whether present data that is started meets some stop point. -/
def shouldTransactionStop : Except Fault Bool :=
  match h.evseIdTransactionDataMap.lookup evseId with
  | none =>
    .error (.outOfRange "Can not retrieve if transaction should stop for invalid evse_id")
  | some none => .ok false
  | some (some data) => .ok (data.started = true ∧
      ∃ point ∈ h.txStopPoints, (h.conditions evseId).isStopConditionFullfilled point)

/-- Record an event in the conditions of an EVSE, which an unknown number creates. -/
def recordEvent (event : TxEvent) : TransactionHandler :=
  { h with
    txStartStopConditions :=
      h.txStartStopConditions.insert evseId ((h.conditions evseId).submitEvent event) }

/-- Submit an event. The handler keeps the event even when the call then fails. -/
def submitEvent (event : TxEvent) : TransactionHandler × Except Fault TxEventEffect :=
  -- The conditions are updated before the number is known to be valid.
  let h := h.recordEvent evseId event
  (h, do
    if ← h.shouldTransactionStart evseId then return .startTransaction
    if ← h.shouldTransactionStop evseId then return .stopTransaction
    return .none)

variable {h evseId} (event : TxEvent)

/-- Recording an event updates the conditions of its own EVSE. -/
@[simp] theorem conditions_recordEvent :
    (h.recordEvent evseId event).conditions evseId = (h.conditions evseId).submitEvent event := by
  -- What was inserted last is what is looked up.
  simp [recordEvent, conditions]

/-- Recording an event touches neither the configured points nor the transaction data. -/
@[simp] theorem recordEvent_frame :
    (h.recordEvent evseId event).txStartPoints = h.txStartPoints ∧
    (h.recordEvent evseId event).txStopPoints = h.txStopPoints ∧
    (h.recordEvent evseId event).evseIdTransactionDataMap = h.evseIdTransactionDataMap :=
  ⟨rfl, rfl, rfl⟩

/-- Pointing an entry elsewhere changes that entry alone. -/
@[simp] theorem setData_frame {data : Option TransactionData} :
    (h.setData evseId data).txStartPoints = h.txStartPoints ∧
    (h.setData evseId data).txStopPoints = h.txStopPoints ∧
    (h.setData evseId data).conditions = h.conditions ∧
    (h.setData evseId data).evseIdTransactionDataMap.lookup evseId = some data := by
  -- Only the last of these is about the data at all.
  refine ⟨rfl, rfl, rfl, ?_⟩
  simp [setData]

/-- An event has no effect on an EVSE without transaction data. -/
theorem submitEvent_null (slot : h.evseIdTransactionDataMap.lookup evseId = some none) :
    h.submitEvent evseId event = (h.recordEvent evseId event, .ok .none) := by
  -- Neither question is answered with yes for a null pointer.
  simp [submitEvent, shouldTransactionStart, shouldTransactionStop, slot, bind, Except.bind, pure,
    Except.pure]

/-- An event can only start a transaction that is not started. -/
theorem submitEvent_idle {data : TransactionData}
    (slot : h.evseIdTransactionDataMap.lookup evseId = some (some data))
    (idle : data.started = false) :
    h.submitEvent evseId event = (h.recordEvent evseId event, .ok
      (if ∃ point ∈ h.txStartPoints,
        ((h.conditions evseId).submitEvent event).isStartConditionFullfilled point
      then .startTransaction else .none)) := by
  -- Data that is not started never stops, so only the first question counts.
  simp only [submitEvent, shouldTransactionStart, shouldTransactionStop, recordEvent_frame, slot,
    conditions_recordEvent, idle]
  split_ifs <;> simp_all [bind, Except.bind, pure, Except.pure]

/-- An event can only stop a transaction that is started. -/
theorem submitEvent_started {data : TransactionData}
    (slot : h.evseIdTransactionDataMap.lookup evseId = some (some data))
    (started : data.started = true) :
    h.submitEvent evseId event = (h.recordEvent evseId event, .ok
      (if ∃ point ∈ h.txStopPoints,
        ((h.conditions evseId).submitEvent event).isStopConditionFullfilled point
      then .stopTransaction else .none)) := by
  -- Data that is started does not start again, so only the second question counts.
  simp only [submitEvent, shouldTransactionStart, shouldTransactionStop, recordEvent_frame, slot,
    conditions_recordEvent, started]
  split_ifs <;> simp_all [bind, Except.bind, pure, Except.pure]

end TransactionHandler

end EasyEvse.Ocpp
