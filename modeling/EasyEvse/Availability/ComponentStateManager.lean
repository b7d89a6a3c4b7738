import EasyEvse.Availability.Statuses

/-! The component state manager: the statuses of a charging station and who is told of them. -/

namespace EasyEvse.Availability
open Transition

/-- What is thrown for an identifier that is out of range. -/
inductive OutOfRange
  | evse (evseId : ℤ)
  | connector (connectorId evseId : ℤ)
  deriving DecidableEq, Repr

/-- The ComponentStateManager, with the entries of all its vectors kept together. -/
structure ComponentStateManager where
  csIndividualStatus : OperationalStatusEnum
  /-- The last effective status, which the callback for the station was told. -/
  cs : Watch OperationalStatusEnum
  /-- The EVSEs are numbered from one. -/
  evses : List EvseEntry
  deriving DecidableEq, Repr

namespace ComponentStateManager

/-- A station with so many connectors at each EVSE, everything operative and nobody told. -/
def constructed (connectors : List ℕ) : ComponentStateManager where
  csIndividualStatus := .operative
  cs := { cached := .operative }
  evses := connectors.map fun count => {
    individual := .operative
    effective := { cached := .operative }
    connectors := List.replicate count {
      individual := { individualOperationalStatus := .operative }
      effective := { cached := .operative }
      reported := { cached := .available } } }

/-- The entries of an EVSE, whose identifier is checked. -/
def evseEntry (m : ComponentStateManager) (evseId : ℤ) : Except OutOfRange EvseEntry :=
  -- The identifiers begin with one, and zero is the station.
  if evseId ≤ 0 then .error (.evse evseId)
  else match m.evses[(evseId - 1).toNat]? with
    | none => .error (.evse evseId)
    | some entry => .ok entry

/-- The entries of a connector, with both identifiers checked. -/
def connectorEntry (m : ComponentStateManager) (evseId connectorId : ℤ) :
    Except OutOfRange ConnectorEntry := do
  let entry ← m.evseEntry evseId
  if connectorId ≤ 0 then .error (.connector connectorId evseId)
  else match entry.connectors[(connectorId - 1).toNat]? with
    | none => .error (.connector connectorId evseId)
    | some connector => .ok connector

/-- Change the entries of one EVSE. -/
def modifyEvse (m : ComponentStateManager) (evseId : ℤ) (change : EvseEntry → EvseEntry) :
    Except OutOfRange ComponentStateManager := do
  -- The check comes before the change, which is not made if it throws.
  let _ ← m.evseEntry evseId
  return { m with evses := m.evses.modify (evseId - 1).toNat change }

/-- Change the entries of one connector, knowing the effective status of its EVSE. -/
def modifyConnector (m : ComponentStateManager) (evseId connectorId : ℤ)
    (change : OperationalStatusEnum → ConnectorEntry → ConnectorEntry) :
    Except OutOfRange ComponentStateManager := do
  let _ ← m.connectorEntry evseId connectorId
  -- A connector is told with the status of its EVSE, as its own one depends on that.
  return { m with evses := m.evses.modify (evseId - 1).toNat fun e => { e with
    connectors := e.connectors.modify (connectorId - 1).toNat
      (change (e.effectiveOperationalStatus m.csIndividualStatus)) } }

/-- Change the entries of every connector. -/
def mapConnectors (m : ComponentStateManager) (change : ConnectorEntry → ConnectorEntry) :
    ComponentStateManager :=
  { m with evses := m.evses.map fun e => { e with connectors := e.connectors.map change } }

/-- Tell the callback for the station its status, and then those of its EVSEs. -/
def triggerCallbacksCs (onlyIfStateChanged : Bool) (m : ComponentStateManager) :
    ComponentStateManager :=
  -- What was told last is compared with what is to be told now.
  if !onlyIfStateChanged || m.cs.cached ≠ m.csIndividualStatus then
    { m with
      cs := m.cs.refresh onlyIfStateChanged true m.csIndividualStatus
      evses := m.evses.map (·.triggerCallbacks m.csIndividualStatus onlyIfStateChanged) }
  else m

/-- Set the status of the station. -/
def setCsIndividualOperationalStatus (m : ComponentStateManager)
    (newStatus : OperationalStatusEnum) : ComponentStateManager :=
  triggerCallbacksCs true { m with csIndividualStatus := newStatus }

/-- Set the status of an EVSE. -/
def setEvseIndividualOperationalStatus (m : ComponentStateManager) (evseId : ℤ)
    (newStatus : OperationalStatusEnum) : Except OutOfRange ComponentStateManager :=
  m.modifyEvse evseId fun e =>
    { e with individual := newStatus }.triggerCallbacks m.csIndividualStatus true

/-- Set the status of a connector. -/
def setConnectorIndividualOperationalStatus (m : ComponentStateManager)
    (evseId connectorId : ℤ) (newStatus : OperationalStatusEnum) :
    Except OutOfRange ComponentStateManager :=
  m.modifyConnector evseId connectorId fun evse c =>
    { c with individual.individualOperationalStatus := newStatus }.triggerCallbacks evse true

/-- What happens at a connector. -/
inductive ConnectorEvent
  | plugIn
  | plugOut
  | reserve
  | reservationCleared
  | error
  | errorCleared
  | unavailable
  | unavailableCleared
  deriving DecidableEq, Repr

/-- The flag that an event at a connector sets or clears. -/
def ConnectorEvent.submit (link : Bool) : ConnectorEvent → ConnectorEntry → ConnectorEntry
  | .plugIn => .setOccupied link true
  | .plugOut => .setOccupied link false
  | .reserve => .setReserved link true
  | .reservationCleared => .setReserved link false
  | .error => .setFaulted link true
  | .errorCleared => .setFaulted link false
  | .unavailable => .setUnavailable link true
  | .unavailableCleared => .setUnavailable link false

/-- Submit an event to a connector. -/
def submitEvent (m : ComponentStateManager) (link : Bool) (evseId connectorId : ℤ)
    (event : ConnectorEvent) : Except OutOfRange ComponentStateManager :=
  m.modifyConnector evseId connectorId fun _ => event.submit link

/-- The effective status of an EVSE. -/
def getEvseEffectiveOperationalStatus (m : ComponentStateManager) (evseId : ℤ) :
    Except OutOfRange OperationalStatusEnum := do
  return (← m.evseEntry evseId).effectiveOperationalStatus m.csIndividualStatus

/-- The effective status of a connector. -/
def getConnectorEffectiveOperationalStatus (m : ComponentStateManager)
    (evseId connectorId : ℤ) : Except OutOfRange OperationalStatusEnum := do
  let evse ← m.getEvseEffectiveOperationalStatus evseId
  -- The connector is not looked at if its EVSE is inoperative.
  if evse = .inoperative then return .inoperative
  return (← m.connectorEntry evseId connectorId).individual.individualOperationalStatus

/-- Tell every callback the effective status, changed or not. -/
def triggerAllEffectiveAvailabilityChangedCallbacks :
    ComponentStateManager → ComponentStateManager :=
  triggerCallbacksCs false

/-- Send a status notification for every connector. -/
def sendStatusNotificationAllConnectors (link : Bool) (m : ComponentStateManager) :
    ComponentStateManager :=
  m.mapConnectors (·.sendStatusNotification link false)

/-- Send a status notification for every connector whose status is not the one reported last. -/
def sendStatusNotificationChangedConnectors (link : Bool) (m : ComponentStateManager) :
    ComponentStateManager :=
  m.mapConnectors (·.sendStatusNotification link true)

/-- Send a status notification for one connector, changed or not. -/
def sendStatusNotificationSingleConnector (m : ComponentStateManager) (link : Bool)
    (evseId connectorId : ℤ) : Except OutOfRange ComponentStateManager :=
  m.modifyConnector evseId connectorId fun _ => (·.sendStatusNotification link false)

end ComponentStateManager

end EasyEvse.Availability
