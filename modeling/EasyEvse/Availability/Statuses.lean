import EasyEvse.Transition.Watch

/-! The operational status and the connector status of the parts of a charging station. -/

namespace EasyEvse.Availability
open Transition

/-- The OperationalStatusEnum type. -/
inductive OperationalStatusEnum
  | inoperative
  | operative
  deriving DecidableEq, Repr

/-- The ConnectorStatusEnum type. -/
inductive ConnectorStatusEnum
  | available
  | occupied
  | reserved
  | unavailable
  | faulted
  deriving DecidableEq, Repr

/-- The FullConnectorStatus of one connector. -/
structure FullConnectorStatus where
  individualOperationalStatus : OperationalStatusEnum
  faulted : Bool := false
  reserved : Bool := false
  occupied : Bool := false
  unavailable : Bool := false
  deriving DecidableEq, Repr

/-- The one status that is reported of a connector, however many of its flags are set. -/
def FullConnectorStatus.toConnectorStatus (s : FullConnectorStatus) : ConnectorStatusEnum :=
  -- Faulted has precedence over unavailable.
  if s.faulted then .faulted
  else if s.unavailable then .unavailable
  else if s.occupied then .occupied
  else if s.reserved then .reserved
  else .available

/-- The entries of one connector in the vectors that the component state manager keeps. -/
structure ConnectorEntry where
  individual : FullConnectorStatus
  /-- The last effective status, which the callback for this connector was told. -/
  effective : Watch OperationalStatusEnum
  /-- The last reported status, which was sent in a status notification. -/
  reported : Watch ConnectorStatusEnum
  deriving DecidableEq, Repr

/-- The entries of one EVSE in the vectors that the component state manager keeps. -/
structure EvseEntry where
  individual : OperationalStatusEnum
  /-- The last effective status, which the callback for this EVSE was told. -/
  effective : Watch OperationalStatusEnum
  /-- The connectors are numbered from one. -/
  connectors : List ConnectorEntry
  deriving DecidableEq, Repr

/-- What is inoperative makes everything below it inoperative. -/
def OperationalStatusEnum.within (own above : OperationalStatusEnum) : OperationalStatusEnum :=
  if above = .inoperative then .inoperative else own

/-- A part is effectively operative if and only if it is, and what it is part of is as well. -/
theorem OperationalStatusEnum.within_eq_operative {own above : OperationalStatusEnum} :
    own.within above = .operative ↔ above = .operative ∧ own = .operative := by
  cases above <;> simp [within]

namespace ConnectorEntry

/-- The effective status of a connector, given that of its EVSE. -/
def effectiveOperationalStatus (evse : OperationalStatusEnum) (c : ConnectorEntry) :
    OperationalStatusEnum :=
  c.individual.individualOperationalStatus.within evse

/-- Tell the callback for this connector its effective status. -/
def triggerCallbacks (evse : OperationalStatusEnum) (onlyIfStateChanged : Bool)
    (c : ConnectorEntry) : ConnectorEntry :=
  { c with effective :=
    c.effective.refresh onlyIfStateChanged true (c.effectiveOperationalStatus evse) }

/-- Send a status notification, which is not done while there is no link to the CSMS. -/
def sendStatusNotification (link onlyIfChanged : Bool) (c : ConnectorEntry) : ConnectorEntry :=
  { c with reported := c.reported.refresh onlyIfChanged link c.individual.toConnectorStatus }

/-- Change the flags of a connector and send a status notification if its status changed. -/
def update (link : Bool) (change : FullConnectorStatus → FullConnectorStatus)
    (c : ConnectorEntry) : ConnectorEntry :=
  { c with individual := change c.individual }.sendStatusNotification link true

/-- A car is plugged in or out. -/
def setOccupied (link isOccupied : Bool) (c : ConnectorEntry) : ConnectorEntry :=
  -- A connector that is reserved should not go to occupied but stay reserved.
  if c.individual.reserved then { c with individual.occupied := isOccupied }
  else c.update link fun s => { s with occupied := isOccupied }

/-- The connector is reserved, or its reservation is cleared. -/
def setReserved (link isReserved : Bool) : ConnectorEntry → ConnectorEntry :=
  update link fun s => { s with reserved := isReserved }

/-- The connector has a fault, or its fault is cleared. -/
def setFaulted (link isFaulted : Bool) : ConnectorEntry → ConnectorEntry :=
  update link fun s => { s with faulted := isFaulted }

/-- The connector is made unavailable, or available again. -/
def setUnavailable (link isUnavailable : Bool) : ConnectorEntry → ConnectorEntry :=
  update link fun s => { s with unavailable := isUnavailable }

end ConnectorEntry

namespace EvseEntry

/-- The effective status of an EVSE, given that of the charging station. -/
def effectiveOperationalStatus (cs : OperationalStatusEnum) (e : EvseEntry) :
    OperationalStatusEnum :=
  e.individual.within cs

/-- Tell the callback for this EVSE its effective status, and then those of its connectors. -/
def triggerCallbacks (cs : OperationalStatusEnum) (onlyIfStateChanged : Bool) (e : EvseEntry) :
    EvseEntry :=
  let current := e.effectiveOperationalStatus cs
  if !onlyIfStateChanged || e.effective.cached ≠ current then
    { e with
      effective := e.effective.refresh onlyIfStateChanged true current
      connectors := e.connectors.map (·.triggerCallbacks current onlyIfStateChanged) }
  -- The connectors are not looked at if the status of the EVSE is what it was.
  else e

end EvseEntry

end EasyEvse.Availability
