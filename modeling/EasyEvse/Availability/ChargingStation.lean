import EasyEvse.Availability.ComponentStateManager
import EasyEvse.Csms.ChargePoint
import EasyEvse.Transition.Run
import Mathlib.Data.Finset.Basic

/-! The functional blocks that change what is operative, and the transactions they wait for. -/

namespace EasyEvse.Availability
open Transition
open Csms (RegistrationStatusEnum)

/-- The part of the station that a request addresses, which is an EVSE or one of its connectors. -/
structure EVSE where
  id : ℤ
  connectorId : Option ℤ := none
  deriving DecidableEq, Repr

/-- A request to change what is operative. It addresses the whole station if it names no EVSE. -/
structure ChangeAvailabilityRequest where
  operationalStatus : OperationalStatusEnum
  evse : Option EVSE := none
  deriving DecidableEq, Repr

/-- A change of availability that waits for a transaction to end. -/
structure AvailabilityChange where
  request : ChangeAvailabilityRequest
  persist : Bool
  deriving DecidableEq, Repr

/-- The ChangeAvailabilityStatusEnum and ResetStatusEnum types, which have the same members. -/
inductive RequestStatusEnum
  | accepted
  | rejected
  | scheduled
  deriving DecidableEq, Repr

/-- The ResetEnum type. -/
inductive ResetEnum
  | immediate
  | onIdle
  deriving DecidableEq, Repr

/-- The FirmwareStatusEnum type. -/
inductive FirmwareStatusEnum
  | downloaded
  | downloadFailed
  | downloading
  | downloadScheduled
  | downloadPaused
  | idle
  | installationFailed
  | installing
  | installed
  | installRebooting
  | installScheduled
  | installVerificationFailed
  | invalidSignature
  | signatureVerified
  deriving DecidableEq, Repr

/-- The states in which a firmware update ends. -/
def firmwareStatusEndStates : List FirmwareStatusEnum :=
  [.downloadFailed, .installationFailed, .installed, .installVerificationFailed, .invalidSignature]

/-- What the blocks answer to the CSMS and what they ask of the application. -/
inductive Output
  | changeAvailabilityResponse (status : RequestStatusEnum)
  | resetResponse (status : RequestStatusEnum)
  | resetCallback (evseId : Option ℤ) (type : ResetEnum)
  | stopTransactionCallback (evseId : ℤ)
  | allConnectorsUnavailableCallback
  | firmwareStatusNotification (status : FirmwareStatusEnum) (requestId : Option ℤ)
  deriving DecidableEq, Repr

/-- The station as the availability, transaction, provisioning and firmware blocks see it. -/
structure ChargingStation where
  manager : ComponentStateManager
  /-- The connector of the transaction that is active on an EVSE. -/
  transaction : ℤ → Option ℤ := fun _ => none
  /-- The changes that wait, by the EVSE they address, or by zero for the whole station. -/
  scheduledChangeAvailabilityRequests : ℤ → Option AvailabilityChange := fun _ => none
  resetScheduled : Bool := false
  resetScheduledEvseids : Finset ℤ := ∅
  firmwareStatus : FirmwareStatusEnum := .idle
  firmwareStatusId : Option ℤ := none
  firmwareStatusBeforeInstalling : FirmwareStatusEnum := .signatureVerified
  websocketConnected : Bool := false
  registrationStatus : RegistrationStatusEnum := .rejected
  /-- When the connection was lost, or zero. -/
  timeDisconnected : ℕ := 0
  /-- The oldest comes first. -/
  outputs : List Output := []

namespace ChargingStation

/-- The station once it is started: every callback was told that its part is operative. -/
def started (connectors : List ℕ) : ChargingStation where
  manager :=
    (ComponentStateManager.constructed connectors).triggerAllEffectiveAvailabilityChangedCallbacks

/-- A status notification is sent and not dropped. -/
def link (s : ChargingStation) : Bool := s.websocketConnected && s.registrationStatus = .accepted

/-- Answer the CSMS or ask something of the application. -/
def output (s : ChargingStation) (output : Output) : ChargingStation :=
  { s with outputs := s.outputs ++ [output] }

/-- The identifiers of the EVSEs. -/
def evseIds (s : ChargingStation) : List ℤ :=
  (List.range s.manager.evses.length).map fun i : ℕ => (i : ℤ) + 1

/-- The identifiers of the connectors of an EVSE. -/
def connectorIds (s : ChargingStation) (evseId : ℤ) : Except OutOfRange (List ℤ) := do
  let entry ← s.manager.evseEntry evseId
  return (List.range entry.connectors.length).map fun i : ℕ => (i : ℤ) + 1

/-- Let the component state manager do something. -/
def manage (s : ChargingStation)
    (operate : ComponentStateManager → Except OutOfRange ComponentStateManager) :
    Except OutOfRange ChargingStation := do
  return { s with manager := ← operate s.manager }

/-- The EVSE has an active transaction. -/
def hasActiveTransaction (s : ChargingStation) (evseId : ℤ) : Bool :=
  (s.transaction evseId).isSome

/-- The connector has an active transaction. -/
def hasActiveTransactionAt (s : ChargingStation) (evseId connectorId : ℤ) : Bool :=
  s.transaction evseId = some connectorId

/-- What is addressed has an active transaction on it. -/
def anyTransactionActive (s : ChargingStation) : Option EVSE → Except OutOfRange Bool
  | none => return s.evseIds.any s.hasActiveTransaction
  | some evse => do
    -- The transaction of the EVSE counts, even if one of its connectors is addressed.
    let _ ← s.manager.evseEntry evse.id
    return s.hasActiveTransaction evse.id

/-- An EVSE can be addressed. -/
def doesEvseExist (s : ChargingStation) (id : ℤ) : Bool :=
  -- Zero passes, since it stands for the whole station in other requests.
  0 ≤ id && id ≤ (s.manager.evses.length : ℤ)

/-- What is addressed exists. -/
def isValidEvse (s : ChargingStation) (evse : EVSE) : Except OutOfRange Bool :=
  if s.doesEvseExist evse.id then
    match evse.connectorId with
    | none => return true
    | some connectorId => do
      let entry ← s.manager.evseEntry evse.id
      -- The comparison is unsigned, which makes a negative identifier too large.
      return 0 ≤ connectorId && connectorId ≤ (entry.connectors.length : ℤ)
  else return false

/-- Every connector of the station is effectively inoperative. -/
def areAllConnectorsEffectivelyInoperative (s : ChargingStation) : Except OutOfRange Bool :=
  s.evseIds.allM fun evseId => do
    (← s.connectorIds evseId).allM fun connectorId => do
      return (← s.manager.getConnectorEffectiveOperationalStatus evseId connectorId) ≠ .operative

/-- Call the application if there is nothing left that is operative. -/
def reportAllUnavailable (s : ChargingStation) : Except OutOfRange ChargingStation := do
  if ← s.areAllConnectorsEffectivelyInoperative then
    return s.output .allConnectorsUnavailableCallback
  else return s

/-- Make every connector of an EVSE inoperative. -/
def setEvseConnectorsUnavailable (s : ChargingStation) (evseId : ℤ) :
    Except OutOfRange ChargingStation := do
  (← s.connectorIds evseId).foldlM (fun s connectorId => s.manage fun m =>
    m.setConnectorIndividualOperationalStatus evseId connectorId .inoperative) s

/-- What is addressed is in the requested state already, by its own status. -/
def isAlreadyInState (s : ChargingStation) (request : ChangeAvailabilityRequest) :
    Except OutOfRange Bool :=
  match request.evse with
  | none => return s.manager.csIndividualStatus = request.operationalStatus
  | some { id, connectorId := none } => do
    return (← s.manager.evseEntry id).individual = request.operationalStatus
  | some { id, connectorId := some connectorId } => do
    let connector ← s.manager.connectorEntry id connectorId
    return connector.individual.individualOperationalStatus = request.operationalStatus

/-- Set the status of what is addressed. -/
def executeChangeAvailabilityRequest (s : ChargingStation)
    (request : ChangeAvailabilityRequest) : Except OutOfRange ChargingStation :=
  s.manage fun m => match request.evse with
    | none => return m.setCsIndividualOperationalStatus request.operationalStatus
    | some { id, connectorId := none } =>
      m.setEvseIndividualOperationalStatus id request.operationalStatus
    | some { id, connectorId := some connectorId } =>
      m.setConnectorIndividualOperationalStatus id connectorId request.operationalStatus

/-- Remove a change that waits, or let one wait in place of any that did. -/
def schedule (s : ChargingStation) (evseId : ℤ) (change : Option AvailabilityChange) :
    ChargingStation :=
  { s with scheduledChangeAvailabilityRequests :=
    Function.update s.scheduledChangeAvailabilityRequests evseId change }

/-- Keep transactions from starting on what is addressed until the change can be made. -/
def preventTransactions (s : ChargingStation) (evseId : ℤ) :
    Except OutOfRange ChargingStation := do
  if evseId = 0 then
    s.evseIds.foldlM (fun s id =>
      -- An EVSE that charges goes on, and its connectors with it.
      if s.hasActiveTransaction id then return s
      else s.manage fun m => m.setEvseIndividualOperationalStatus id .inoperative) s
  else
    (← s.connectorIds evseId).foldlM (fun s id =>
      if s.hasActiveTransactionAt evseId id then return s
      else s.manage fun m =>
        m.setConnectorIndividualOperationalStatus evseId id .inoperative) s

/-- Handle a ChangeAvailability request of the CSMS. -/
def handleChangeAvailabilityReq (s : ChargingStation) (msg : ChangeAvailabilityRequest) :
    Except OutOfRange ChargingStation := do
  let valid ← msg.evse.elim (return true) s.isValidEvse
  if !valid then return s.output (.changeAvailabilityResponse .rejected)
  let transactionActive ← s.anyTransactionActive msg.evse
  let isAlreadyInState ← s.isAlreadyInState msg
  let evseId := (msg.evse.map EVSE.id).getD 0
  if !transactionActive || isAlreadyInState ||
      (evseId = 0 && msg.operationalStatus = .operative) then
    -- The request overrides the one that waits, even if it is not executed itself.
    let s := (s.schedule evseId none).output (.changeAvailabilityResponse .accepted)
    if transactionActive then return s else s.executeChangeAvailabilityRequest msg
  else
    let s := (s.schedule evseId (some { request := msg, persist := true })).output
      (.changeAvailabilityResponse .scheduled)
    s.preventTransactions evseId

/-- Make the change that waits for an EVSE or for the station, unless it has to wait longer. -/
def handleScheduledChangeAvailabilityRequests (s : ChargingStation) (evseId : ℤ) :
    Except OutOfRange ChargingStation :=
  match s.scheduledChangeAvailabilityRequests evseId with
  | none => return s
  | some change => do
    -- It stays scheduled, and is looked at again when the next transaction ends.
    if ← s.anyTransactionActive change.request.evse then return s
    else
      let s ← s.executeChangeAvailabilityRequest change.request
      (s.schedule evseId none).reportAllUnavailable

/-- A transaction is opened on a connector. -/
def onTransactionStarted (s : ChargingStation) (evseId connectorId : ℤ) :
    Except OutOfRange ChargingStation := do
  -- A connector that is not there throws before anything is opened.
  let _ ← s.manager.connectorEntry evseId connectorId
  return { s with transaction := Function.update s.transaction evseId (some connectorId) }

/-- A reset that waits is asked for, if the end of the transaction is what it waits for. -/
def resetIfScheduled (s : ChargingStation) (evseId : ℤ) : Except OutOfRange ChargingStation := do
  if !s.resetScheduled then return s
  else if s.resetScheduledEvseids = ∅ then
    -- The whole station waits for the last of its EVSEs to stop charging.
    if s.evseIds.any s.hasActiveTransaction then s.setEvseConnectorsUnavailable evseId
    else return { s.output (.resetCallback none .onIdle) with resetScheduled := false }
  else if evseId ∈ s.resetScheduledEvseids then
    return { s.output (.resetCallback (some evseId) .onIdle) with
      resetScheduledEvseids := s.resetScheduledEvseids.erase evseId
      resetScheduled := s.resetScheduledEvseids.erase evseId ≠ ∅ }
  else return s

/-- The transaction of an EVSE is closed and released, and what waited for that is done. -/
def onTransactionFinished (s : ChargingStation) (evseId : ℤ) :
    Except OutOfRange ChargingStation := do
  let _ ← s.manager.evseEntry evseId
  -- Without a transaction there is nothing to end, and nothing waited for it.
  if !s.hasActiveTransaction evseId then return s
  else
    let s := { s with transaction := Function.update s.transaction evseId none }
    let s ← s.resetIfScheduled evseId
    -- What waited for this EVSE comes before what waited for the whole station.
    let s ← s.handleScheduledChangeAvailabilityRequests evseId
    s.handleScheduledChangeAvailabilityRequests 0

/-- The EVSEs that a reset is about, with an active transaction and without. -/
def resetEvses (s : ChargingStation) (evseId : Option ℤ) : List ℤ × List ℤ :=
  match evseId.filter s.hasActiveTransaction with
  | some id => ([id], [])
  -- An EVSE without a transaction is treated as if the whole station were addressed.
  | none => s.evseIds.partition s.hasActiveTransaction

/-- Remember that a reset waits for transactions to end. -/
def scheduleReset (s : ChargingStation) (evseId : Option ℤ) : ChargingStation :=
  { s with
    resetScheduled := true
    resetScheduledEvseids := evseId.elim s.resetScheduledEvseids
      (insert · s.resetScheduledEvseids) }

/-- Handle a Reset request of the CSMS, which the application and a variable may forbid. -/
def handleResetReq (s : ChargingStation) (evseId : Option ℤ) (type : ResetEnum)
    (isResetAllowed : Bool) : Except OutOfRange ChargingStation := do
  let _ ← evseId.mapM s.manager.evseEntry
  let evses := s.resetEvses evseId
  if !isResetAllowed then return s.output (.resetResponse .rejected)
  else match type with
  | .immediate =>
    let s := s.output (.resetResponse .accepted)
    -- The transactions are stopped by the application, which is told of each.
    let s := evses.1.foldl (fun s id => s.output (.stopTransactionCallback id)) s
    return s.output (.resetCallback evseId .immediate)
  | .onIdle =>
    -- With nothing active a reset on idle is one that can be done at once.
    if evses.1 = [] then
      return (s.output (.resetResponse .accepted)).output (.resetCallback evseId .immediate)
    else
      evses.2.foldlM setEvseConnectorsUnavailable
        ((s.scheduleReset evseId).output (.resetResponse .scheduled))

/-- Make every connector inoperative for a firmware update, as soon as its EVSE is not used. -/
def changeAllConnectorsToUnavailableForFirmwareUpdate (s : ChargingStation) :
    Except OutOfRange ChargingStation := do
  if ← s.anyTransactionActive none then
    s.evseIds.foldlM (fun s id =>
      -- A change that waits for the same EVSE already is overwritten.
      if s.hasActiveTransaction id then
        return s.schedule id (some {
          request := { operationalStatus := .inoperative, evse := some { id } }
          persist := false })
      else s.setEvseConnectorsUnavailable id) s
  else
    let s ← s.evseIds.foldlM setEvseConnectorsUnavailable s
    s.reportAllUnavailable

/-- Set every connector to its persisted status, which is operative on this platform. -/
def restoreAllConnectorStates (s : ChargingStation) : Except OutOfRange ChargingStation :=
  s.evseIds.foldlM (fun s evseId => do
    (← s.connectorIds evseId).foldlM (fun s connectorId => s.manage fun m =>
      m.setConnectorIndividualOperationalStatus evseId connectorId .operative) s) s

/-- Handle an UpdateFirmware request, as far as it is remembered which status comes last. -/
def handleFirmwareUpdateReq (s : ChargingStation) (signed : Bool) : ChargingStation :=
  { s with firmwareStatusBeforeInstalling := if signed then .signatureVerified else .downloaded }

/-- At the end of a firmware update the connectors are restored. -/
def restoreAtEnd (s : ChargingStation) (status : FirmwareStatusEnum) :
    Except OutOfRange ChargingStation :=
  if status ∈ firmwareStatusEndStates then s.restoreAllConnectorStates else return s

/-- Before the installation everything is made inoperative, for which transactions are awaited. -/
def prepareInstallation (s : ChargingStation) (status : FirmwareStatusEnum)
    (requestId : Option ℤ) : Except OutOfRange ChargingStation :=
  if s.firmwareStatusBeforeInstalling = status then
    if s.evseIds.any s.hasActiveTransaction then
      changeAllConnectorsToUnavailableForFirmwareUpdate <|
        { s with firmwareStatus := .installScheduled }.output
          (.firmwareStatusNotification .installScheduled requestId)
    else s.changeAllConnectorsToUnavailableForFirmwareUpdate
  else return s

/-- The application tells how far the firmware update is. -/
def onFirmwareUpdateStatusNotification (s : ChargingStation) (requestId : ℤ)
    (firmwareUpdateStatus : FirmwareStatusEnum) : Except OutOfRange ChargingStation := do
  -- An application that names no request repeats the status of the one there was.
  if s.firmwareStatus = firmwareUpdateStatus ∧
      (requestId = -1 ∨ s.firmwareStatusId = some requestId) then return s
  else
    let named : Option ℤ := if requestId = -1 then none else some requestId
    let s := { s with
      firmwareStatus := firmwareUpdateStatus
      firmwareStatusId := if requestId = -1 then s.firmwareStatusId else some requestId }
    let s := s.output (.firmwareStatusNotification firmwareUpdateStatus named)
    let s ← s.restoreAtEnd firmwareUpdateStatus
    s.prepareInstallation firmwareUpdateStatus named

/-- How long the station may be offline before everything is reported again, in nanoseconds. -/
def offlineThreshold : ℕ := 60 * 10 ^ 9

/-- The connection is established. -/
def websocketConnectedCallback (s : ChargingStation) (now : ℕ) : ChargingStation :=
  let s := { s with websocketConnected := true }
  let s :=
    if s.registrationStatus = .accepted ∧ s.timeDisconnected ≠ 0 then
      { s with manager :=
        -- A station that was offline for long reports even what did not change.
        if offlineThreshold < now - s.timeDisconnected then
          s.manager.sendStatusNotificationAllConnectors s.link
        else s.manager.sendStatusNotificationChangedConnectors s.link }
    else s
  { s with timeDisconnected := 0 }

/-- The connection is lost. -/
def websocketDisconnectedCallback (s : ChargingStation) (now : ℕ) : ChargingStation :=
  { s with websocketConnected := false, timeDisconnected := now }

/-- What happens to the station. -/
inductive Input
  | changeAvailability (request : ChangeAvailabilityRequest)
  | reset (evseId : Option ℤ) (type : ResetEnum) (isResetAllowed : Bool)
  | updateFirmware (signed : Bool)
  | triggerStatusNotification (evseId connectorId : ℤ)
  | bootNotificationResponse (status : RegistrationStatusEnum)
  | transactionStarted (evseId connectorId : ℤ)
  | transactionFinished (evseId : ℤ)
  | connectorEvent (evseId connectorId : ℤ) (event : ComponentStateManager.ConnectorEvent)
  | firmwareUpdateStatus (requestId : ℤ) (status : FirmwareStatusEnum)
  | connected (now : ℕ)
  | disconnected (now : ℕ)
  deriving DecidableEq, Repr

/-- What is done about an input, which may throw. -/
def handle (s : ChargingStation) : Input → Except OutOfRange ChargingStation
  | .changeAvailability request => s.handleChangeAvailabilityReq request
  | .reset evseId type isResetAllowed => s.handleResetReq evseId type isResetAllowed
  | .updateFirmware signed => return s.handleFirmwareUpdateReq signed
  | .triggerStatusNotification evseId connectorId =>
    s.manage fun m => m.sendStatusNotificationSingleConnector s.link evseId connectorId
  | .bootNotificationResponse registrationStatus => return { s with registrationStatus }
  | .transactionStarted evseId connectorId => s.onTransactionStarted evseId connectorId
  | .transactionFinished evseId => s.onTransactionFinished evseId
  | .connectorEvent evseId connectorId event =>
    s.manage fun m => m.submitEvent s.link evseId connectorId event
  | .firmwareUpdateStatus requestId status => s.onFirmwareUpdateStatusNotification requestId status
  | .connected now => return s.websocketConnectedCallback now
  | .disconnected now => return s.websocketDisconnectedCallback now

/-- One input is handled. Everything that throws does so before it has changed anything. -/
def step (s : ChargingStation) (input : Input) : Option ChargingStation :=
  match s.handle input with
  | .ok next => some next
  | .error _ => some s

end ChargingStation

end EasyEvse.Availability
