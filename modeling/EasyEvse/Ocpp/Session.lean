import EasyEvse.Ocpp.ChargePoint

/-! The session task: what it does with each event of a batch, in the order it looks at them. -/

namespace EasyEvse.Ocpp

/-- The number of the only EVSE. -/
def evseId : ℤ := 1

/-- The number of its only connector. -/
def connectorId : ℤ := 1

/-- Transactions start with the connection of a vehicle or with its authorization. -/
def startPoints : Finset TxStartStopPoint := {.evConnected, .authorized}

/-- Transactions stop when the power path opens. -/
def stopPoints : Finset TxStartStopPoint := {.powerPathClosed}

/-- What handling an event reads from outside the session task. -/
structure HandlerInputs where
  /-- The identifier generated for a new session. -/
  uuid : String
  /-- Seconds of the Unix clock. -/
  unixTime : UInt32
  /-- Whether a token is available locally. -/
  localToken : Bool
  deriving DecidableEq, Repr

/-- What the session task remembers, with the stack it drives. -/
structure Session where
  transactionHandler : Option TransactionHandler := none
  evPluggedIn : Bool := false
  sessionStarted : Bool := false
  isEvAuthorized : Bool := false
  lastAuthTime : UInt32 := 0
  disconnectRequested : Bool := false
  chargePoint : ChargePoint := {}
  deriving DecidableEq

/-- Change transaction data through its pointer, unless the pointer is null. -/
def TransactionHandler.modifyTransactionData (h : TransactionHandler)
    (change : TransactionData → TransactionData) : TransactionHandler :=
  -- The pointer is shared, so a change is seen through the map.
  match h.evseIdTransactionDataMap.lookup evseId with
  | some (some data) => h.setData evseId (some (change data))
  | _ => h

/-- Carry out what a submitted event asks for. -/
def processTxEventEffect (txEventEffect : TxEventEffect) (c : ChargePoint)
    (h : TransactionHandler) : Except Fault (ChargePoint × TransactionHandler) :=
  -- Only an effect looks for data, and raises the error if there is none.
  if txEventEffect = .none then .ok (c, h)
  else do
    let some data ← h.getTransactionData evseId
      | throw (.runtimeError "Could not start transaction because no transaction data is present")
    -- The stack is told first, and the data is marked or dropped after that.
    if txEventEffect = .startTransaction then
      return (c.onTransactionStarted data.connectorId data.sessionId data.triggerReason
        data.chargingState, h.modifyTransactionData fun data => { data with started := true })
    else
      return (c.onTransactionFinished data.stopReason data.triggerReason data.chargingState,
        ← h.resetTransactionData evseId)

/-- Report that charging started, on the spot or from remote. -/
def processChargingStarted (remoteStart : Bool) (c : ChargePoint) (h : TransactionHandler) :
    Except Fault (ChargePoint × TransactionHandler) := do
  -- The pointer is checked here before it is followed.
  let _ ← h.getTransactionData evseId
  let h := h.modifyTransactionData fun data => { data with
    chargingState := .charging
    triggerReason := if remoteStart then .remoteStart else .chargingStateChanged }
  let (h, txEventEffect) := h.submitEvent evseId .energyTransferStarted
  -- The report can end the transaction of a vehicle that is not authorized.
  let (c, h) ← processTxEventEffect (← txEventEffect) c h
  return (c.onChargingStateChanged .charging, h)

/-- Report that charging ended, following the pointer to the data it had at the beginning. -/
def processChargingEnded (remoteStop : Bool) (c : ChargePoint) (h : TransactionHandler) :
    Except Fault (ChargePoint × TransactionHandler) := do
  -- A pointer taken now still points to the data when the map has dropped it.
  let change := fun data : TransactionData => { data with
    triggerReason := if remoteStop then .remoteStop else .stopAuthorized
    chargingState := .evConnected }
  let transactionData := (← h.getTransactionData evseId).map change
  let h := h.modifyTransactionData change
  let (h, txEventEffect) := h.submitEvent evseId .energyTransferStopped
  let (c, h) ← processTxEventEffect (← txEventEffect) c h
  match transactionData with
  -- There is no check here, unlike at the beginning.
  | none => throw .nullTransactionData
  | some data => return (c.onChargingStateChanged data.chargingState, h)

/-- Forget the session of the vehicle that left. -/
def resetSessionState (s : Session) : Session :=
  { s with evPluggedIn := false, isEvAuthorized := false, sessionStarted := false,
           lastAuthTime := 0 }

/-- The transaction data of a vehicle that was just connected. -/
def newTransactionData (sessionId : String) : TransactionData where
  connectorId := connectorId
  sessionId := sessionId
  triggerReason := .cablePluggedIn
  chargingState := .evConnected

namespace Session

variable (i : HandlerInputs) (s : Session)

/-- A vehicle was connected: start a session, unless one is running. -/
def handleEvConnected : Except Fault Session :=
  match s.transactionHandler with
  -- The vehicle that is there keeps its session, and its transaction.
  | some _ => .ok s
  | none => do
    -- The identifier was generated already, whether it is used or not.
    let h ← TransactionHandler.new 1 startPoints stopPoints
    let h ← h.addTransactionData evseId (some (newTransactionData i.uuid))
    let (h, txEventEffect) := h.submitEvent evseId .evConnected
    let (c, h) ← processTxEventEffect (← txEventEffect) s.chargePoint h
    return { s with
      transactionHandler := some h, chargePoint := c.record .onSessionStarted, evPluggedIn := true }

/-- The vehicle has to be authorized: send its token, if there is one. -/
def handleEvAuthNeeded : Session :=
  -- Without a vehicle, or without a token, there is only a warning.
  if s.evPluggedIn ∧ i.localToken then
    { s with chargePoint := s.chargePoint.onAuthorized, lastAuthTime := i.unixTime }
  else s

/-- An answer came: record it, and discard the effect it has. -/
def handleEvAuthorized : Except Fault Session :=
  match s.transactionHandler with
  | none => .ok s
  | some h => do
    let (h, txEventEffect) :=
      h.submitEvent evseId (if s.isEvAuthorized then .authorized else .deauthorized)
    -- An effect that is discarded is computed again by the next event.
    let _ ← txEventEffect
    return { s with transactionHandler := some h }

/-- The contactor was closed. -/
def handleChargingStarted : Except Fault Session :=
  -- Without a vehicle or a handler there is only a warning.
  match s.evPluggedIn, s.transactionHandler with
  | true, some h => do
    let (c, h) ← processChargingStarted false s.chargePoint h
    return { s with transactionHandler := some h, chargePoint := c, sessionStarted := true }
  | _, _ => .ok s

/-- A start was requested from remote, which this charging protocol does not need. -/
def handleChargingStartRemote : Except Fault Session :=
  match s.transactionHandler with
  | none => .ok s
  | some h => do
    let (c, h) ← processChargingStarted true s.chargePoint h
    return { s with transactionHandler := some h, chargePoint := c }

/-- Meter values are available. -/
def handleTelemetryReady : Session :=
  if s.evPluggedIn ∧ s.isEvAuthorized then
    { s with chargePoint := s.chargePoint.record .onMeterValue }
  else s

/-- The contactor was opened. -/
def handleChargingStopped : Except Fault Session :=
  match s.evPluggedIn, s.sessionStarted, s.transactionHandler with
  | true, true, some h => do
    -- The flag is cleared after the report, and not at all when the report fails.
    let (c, h) ← processChargingEnded false s.chargePoint h
    return { s with transactionHandler := some h, chargePoint := c, sessionStarted := false }
  | _, _, _ => .ok s

/-- A stop was requested from remote. The charging task is told before this is reported. -/
def handleChargingStopRemote : Except Fault Session :=
  match s.transactionHandler with
  | none => .ok s
  | some h => do
    let (c, h) ← processChargingEnded true s.chargePoint h
    return { s with transactionHandler := some h, chargePoint := c }

/-- Whether handling an event tells the charging task to stop. -/
def stopsCharging (event : OcppEvent) : Bool :=
  event = .chargingStopRemote ∧ s.transactionHandler.isSome

/-- The vehicle was disconnected: end its session. -/
def handleEvDisconnected : Except Fault Session :=
  match s.evPluggedIn, s.transactionHandler with
  | true, some h => do
    -- The reasons are written through the pointer, if there is one.
    let _ ← h.getTransactionData evseId
    let h := h.modifyTransactionData fun data => { data with
      chargingState := .idle, stopReason := .evDisconnected, triggerReason := .evCommunicationLost }
    -- Of the two effects only that of the disconnection is carried out.
    let (h, txEventEffect) := h.submitEvent evseId .deauthorized
    let _ ← txEventEffect
    let (h, txEventEffect) := h.submitEvent evseId .evDisconnected
    -- The handler is deleted in the end, whatever is left in it.
    let (c, _) ← processTxEventEffect (← txEventEffect) s.chargePoint h
    return resetSessionState { s with
      transactionHandler := none, chargePoint := c.record .onSessionFinished }
  -- A handler without a vehicle does not come up, and would be kept.
  | false, some _ => .ok s
  | _, none => .ok (resetSessionState s)

/-- The network is down: disconnect once, and rely on the reconnection. -/
def handleNetworkDown : Session :=
  -- The flag is cleared again when a connection comes up.
  if s.disconnectRequested then s
  else
    { s with chargePoint := s.chargePoint.record .onNetworkDisconnected
             disconnectRequested := true }

/-- Handle one event of a batch that was fetched while connected. -/
def handle : OcppEvent → Except Fault Session
  | .evConnected => s.handleEvConnected i
  | .evAuthNeeded => .ok (s.handleEvAuthNeeded i)
  | .evAuthorized => s.handleEvAuthorized
  | .chargingStarted => s.handleChargingStarted
  | .chargingStartRemote => s.handleChargingStartRemote
  -- The reports on charging come before the disconnection of the same batch.
  | .telemetryReady => .ok s.handleTelemetryReady
  | .chargingStopped => s.handleChargingStopped
  | .chargingStopRemote => s.handleChargingStopRemote
  | .evDisconnected => s.handleEvDisconnected
  | .networkDown => .ok s.handleNetworkDown
  -- A reconnection is only asked for while not connected.
  | .reconnect => .ok s

end Session

/-- The order in which the events of a batch are handled, whatever order they were set in. -/
def handlingOrder : List OcppEvent :=
  [.evConnected, .evAuthNeeded, .evAuthorized, .chargingStarted, .chargingStartRemote,
    .telemetryReady, .chargingStopped, .chargingStopRemote, .evDisconnected, .networkDown,
    .reconnect]

/-- The events of a batch in the order they are handled. -/
def inOrder (bits : EventBits) : List OcppEvent := handlingOrder.filter (· ∈ bits)

/-- Handle a whole batch. -/
def processBatch (i : HandlerInputs) (bits : EventBits) (s : Session) : Except Fault Session :=
  (inOrder bits).foldlM (fun s event => s.handle i event) s

end EasyEvse.Ocpp
