import EasyEvse.Ocpp.Session
import EasyEvse.Transition.Run

/-! The session task among the other tasks: the event group, the semaphore and the callbacks. -/

namespace EasyEvse.Ocpp

open Transition

/-- The state of the connection to the management system. -/
inductive ConnectionState
  | notConnected | connected | error
  deriving DecidableEq, Repr

/-- The verdict on a request to start or stop a transaction. -/
inductive RequestStartStopStatus
  | accepted | rejected
  deriving DecidableEq, Repr

def evseOcppAuthTimeoutS : UInt32 := 3

def evseOcppMaxReconnects : UInt8 := 15

/-- The session task with everything it shares, and the history of what it was told. -/
structure OcppTask where
  session : Session := {}
  connectionState : ConnectionState := .notConnected
  reconnectionAttempts : UInt8 := 0
  /-- The events set and not yet fetched. -/
  eventBits : EventBits := ∅
  /-- The events of the fetched batch that are not handled yet, in order. -/
  batch : List OcppEvent := []
  /-- The binary semaphore given with every authorization answer. -/
  authSem : Bool := false
  /-- The task has given up on the connection for good. -/
  stopped : Bool := false
  /-- The responses received so far: the number of the request, and the judgement, if any. -/
  answers : List (ℕ × Option AuthorizationStatus) := []
  /-- How many requests had been sent when a connection was last reported, if one ever was. -/
  plugIn : Option ℕ := none
  deriving DecidableEq

namespace OcppTask

variable (t : OcppTask)

/-- Set an event bit. Setting a bit that is set already changes nothing. -/
def setEvent (event : OcppEvent) : OcppTask :=
  { t with
    eventBits := insert event t.eventBits
    plugIn := if event = .evConnected then some t.session.chargePoint.requests.length
      else t.plugIn }

/-- Ask for an authorization answer, and whether one came or the time for it is over. -/
def getAuthResponse (timeoutMs unixTime : UInt32) : OcppTask × Option Bool :=
  let answered : OcppTask := { t with session := { t.session with lastAuthTime := 0 } }
  if t.authSem then ({ answered with authSem := false }, some t.session.isEvAuthorized)
  else
    let elapsedTime :=
      if t.session.lastAuthTime > 0 then unixTime - t.session.lastAuthTime else 0
    if timeoutMs ≠ 0 ∨ elapsedTime > evseOcppAuthTimeoutS then (answered, some false)
    else (t, none)

/-- A stop that the stack asks for. Only a remote one is passed on. -/
def stopTransactionCb (evse : ℤ) (stopReason : Reason) : OcppTask × RequestStartStopStatus :=
  if evse ≠ evseId then (t, .rejected)
  else if stopReason = .remote then (t.setEvent .chargingStopRemote, .accepted)
  else (t, .accepted)

/-- A start that the management system asks for. -/
def remoteStartTransactionCb (evse : Option ℤ) (authorizeRemoteStart : Bool) :
    OcppTask × RequestStartStopStatus :=
  if ∃ id ∈ evse, id ≠ evseId then (t, .rejected)
  else if t.session.evPluggedIn = false then (t, .rejected)
  else if authorizeRemoteStart then (t, .accepted)
  else (t.setEvent .chargingStartRemote, .accepted)

/-- A response with a judgement is recorded, announced by the semaphore, and then as an event. -/
def transactionEventResponseCb (idTokenInfo : Option AuthorizationStatus) : OcppTask :=
  match idTokenInfo with
  | none => t
  | some status =>
    setEvent { t with
      session := { t.session with isEvAuthorized := status = .accepted }
      authSem := true } .evAuthorized

/-- The stack handles a response: first the callback, then a stop if the token was refused. -/
def handleTransactionEventResponse (request : TransactionEventRequest)
    (idTokenInfo : Option AuthorizationStatus) : OcppTask :=
  let t := t.transactionEventResponseCb idTokenInfo
  if request.eventType ≠ .ended ∧ request.idToken ∧ idTokenInfo.isSome ∧
      idTokenInfo ≠ some .accepted ∧
      ∃ transaction ∈ t.session.chargePoint.transaction,
        transaction.transactionId = request.transactionId then
    (t.stopTransactionCb evseId .deAuthorized).1
  else t

/-- The connection came up or went down. -/
def connectionStateChangedCb (isConnected : Bool) : OcppTask :=
  if isConnected then
    { t with
      connectionState := .connected
      session := { t.session with disconnectRequested := false }
      reconnectionAttempts := 0 }
  else { t with connectionState := .notConnected }

/-- Fetch and clear all bits. While not connected all but a reconnection are dropped. -/
def waitEvents : OcppTask :=
  let fetched := { t with eventBits := ∅ }
  if t.connectionState = .connected then { fetched with batch := inOrder t.eventBits }
  else if .reconnect ∈ t.eventBits ∧ t.reconnectionAttempts ≤ evseOcppMaxReconnects then
    if t.reconnectionAttempts = evseOcppMaxReconnects then
      { fetched with
        session := { t.session with chargePoint := t.session.chargePoint.record .stop }
        stopped := true }
    else
      { fetched with
        session := { t.session with chargePoint := t.session.chargePoint.record .connectWebsocket }
        reconnectionAttempts := t.reconnectionAttempts + 1 }
  else fetched

end OcppTask

/-- What can happen to the session task, in any order. -/
inductive TaskOp
  /-- Another task sets an event bit. -/
  | setEvent (event : OcppEvent)
  /-- The task fetches its next batch. -/
  | wait
  /-- The task handles the next event of its batch. -/
  | handle (inputs : HandlerInputs)
  /-- The response to a request arrives, after any delay. -/
  | response (request : ℕ) (idTokenInfo : Option AuthorizationStatus)
  /-- The stack reports a meter value. -/
  | meterValue (context : ReadingContext)
  /-- The charging task asks for an authorization answer. -/
  | getAuthResponse (timeoutMs unixTime : UInt32)
  /-- The stack asks to stop a transaction. -/
  | stopTransaction (evse : ℤ) (stopReason : Reason)
  /-- The management system asks to start one. -/
  | remoteStartTransaction (evse : Option ℤ) (authorizeRemoteStart : Bool)
  /-- The connection came up or went down. -/
  | connectionStateChanged (isConnected : Bool)
  deriving DecidableEq, Repr

/-- One step of the session task or of a task it shares its state with. -/
def taskStep : Step OcppTask TaskOp
  | t, .setEvent event => some (t.setEvent event)
  | t, .wait => if t.batch = [] ∧ t.stopped = false then some t.waitEvents else none
  | t, .handle i =>
    match t.batch with
    | [] => none
    -- A fault ends the run.
    | event :: batch =>
      (t.session.handle i event).toOption.map fun session => { t with session, batch }
  | t, .response request idTokenInfo =>
    -- A request gets at most one response.
    if request ∈ t.answers.map Prod.fst then none
    else t.session.chargePoint.requests[request]?.map fun sent =>
      { t.handleTransactionEventResponse sent idTokenInfo with
        answers := t.answers ++ [(request, idTokenInfo)] }
  | t, .meterValue context =>
    some { t with session := { t.session with
      chargePoint := t.session.chargePoint.transactionMeterValueCallback context } }
  | t, .getAuthResponse timeoutMs unixTime => some (t.getAuthResponse timeoutMs unixTime).1
  | t, .stopTransaction evse stopReason => some (t.stopTransactionCb evse stopReason).1
  | t, .remoteStartTransaction evse authorizeRemoteStart =>
    some (t.remoteStartTransactionCb evse authorizeRemoteStart).1
  | t, .connectionStateChanged isConnected => some (t.connectionStateChangedCb isConnected)

end EasyEvse.Ocpp
