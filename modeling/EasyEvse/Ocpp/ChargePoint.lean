import EasyEvse.Ocpp.TransactionHandler
import EasyEvse.Transition.Spans

/-! The part of the OCPP stack that the session task talks to: one EVSE and its transaction. -/

namespace EasyEvse.Ocpp

/-- The kind of a transaction event. -/
inductive TransactionEventType
  | started | updated | ended
  deriving DecidableEq, Repr

/-- A request that reports a transaction event to the management system. -/
structure TransactionEventRequest where
  eventType : TransactionEventType
  triggerReason : TriggerReason
  transactionId : String
  /-- Whether the request carries a token to be judged. -/
  idToken : Bool
  deriving DecidableEq, Repr

/-- How the management system judges a token. -/
inductive AuthorizationStatus
  | accepted | blocked | concurrentTx | expired | invalid | noCredit | notAllowedTypeEVSE
  | notAtThisLocation | notAtThisTime | unknown
  deriving DecidableEq, Repr

/-- Why a meter value is sampled while a transaction is open. -/
inductive ReadingContext
  | sampleClock | samplePeriodic | trigger
  deriving DecidableEq, Repr

/-- The transaction that is open on the EVSE. -/
structure EnhancedTransaction where
  transactionId : String
  idTokenSent : Bool
  chargingState : ChargingState
  deriving DecidableEq, Repr

/-- The calls that the session task makes to the stack. -/
inductive ChargePointCall
  -- The calls about a transaction.
  | onTransactionStarted (connectorId : ℤ) (sessionId : String) (triggerReason : TriggerReason)
      (chargingState : ChargingState)
  | onTransactionFinished (reason : Reason) (triggerReason : TriggerReason)
      (chargingState : ChargingState)
  | onSessionStarted
  | onSessionFinished
  | onAuthorized
  | onChargingStateChanged (chargingState : ChargingState)
  | onMeterValue
  | onNetworkDisconnected
  | connectWebsocket
  | stop
  deriving DecidableEq, Repr

/-- The calls that start a transaction. -/
def ChargePointCall.Starts : ChargePointCall → Prop
  | .onTransactionStarted .. => True
  | _ => False

/-- The calls that finish a transaction. -/
def ChargePointCall.Finishes : ChargePointCall → Prop
  | .onTransactionFinished .. => True
  | _ => False

instance : DecidablePred ChargePointCall.Starts
  | .onTransactionStarted .. => isTrue trivial
  | .onTransactionFinished .. | .onSessionStarted | .onSessionFinished | .onAuthorized
  | .onChargingStateChanged _ | .onMeterValue | .onNetworkDisconnected | .connectWebsocket
  | .stop => isFalse id

instance : DecidablePred ChargePointCall.Finishes
  | .onTransactionFinished .. => isTrue trivial
  | .onTransactionStarted .. | .onSessionStarted | .onSessionFinished | .onAuthorized
  | .onChargingStateChanged _ | .onMeterValue | .onNetworkDisconnected | .connectWebsocket
  | .stop => isFalse id

/-- The stack as the session task sees it, with everything it was told and everything it sent. -/
structure ChargePoint where
  transaction : Option EnhancedTransaction := none
  /-- Every request sent so far, in order. -/
  requests : List TransactionEventRequest := []
  /-- Every call received so far, in order. -/
  calls : List ChargePointCall := []
  deriving DecidableEq, Repr

namespace ChargePoint

variable (c : ChargePoint)

def record (call : ChargePointCall) : ChargePoint := { c with calls := c.calls ++ [call] }

def transactionEventReq (request : TransactionEventRequest) : ChargePoint :=
  { c with requests := c.requests ++ [request] }

/-- Open a transaction under the session's own number and report it. -/
def onTransactionStarted (connectorId : ℤ) (sessionId : String) (triggerReason : TriggerReason)
    (chargingState : ChargingState) : ChargePoint :=
  let c := c.record (.onTransactionStarted connectorId sessionId triggerReason chargingState)
  -- The task passes no token along, so none counts as sent.
  let c := { c with transaction := some ⟨sessionId, false, chargingState⟩ }
  c.transactionEventReq ⟨.started, triggerReason, sessionId, false⟩

/-- Report the end of the open transaction and release it. -/
def onTransactionFinished (reason : Reason) (triggerReason : TriggerReason)
    (chargingState : ChargingState) : ChargePoint :=
  let c := c.record (.onTransactionFinished reason triggerReason chargingState)
  match c.transaction with
  | none => c
  -- The response to the last request finds no transaction any more.
  | some transaction =>
    { c.transactionEventReq ⟨.ended, triggerReason, transaction.transactionId, false⟩ with
      transaction := none }

/-- Ask for the judgement of a token, once for each transaction. -/
def onAuthorized : ChargePoint :=
  let c := c.record .onAuthorized
  match c.transaction with
  | none => c
  | some transaction =>
    -- A token that was sent is not sent again, whatever came of it.
    if transaction.idTokenSent then c
    else
      { c.transactionEventReq ⟨.updated, .authorized, transaction.transactionId, true⟩ with
        transaction := some { transaction with idTokenSent := true } }

/-- Report a charging state that differs from the last one. -/
def onChargingStateChanged (chargingState : ChargingState) : ChargePoint :=
  let c := c.record (.onChargingStateChanged chargingState)
  match c.transaction with
  | none => c
  | some transaction =>
    -- A state that was reported is not reported again.
    if transaction.chargingState = chargingState then c
    else
      { c.transactionEventReq
          ⟨.updated, .chargingStateChanged, transaction.transactionId, false⟩ with
        transaction := some { transaction with chargingState } }

/-- Report a meter value of the open transaction. The stack does this by itself. -/
def transactionMeterValueCallback (context : ReadingContext) : ChargePoint :=
  match c.transaction with
  | none => c
  | some transaction =>
    let triggerReason := match context with
      | .sampleClock => TriggerReason.meterValueClock
      | .samplePeriodic => .meterValuePeriodic
      | .trigger => .trigger
    c.transactionEventReq ⟨.updated, triggerReason, transaction.transactionId, false⟩

end ChargePoint

end EasyEvse.Ocpp
