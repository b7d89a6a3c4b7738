import Mathlib.Algebra.Order.Ring.Int
import EasyEvse.Transition.Run

/-! The client thread of the websocket: it connects, serves the connection, and tries again. -/

namespace EasyEvse.Websocket

open Transition

/-- The state of a connection, as the client thread and its callbacks leave it. -/
inductive EConnectionState
  | initializing | connecting | reconnecting | connected | error | finalized
  deriving DecidableEq, Repr

/-- What libwebsockets has: nothing, a handshake, a connection, or one that is being closed. -/
inductive Wsi
  | absent | handshaking | established | closed
  deriving DecidableEq, Repr

/-- The reasons for a callback that change the state of the connection. -/
inductive CallbackReason
  | connecting
  /-- The handshake failed, perhaps because the credentials were refused. -/
  | clientConnectionError (unauthorized : Bool)
  | clientEstablished
  | wsPeerInitiatedClose
  | clientClosed
  | wsiDestroy
  deriving DecidableEq, Repr

/-- What libwebsockets has after a callback, unless it does not call back for that reason. -/
def Wsi.next : Wsi → CallbackReason → Option Wsi
  | .handshaking, .connecting => some .handshaking
  | .handshaking, .clientConnectionError _ => some .closed
  | .handshaking, .clientEstablished => some .established
  -- That the peer closes is reported before the connection is closed here.
  | .established, .wsPeerInitiatedClose => some .established
  | .established, .clientClosed => some .closed
  | .absent, .wsiDestroy => none
  | _, .wsiDestroy => some .absent
  | _, _ => none

/-- Where the client thread stands. -/
inductive ClientStage
  | initializing | connecting | servicing | resetting | deciding | waiting
  /-- The thread gives the control back to the application. -/
  | leaving
  /-- The thread waits to be interrupted, and does nothing else any more. -/
  | idling
  | exited
  deriving DecidableEq, Repr

/-- The data of a connection, with the thread that is bound to it. -/
structure ConnectionData where
  state : EConnectionState := .initializing
  isRunning : Bool := true
  isStoppedRun : Bool := false
  wsi : Wsi := .absent
  stage : ClientStage := .initializing
  deriving DecidableEq, Repr

/-- What the deferred callbacks tell the application. -/
inductive Notice
  | connected | connectionFailed | stoppedConnecting | disconnected
  deriving DecidableEq, Repr

/-- The calls from outside that wait for the client thread to end. -/
inductive Joining
  | startConnecting | close
  deriving DecidableEq, Repr

/-- How often and how fast a connection is tried again. -/
structure WebsocketConnectionOptions where
  retryBackoffRandomRangeS : ℕ := 2
  retryBackoffRepeatTimes : ℕ := 102
  retryBackoffWaitMinimumS : ℕ := 51
  /-- No bound at all is written as `-1`. -/
  maxConnectionAttempts : ℤ := 5
  deriving DecidableEq, Repr

/-- The websocket, as far as it is about connections and not about messages. -/
structure WebsocketLibwebsockets where
  connectionOptions : WebsocketConnectionOptions := {}
  connData : Option ConnectionData := none
  mIsConnected : Bool := false
  connectionAttempts : ℕ := 1
  /-- This is an `int`, which the doubling can make overflow. -/
  reconnectBackoffMs : ℤ := 0
  /-- The notices that were pushed and are not run yet. -/
  deferred : List Notice := []
  /-- The call that waits for the client thread to end, with the mutex of the connection. -/
  joining : Option Joining := none
  deriving DecidableEq, Repr

/-- What an `int` holds of a number. An overflow is undefined, and wraps around in practice. -/
def asInt (n : ℤ) : ℤ := n.bmod (2 ^ 32)

namespace WebsocketLibwebsockets

variable (w : WebsocketLibwebsockets) (data : ConnectionData)

def withData : WebsocketLibwebsockets := { w with connData := some data }

/-- The connection came up. -/
def onConnConnected : WebsocketLibwebsockets :=
  { w with
    connData := some data
    connectionAttempts := 1
    mIsConnected := true
    deferred := w.deferred ++ [.connected] }

/-- The connection was closed on request. -/
def onConnClose : WebsocketLibwebsockets :=
  { w with
    connData := some { data with isStoppedRun := true }
    mIsConnected := false
    deferred := w.deferred ++ [.stoppedConnecting, .disconnected] }

/-- The connection failed. It is only told if there was one. -/
def onConnFail : WebsocketLibwebsockets :=
  { w with
    connData := some data
    mIsConnected := false
    deferred := if w.mIsConnected then w.deferred ++ [.disconnected] else w.deferred }

/-- How long to wait before the next attempt: the time is doubled, up to a number of times. -/
def getReconnectInterval (randomNumber : ℕ) : WebsocketLibwebsockets :=
  -- After so many attempts the wait stays as it is.
  if w.connectionAttempts > w.connectionOptions.retryBackoffRepeatTimes + 1 then w
  else if w.connectionAttempts = 1 then
    { w with reconnectBackoffMs :=
        asInt ((w.connectionOptions.retryBackoffWaitMinimumS + randomNumber) * 1000) }
  else { w with reconnectBackoffMs := asInt (w.reconnectBackoffMs * 2 + randomNumber * 1000) }

/-- The connection has to be set up before it can be tried. -/
def initializeConnectionOptions (success : Bool) : WebsocketLibwebsockets :=
  if success then
    w.withData { data with isStoppedRun := false, wsi := .handshaking, stage := .connecting }
  -- The thread goes on to the decision, with the failure told.
  else w.onConnFail { data with state := .error, stage := .deciding }

/-- The attempt is made, and is over at once if it fails. -/
def connectViaInfo (success : Bool) : WebsocketLibwebsockets :=
  if success then w.withData { data with stage := .servicing }
  else w.onConnFail { data with state := .error, stage := .resetting }

/-- What the callback does for each reason. -/
def processCallback : CallbackReason → WebsocketLibwebsockets
  | .connecting => w.withData { data with state := .connecting }
  | .clientConnectionError unauthorized =>
    let told : WebsocketLibwebsockets :=
      if unauthorized then { w with deferred := w.deferred ++ [.connectionFailed] } else w
    told.onConnFail { data with state := .error }
  | .clientEstablished => w.onConnConnected { data with state := .connected }
  | .wsPeerInitiatedClose | .wsiDestroy => w.onConnFail { data with state := .error }
  | .clientClosed =>
    -- A close that was not requested means that the server went away.
    if data.isRunning then w.onConnFail { data with state := .error }
    else w.onConnClose { data with state := .finalized }

/-- The thread serves the connection as long as there is one and nobody interrupts it. -/
def service (failed : Bool) : WebsocketLibwebsockets :=
  -- Nothing is served once the state says that the connection is over.
  let processing := data.isRunning ∧ data.state ≠ .finalized ∧ data.state ≠ .error
  if failed = false ∧ processing then w
  else w.withData { data with stage := .resetting }

/-- What comes after an attempt: leave, wait for the next one, or connect again at once. -/
def decideReconnect (randomNumber : ℕ) : WebsocketLibwebsockets :=
  -- An interrupted thread leaves, and so does one that has given up.
  if data.isRunning = false ∨ data.state = .finalized then
    w.withData { data with stage := .leaving }
  else if data.state ≠ .connected then
    -- The counter is that of the attempt that failed.
    if w.connectionOptions.maxConnectionAttempts = -1 ∨
        w.connectionAttempts ≤ w.connectionOptions.maxConnectionAttempts then
      { w.getReconnectInterval randomNumber with
        connData := some { data with state := .reconnecting, stage := .waiting }
        connectionAttempts := w.connectionAttempts + 1 }
    else w.withData { data with state := .finalized, stage := .leaving }
  else w.withData { data with stage := .initializing }

/-- The wait is over when its time is, or when the thread is interrupted. -/
def waitForAttempt : WebsocketLibwebsockets :=
  w.withData { data with stage := if data.isRunning then .initializing else .leaving }

/-- The application is told that the thread stopped connecting, unless it was told before. -/
def giveBackControl : WebsocketLibwebsockets :=
  { w with
    connData := some { data with stage := .idling }
    -- A close on request has told it already.
    deferred := if data.isStoppedRun then w.deferred
      else w.deferred ++ [.stoppedConnecting, .disconnected] }

/-- A thread that is to connect, with data of its own. -/
def launch : WebsocketLibwebsockets :=
  { w with connData := some {}, connectionAttempts := 1, joining := none }

/-- The call that waited for the thread is finished. -/
def finishJoining : Joining → WebsocketLibwebsockets
  | .startConnecting => w.launch
  | .close => { w with connData := none, mIsConnected := false, joining := none }

/-- Ask the client thread to end, and wait for that. -/
def safeCloseThreads (joining : Joining) : WebsocketLibwebsockets :=
  match w.connData with
  | none => w.finishJoining joining
  -- The end of the thread is waited for in a step of its own.
  | some data =>
    { w with connData := some { data with isRunning := false }, joining := some joining }

def setConnectionOptions : WebsocketLibwebsockets := { w with connectionAttempts := 1 }

/-- Connect, with a new thread after the old one has ended. -/
def startConnecting : WebsocketLibwebsockets := w.safeCloseThreads .startConnecting

def isTryingToConnectInternal : Bool := w.connData.any fun data => data.state ≠ .finalized

/-- Close the connection, unless there is none and nobody tries to make one. -/
def close : WebsocketLibwebsockets :=
  if w.isTryingToConnectInternal ∨ w.mIsConnected then w.safeCloseThreads .close else w

end WebsocketLibwebsockets

/-- What the client thread does next, alone or inside libwebsockets. -/
inductive ClientOp
  | initializeConnectionOptions (success : Bool)
  | connectViaInfo (success : Bool)
  | callback (reason : CallbackReason)
  | service (failed : Bool)
  | resetConnectionData
  | decideReconnect (randomNumber : ℕ)
  | waitForAttempt
  | giveBackControl
  | exit
  /-- The call that waits for the thread sees its end. -/
  | join
  deriving DecidableEq, Repr

/-- The stages in which libwebsockets can call back. -/
def ClientStage.CallsBack (stage : ClientStage) : Prop :=
  stage = .connecting ∨ stage = .servicing ∨ stage = .resetting

instance : DecidablePred ClientStage.CallsBack := fun _ => inferInstanceAs (Decidable (_ ∨ _ ∨ _))

/-- A step that the thread takes in a stage of its loop. -/
def inStage (data : ConnectionData) (stage : ClientStage) (w : WebsocketLibwebsockets) :
    Option WebsocketLibwebsockets :=
  if data.stage = stage then some w else none

/-- One step of the client thread with the data it is bound to. -/
def threadStep (w : WebsocketLibwebsockets) (data : ConnectionData) :
    ClientOp → Option WebsocketLibwebsockets
  | .initializeConnectionOptions success =>
    inStage data .initializing (w.initializeConnectionOptions data success)
  | .connectViaInfo success =>
    -- An attempt that came through is not reported as one that could not be made.
    if success = false ∧ data.wsi = .established then none
    else inStage data .connecting (w.connectViaInfo data success)
  | .callback reason =>
    if data.stage.CallsBack then
      (data.wsi.next reason).map fun wsi => w.processCallback { data with wsi } reason
    else none
  | .service failed => inStage data .servicing (w.service data failed)
  | .resetConnectionData =>
    -- Destroying the context destroys a connection, with the callbacks of that, and returns then.
    if data.wsi = .established then none
    else inStage data .resetting
      (w.withData { data with wsi := .absent, stage := .deciding })
  | .decideReconnect randomNumber =>
    if randomNumber ≤ w.connectionOptions.retryBackoffRandomRangeS then
      inStage data .deciding (w.decideReconnect data randomNumber)
    else none
  | .waitForAttempt => inStage data .waiting (w.waitForAttempt data)
  | .giveBackControl => inStage data .leaving (w.giveBackControl data)
  | .exit =>
    if data.isRunning then none
    else inStage data .idling (w.withData { data with stage := .exited })
  | .join => if data.stage = .exited then w.joining.map w.finishJoining else none

/-- One step of the client thread, if there is one. -/
def clientStep : Step WebsocketLibwebsockets ClientOp := fun w op =>
  w.connData.bind fun data => threadStep w data op

end EasyEvse.Websocket
