import EasyEvse.Ocpp.Task
import EasyEvse.Websocket.ClientLoop

/-! How the station comes back: the session task, the connectivity manager and the websocket. -/

namespace EasyEvse.Connectivity

open Ocpp Transition Websocket

/-- The manager of the only connection. -/
structure ConnectivityManager where
  websocket : WebsocketLibwebsockets := {}
  wantsToBeConnected : Bool := false
  /-- The timer runs, after which the session task is asked to connect again. -/
  websocketTimer : Bool := false
  deriving DecidableEq, Repr

namespace ConnectivityManager

variable (m : ConnectivityManager)

def tryConnectWebsocket : ConnectivityManager :=
  { m with websocket := m.websocket.setConnectionOptions.startConnecting }

/-- Connect. A connection that is up is closed, which leads to a reconnection. -/
def connect : ConnectivityManager :=
  let m := { m with wantsToBeConnected := true }
  if m.websocket.mIsConnected then { m with websocket := m.websocket.close }
  else m.tryConnectWebsocket

/-- Disconnect for good. -/
def disconnect : ConnectivityManager :=
  { m with
    wantsToBeConnected := false
    websocketTimer := false
    websocket := m.websocket.close }

/-- Disconnect, and rely on the reconnection. -/
def onNetworkDisconnected : ConnectivityManager := { m with websocket := m.websocket.close }

/-- Disconnect, to come back with another certificate. -/
def onChargingStationCertificateChanged : ConnectivityManager :=
  { m with websocket := m.websocket.close }

/-- The websocket does not try to connect any more. -/
def onWebsocketStoppedConnecting : ConnectivityManager :=
  if m.wantsToBeConnected then { m with websocketTimer := true } else m

end ConnectivityManager

/-- The session task and the connection it uses. -/
structure Station where
  task : OcppTask := {}
  manager : ConnectivityManager := {}
  /-- The session task is in a call that waits for the client thread to end. -/
  taskJoins : Bool := false
  deriving DecidableEq

namespace Station

variable (s : Station)

/-- A call that needs the mutex of the connection, which a call that waits does not release. -/
def enter (call : ConnectivityManager → ConnectivityManager) : Option Station :=
  if s.manager.websocket.joining = none then
    let manager := call s.manager
    some { s with manager, taskJoins := manager.websocket.joining.isSome }
  else none

/-- What a call of the session task does to the connection. -/
def makeCall (s : Station) : ChargePointCall → Option Station
  | .connectWebsocket => s.enter (·.connect)
  | .stop => s.enter (·.disconnect)
  | .onNetworkDisconnected => s.enter (·.onNetworkDisconnected)
  -- The other calls are about transactions and messages.
  | _ => some s

/-- Whether the session task can take a step, and takes it alone. -/
def Takes : TaskOp → Prop
  -- The task itself does nothing while it waits in a call.
  | .wait | .handle _ => s.taskJoins = false
  -- The reconnection is asked for by the timer, and the callbacks tell of connections.
  | .setEvent event => event ≠ .reconnect
  | .connectionStateChanged _ => False
  | _ => True

instance : DecidablePred s.Takes
  | .wait | .handle _ => inferInstanceAs (Decidable (_ = _))
  | .setEvent _ => inferInstanceAs (Decidable (_ ≠ _))
  | .connectionStateChanged _ => isFalse id
  | .response .. | .meterValue _ | .getAuthResponse .. | .stopTransaction ..
  | .remoteStartTransaction .. => isTrue trivial

/-- A step of the session task, with the calls it makes. -/
def taskStep (op : TaskOp) : Option Station :=
  if s.Takes op then
    (Ocpp.taskStep s.task op).bind fun task =>
      (task.session.chargePoint.calls.drop s.task.session.chargePoint.calls.length).foldlM
        makeCall { s with task }
  else none

/-- Run one notice of the deferred callbacks. -/
def runNotice : Notice → Station
  | .connected => { s with task := s.task.connectionStateChangedCb true }
  | .disconnected => { s with task := s.task.connectionStateChangedCb false }
  | .stoppedConnecting => { s with manager := s.manager.onWebsocketStoppedConnecting }
  -- A failure is only reported as a security event.
  | .connectionFailed => s

/-- Run the next of the deferred callbacks. -/
def runDeferred : Option Station :=
  match s.manager.websocket.deferred with
  | [] => none
  | notice :: deferred =>
    let websocket := { s.manager.websocket with deferred }
    some (runNotice { s with manager := { s.manager with websocket } } notice)

/-- The timer is over, and the session task is asked to connect. -/
def timerFires : Option Station :=
  if s.manager.websocketTimer then
    some { s with
      task := s.task.setEvent .reconnect
      manager := { s.manager with websocketTimer := false } }
  else none

end Station

/-- What can happen, in any order. -/
inductive StationOp
  | task (op : TaskOp)
  /-- The management system accepted the boot notification. -/
  | bootNotificationAccepted
  | client (op : ClientOp)
  | runDeferred
  | timerFires
  /-- The management system sent another certificate. -/
  | certificateChanged
  deriving DecidableEq, Repr

/-- One step of the station. -/
def stationStep : Step Station StationOp
  | s, .task op => s.taskStep op
  | s, .bootNotificationAccepted => some { s with task := s.task.connectionStateChangedCb true }
  | s, .client op => (clientStep s.manager.websocket op).map fun websocket =>
      { s with
        manager := { s.manager with websocket }
        taskJoins := s.taskJoins && websocket.joining.isSome }
  | s, .runDeferred => s.runDeferred
  | s, .timerFires => s.timerFires
  -- This runs in the thread of the received messages.
  | s, .certificateChanged =>
    if s.manager.websocket.joining = none then
      some { s with manager := s.manager.onChargingStationCertificateChanged }
    else none

/-- The station after the first call to connect. -/
def started (connectionOptions : WebsocketConnectionOptions) : Station where
  manager := ConnectivityManager.connect { websocket := { connectionOptions } }

end EasyEvse.Connectivity
