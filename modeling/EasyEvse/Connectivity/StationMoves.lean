import EasyEvse.Connectivity.TaskTurns
import EasyEvse.Websocket.ClientLaws

/-! What the steps of the station do to its task, its manager and its websocket. -/

namespace EasyEvse.Connectivity

open Ocpp Transition Websocket WebsocketLibwebsockets

variable {w : WebsocketLibwebsockets} {m : ConnectivityManager} {s u : Station} {op : StationOp}

/-- Connecting keeps the websocket of the manager in order. -/
theorem connect_inOrder (inOrder : InOrder m.websocket) : InOrder m.connect.websocket := by
  -- A connection that is up is closed, and otherwise there is a new thread.
  unfold ConnectivityManager.connect
  dsimp only
  split
  · exact inOrder.close
  · exact inOrder.startConnecting

/-- What the calls of a step do to the manager. -/
structure Calls (s u : Station) : Prop where
  connects : u.task.session.chargePoint.calls =
      s.task.session.chargePoint.calls ++ [.connectWebsocket] →
    s.manager.websocket.joining = none ∧ u.manager = s.manager.connect
  stops : u.task.session.chargePoint.calls = s.task.session.chargePoint.calls ++ [.stop] →
    s.manager.websocket.joining = none ∧ u.manager = s.manager.disconnect
  reports : Reports s.task.session.chargePoint u.task.session.chargePoint →
    u.manager = s.manager ∨
      s.manager.websocket.joining = none ∧ u.manager = s.manager.onNetworkDisconnected
  silent : u.task.session.chargePoint.calls = s.task.session.chargePoint.calls →
    u.manager = s.manager

/-- What a step of the station does, with one case for each kind of step. -/
inductive StationMoves (s u : Station) : StationOp → Prop
  | task {op : TaskOp} (stepped : Ocpp.taskStep s.task op = some u.task)
      (turns : TaskTurns s.task u.task op) (calls : Calls s u) : StationMoves s u (.task op)
  | boots (task : u.task = s.task.connectionStateChangedCb true) (manager : u.manager = s.manager) :
      StationMoves s u .bootNotificationAccepted
  | client {op : ClientOp} (task : u.task = s.task)
      (moved : clientStep s.manager.websocket op = some u.manager.websocket)
      (wants : u.manager.wantsToBeConnected = s.manager.wantsToBeConnected)
      (timer : u.manager.websocketTimer = s.manager.websocketTimer) : StationMoves s u (.client op)
  | deferred {notice : Notice} {rest : List Notice}
      (next : s.manager.websocket.deferred = notice :: rest)
      (told : u = Station.runNotice { s with manager := { s.manager with
        websocket := { s.manager.websocket with deferred := rest } } } notice) :
      StationMoves s u .runDeferred
  | fires (armed : s.manager.websocketTimer = true) (task : u.task = s.task.setEvent .reconnect)
      (manager : u.manager = { s.manager with websocketTimer := false }) :
      StationMoves s u .timerFires
  | certificate (task : u.task = s.task) (free : s.manager.websocket.joining = none)
      (manager : u.manager = s.manager.onChargingStationCertificateChanged) :
      StationMoves s u .certificateChanged

/-- A call that enters the manager waits for the mutex of the connection. -/
theorem enter_eq_some {call : ConnectivityManager → ConnectivityManager} :
    s.enter call = some u ↔ s.manager.websocket.joining = none ∧ u = { s with
      manager := call s.manager, taskJoins := (call s.manager).websocket.joining.isSome } := by
  -- A call that comes while another one waits for the thread does not come through.
  unfold Station.enter
  split_ifs with free <;> simp [free, eq_comm]

/-- The calls of a session at most close the connection, and leave the task alone. -/
theorem reports_fold {added : List ChargePointCall} (inOrder : InOrder s.manager.websocket)
    (allowed : ∀ call ∈ added, call ≠ .connectWebsocket ∧ call ≠ .stop)
    (made : added.foldlM Station.makeCall s = some u) : u.task = s.task ∧ (u.manager = s.manager ∨
      s.manager.websocket.joining = none ∧ u.manager = s.manager.onNetworkDisconnected) := by
  -- After a close that is waited for no other one comes through.
  induction added generalizing s with
  | nil =>
    obtain rfl := Option.some.inj made
    exact ⟨rfl, .inl rfl⟩
  | cons call added ih =>
    obtain ⟨next, called, made⟩ := Option.bind_eq_some_iff.mp made
    have rest := fun other member => allowed other (List.mem_cons_of_mem call member)
    have first := allowed call (by simp)
    -- Of the calls of a session only one reaches the connection.
    cases call with
    | connectWebsocket => exact absurd rfl first.1
    | stop => exact absurd rfl first.2
    | onNetworkDisconnected =>
      obtain ⟨free, rfl⟩ := enter_eq_some.mp called
      obtain ⟨task, same | ⟨free', again⟩⟩ := ih inOrder.close rest made
      · exact ⟨task, .inr ⟨free, same⟩⟩
      -- The second close finds that there is nothing to close.
      · have nothing := close_of_free inOrder free'
        refine ⟨task, .inr ⟨free, again.trans ?_⟩⟩
        simp [ConnectivityManager.onNetworkDisconnected, nothing]
    | _ =>
      obtain rfl := Option.some.inj called
      exact ih inOrder rest made

/-- No call changes the session task that makes it. -/
theorem makeCall_task {call : ChargePointCall} (made : s.makeCall call = some u) :
    u.task = s.task := by
  -- A call of the manager changes the manager alone.
  cases call with
  | connectWebsocket => exact (enter_eq_some.mp made).2 ▸ rfl
  | stop => exact (enter_eq_some.mp made).2 ▸ rfl
  | onNetworkDisconnected => exact (enter_eq_some.mp made).2 ▸ rfl
  | _ => exact Option.some.inj made ▸ rfl

/-- No row of calls changes the session task that makes them. -/
theorem fold_task {calls : List ChargePointCall}
    (made : calls.foldlM Station.makeCall s = some u) : u.task = s.task := by
  -- The calls are made one after the other.
  induction calls generalizing s with
  | nil => exact Option.some.inj made ▸ rfl
  | cons call calls ih =>
    obtain ⟨next, called, rest⟩ := Option.bind_eq_some_iff.mp made
    exact (ih rest).trans (makeCall_task called)

/-- A single call is made as it is. -/
theorem fold_single {call : ChargePointCall} (made : [call].foldlM Station.makeCall s = some u) :
    s.makeCall call = some u := by
  simpa using made

/-- What a step of the session task does to the manager follows from its calls. -/
theorem taskStep_calls {op : TaskOp} (inOrder : InOrder s.manager.websocket)
    (moved : s.taskStep op = some u) : Ocpp.taskStep s.task op = some u.task ∧
      TaskTurns s.task u.task op ∧ Calls s u := by
  unfold Station.taskStep at moved
  split_ifs at moved with takes
  obtain ⟨task, stepped, made⟩ := Option.bind_eq_some_iff.mp moved
  have turns : TaskTurns s.task task op := by
    refine taskStep_turns stepped ?_ ?_
    · rintro rfl
      exact absurd rfl takes
    · rintro isConnected rfl
      exact takes
  -- The calls that were added are the ones at the end, which the manager sees.
  have same : u.task = task := fold_task made
  rw [same]
  refine ⟨stepped, turns,
    ⟨fun calls => ?_, fun calls => ?_, fun reports => ?_, fun calls => ?_⟩⟩
  -- To connect is one call.
  · rw [same] at calls
    rw [calls, List.drop_left] at made
    obtain ⟨free, rfl⟩ := enter_eq_some.mp (fold_single made)
    exact ⟨free, rfl⟩
  -- So is to stop.
  · rw [same] at calls
    rw [calls, List.drop_left] at made
    obtain ⟨free, rfl⟩ := enter_eq_some.mp (fold_single made)
    exact ⟨free, rfl⟩
  -- A report has any number of calls.
  · rw [same] at reports
    obtain ⟨added, calls, allowed⟩ := reports
    rw [calls, List.drop_left] at made
    exact (reports_fold (s := { s with task }) inOrder allowed made).2
  -- Without a call the manager stays as it is.
  · rw [same] at calls
    rw [calls, List.drop_length] at made
    obtain rfl := Option.some.inj made
    rfl

/-- Every step of the station is one of these, as long as its websocket is in order. -/
theorem stationStep_moves (inOrder : InOrder s.manager.websocket)
    (moved : stationStep s op = some u) : StationMoves s u op := by
  -- One case for each kind of step.
  cases op with
  | task op =>
    obtain ⟨stepped, turns, calls⟩ := taskStep_calls inOrder moved
    exact .task stepped turns calls
  | bootNotificationAccepted =>
    obtain rfl := Option.some.inj moved
    exact .boots rfl rfl
  | client op =>
    obtain ⟨websocket, stepped, rfl⟩ := Option.map_eq_some_iff.mp moved
    exact .client rfl stepped rfl rfl
  | runDeferred =>
    simp only [stationStep, Station.runDeferred] at moved
    split at moved
    · cases moved
    · rename_i notice rest next
      exact .deferred next (Option.some.inj moved).symm
  | timerFires =>
    simp only [stationStep, Station.timerFires] at moved
    split_ifs at moved with armed
    obtain rfl := Option.some.inj moved
    exact .fires armed rfl rfl
  | certificateChanged =>
    simp only [stationStep] at moved
    split_ifs at moved with free
    obtain rfl := Option.some.inj moved
    exact .certificate rfl free rfl

/-- What every step of the station keeps, whatever it drops. -/
structure Sound (s : Station) : Prop where
  inOrder : InOrder s.manager.websocket
  counted : s.task.reconnectionAttempts ≤ evseOcppMaxReconnects
  wanted : s.task.stopped = false ↔ s.manager.wantsToBeConnected = true

/-- One attempt more than fewer than all of them is not too many. -/
theorem attempts_le {n : UInt8} (left : n < evseOcppMaxReconnects) :
    n + 1 ≤ evseOcppMaxReconnects := by
  -- The attempts are counted in a byte, which does not overflow here.
  simp only [evseOcppMaxReconnects, UInt8.lt_iff_toNat_lt, UInt8.le_iff_toNat_le,
    UInt8.toNat_add] at left ⊢
  have small : n.toNat < 15 := left
  show (n.toNat + 1) % 256 ≤ 15
  omega

/-- A report on the connection leaves the rest of the session task as it is. -/
theorem connectionStateChangedCb_same (t : OcppTask) (isConnected : Bool) :
    (t.connectionStateChangedCb isConnected).eventBits = t.eventBits ∧
      (t.connectionStateChangedCb isConnected).stopped = t.stopped ∧
      ((t.connectionStateChangedCb isConnected).reconnectionAttempts = 0 ∨
        (t.connectionStateChangedCb isConnected).reconnectionAttempts = t.reconnectionAttempts) ∧
      ((t.connectionStateChangedCb isConnected).connectionState = .connected ↔
        isConnected = true) := by
  cases isConnected <;> simp [OcppTask.connectionStateChangedCb]

/-- A report on the connection does not count as an attempt. -/
theorem connectionStateChangedCb_counted {t : OcppTask}
    (counted : t.reconnectionAttempts ≤ evseOcppMaxReconnects) (isConnected : Bool) :
    (t.connectionStateChangedCb isConnected).reconnectionAttempts ≤ evseOcppMaxReconnects := by
  -- The count begins again with a connection, and otherwise stays.
  rcases (connectionStateChangedCb_same t isConnected).2.2.1 with zero | same
  · rw [zero]
    decide
  · rwa [same]

/-- Every step keeps the station sound. -/
theorem Sound.moves (sound : Sound s) (moves : StationMoves s u op) : Sound u := by
  obtain ⟨inOrder, counted, wanted⟩ := sound
  -- One case for each kind of step; the invariant is about the websocket, the count and the wish.
  cases moves with
  | task stepped turns calls =>
    -- Of the turns of the task only two call the manager themselves.
    cases turns with
    | connects runs asked offline left fetched same more goesOn told =>
      obtain ⟨free, manager⟩ := calls.connects told
      refine ⟨manager ▸ connect_inOrder inOrder, more ▸ attempts_le left, ?_⟩
      simp only [goesOn, manager, ConnectivityManager.connect, true_iff]
      split <;> rfl
    | stops runs asked offline spent fetched same kept ends told =>
      obtain ⟨free, manager⟩ := calls.stops told
      exact ⟨manager ▸ inOrder.close, kept ▸ counted,
        by simp [ends, manager, ConnectivityManager.disconnect]⟩
    | fetches runs unasked fetched same kept goesOn told =>
      have manager := calls.silent told
      exact ⟨manager ▸ inOrder, kept ▸ counted, by rw [goesOn, manager, ← wanted, runs]⟩
    | reports other asked same kept goesOn told =>
      rcases calls.reports told with manager | ⟨free, manager⟩
      · exact ⟨manager ▸ inOrder, kept ▸ counted, by rw [goesOn, manager]; exact wanted⟩
      · exact ⟨manager ▸ inOrder.close, kept ▸ counted, by rw [goesOn, manager]; exact wanted⟩
  | boots task manager =>
    have same := connectionStateChangedCb_same s.task true
    exact ⟨manager ▸ inOrder, task ▸ connectionStateChangedCb_counted counted true,
      by rw [task, manager, same.2.1]; exact wanted⟩
  | client task moved wants timer =>
    exact ⟨inOrder.step moved, task ▸ counted, by rw [task, wants]; exact wanted⟩
  | @deferred notice rest next told =>
    have order : InOrder { s.manager.websocket with deferred := rest } :=
      inOrder.of_same rfl rfl rfl
    subst told
    cases notice with
    | connected => exact ⟨order, connectionStateChangedCb_counted counted true, wanted⟩
    | disconnected => exact ⟨order, connectionStateChangedCb_counted counted false, wanted⟩
    | connectionFailed => exact ⟨order, counted, wanted⟩
    -- The notice that the websocket stopped arms the timer at most.
    | stoppedConnecting =>
      simp only [Station.runNotice, ConnectivityManager.onWebsocketStoppedConnecting]
      split <;> exact ⟨order, counted, wanted⟩
  | fires armed task manager =>
    refine ⟨manager ▸ inOrder, task ▸ counted, ?_⟩
    rw [task, manager]
    exact wanted
  | certificate task free manager =>
    exact ⟨manager ▸ inOrder.close, task ▸ counted, by rw [task, manager]; exact wanted⟩

end EasyEvse.Connectivity
