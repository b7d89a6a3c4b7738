import EasyEvse.Connectivity.Holders

/-! The station is shown as its connection is, and so it comes back after every loss of it. -/

namespace EasyEvse.Connectivity

open Ocpp Transition Websocket WebsocketLibwebsockets

variable {w v : WebsocketLibwebsockets} {data : ConnectionData} {s u : Station} {op : StationOp}
  {o : WebsocketConnectionOptions}

/-- Whether a connection is shown after a notice. -/
def shows (shown : Bool) : Notice → Bool
  | .connected => true
  | .disconnected => false
  | .stoppedConnecting | .connectionFailed => shown

/-- Whether a connection is shown once all notices are run. -/
def Station.willShow (s : Station) : Bool :=
  s.manager.websocket.deferred.foldl shows (s.task.connectionState = .connected)

/-- Notices that show a connection do that all the more if one is shown before them. -/
theorem shows_mono {notices : List Notice} {shown : Bool}
    (up : notices.foldl shows shown = true) : notices.foldl shows true = true := by
  -- The last notice that comes or goes decides, if there is one.
  induction notices generalizing shown with
  | nil => rfl
  | cons notice notices ih =>
    cases notice with
    | connected => exact up
    | disconnected => exact up
    | stoppedConnecting => exact ih up
    | connectionFailed => exact ih up

/-- A failure is told if and only if there was a connection. -/
theorem onConnFail_shows {shown : Bool} (data : ConnectionData)
    (before : w.deferred.foldl shows shown = w.mIsConnected) :
    (w.onConnFail data).deferred.foldl shows shown = (w.onConnFail data).mIsConnected := by
  -- Without a connection nothing is told, and nothing changes.
  cases up : w.mIsConnected <;> simp [onConnFail, List.foldl_append, shows, up, before]

/-- The thread pushes a notice whenever the connection comes up or goes down. -/
theorem moves_shows {shown : Bool} {op : ClientOp} (attends : Attends w data)
    (before : w.deferred.foldl shows shown = w.mIsConnected) (moves : ThreadMoves w data op v) :
    v.deferred.foldl shows shown = v.mIsConnected := by
  -- One case for each step of the thread; those that do not push a notice are trivial.
  cases moves with
  | joins joining stage waiting =>
    -- The thread has ended, and with it the connection.
    have down := attends.down stage
    cases joining with
    | startConnecting => exact before
    | close => exact before.trans down
  | tells stage untold =>
    -- Nothing is left of a connection when the thread leaves.
    have gone := attends.absent stage (by decide)
    have down := attends.unconnected (by simp [gone])
    simp [List.foldl_append, shows, down]
  | refused unauthorized stage wsi =>
    -- The handshake was refused, and so there was no connection.
    have down := attends.unconnected (by simp [wsi])
    cases unauthorized <;> simp [onConnFail, List.foldl_append, shows, down, before]
  | comesUp stage wsi => simp [onConnConnected, List.foldl_append, shows]
  | closes stage wsi interrupted => simp [onConnClose, List.foldl_append, shows]
  | retries randomNumber stage running random allowed =>
    -- The choice of the wait tells nothing.
    unfold getReconnectInterval
    split_ifs <;> exact before
  | setsUpNot stage => exact onConnFail_shows _ before
  | connectsNot stage unmade => exact onConnFail_shows _ before
  | peerCloses stage wsi => exact onConnFail_shows _ before
  | goesAway stage wsi wanted => exact onConnFail_shows _ before
  | destroyed stage wsi => exact onConnFail_shows _ before
  | _ => exact before

/-- Asking the thread to end takes no connection away by itself. -/
theorem safeCloseThreads_shows (inOrder : InOrder w) (joining : Joining) :
    (w.safeCloseThreads joining).mIsConnected = w.mIsConnected := by
  -- Only without a thread the call does something at once.
  unfold safeCloseThreads
  cases there : w.connData with
  | some data => rfl
  | none =>
    cases joining with
    | startConnecting => rfl
    | close => exact (inOrder.alone there).1.symm

/-- Closing takes no connection away by itself. -/
theorem close_shows (inOrder : InOrder w) : w.close.mIsConnected = w.mIsConnected := by
  unfold WebsocketLibwebsockets.close
  split_ifs
  · exact safeCloseThreads_shows inOrder _
  · rfl

/-- Connecting tells nothing by itself. -/
theorem connect_shows {m : ConnectivityManager} (inOrder : InOrder m.websocket) :
    m.connect.websocket.deferred = m.websocket.deferred ∧
      m.connect.websocket.mIsConnected = m.websocket.mIsConnected := by
  unfold ConnectivityManager.connect
  dsimp only
  -- A connection that is up is closed, and otherwise there is a new thread.
  split_ifs
  · exact ⟨close_kept.2, close_shows inOrder⟩
  · have set : InOrder m.websocket.setConnectionOptions := inOrder.of_same rfl rfl rfl
    exact ⟨startConnecting_kept.2, safeCloseThreads_shows set .startConnecting⟩

/-- No call of the session task tells anything by itself. -/
theorem Calls.shows {taskOp : TaskOp} (inOrder : InOrder s.manager.websocket)
    (turns : TaskTurns s.task u.task taskOp) (calls : Calls s u) :
    u.manager.websocket.deferred = s.manager.websocket.deferred ∧
      u.manager.websocket.mIsConnected = s.manager.websocket.mIsConnected := by
  -- A report at most closes the connection.
  have reports : Reports s.task.session.chargePoint u.task.session.chargePoint →
      u.manager.websocket.deferred = s.manager.websocket.deferred ∧
        u.manager.websocket.mIsConnected = s.manager.websocket.mIsConnected := by
    intro told
    rcases calls.reports told with manager | ⟨free, manager⟩
    · rw [manager]
      exact ⟨rfl, rfl⟩
    · rw [manager]
      exact ⟨close_kept.2, close_shows inOrder⟩
  cases turns with
  | connects runs asked offline left fetched same more goesOn told =>
    rw [(calls.connects told).2]
    exact connect_shows inOrder
  | stops runs asked offline spent fetched same kept ends told =>
    rw [(calls.stops told).2]
    exact ⟨close_kept.2, close_shows inOrder⟩
  | fetches runs unasked fetched same kept goesOn told =>
    exact reports ⟨[], by simpa using told, by simp⟩
  | reports other asked same kept goesOn told => exact reports told

/-- No turn of the session task changes what is shown. -/
theorem TaskTurns.connectionState {t t' : OcppTask} {taskOp : TaskOp}
    (turns : TaskTurns t t' taskOp) : t'.connectionState = t.connectionState := by
  -- Every turn has this as one of its facts.
  cases turns <;> assumption

/-- A boot notification is accepted only while there is a connection. -/
def Truthful (s : Station) (op : StationOp) : Prop :=
  op = .bootNotificationAccepted → s.manager.websocket.mIsConnected = true

instance : ∀ s op, Decidable (Truthful s op) := fun _ _ => inferInstanceAs (Decidable (_ → _))

/-- A sound station that will show its connection as it is. -/
structure Shown (s : Station) : Prop where
  sound : Sound s
  agrees : s.willShow = s.manager.websocket.mIsConnected

/-- Every truthful step keeps what will be shown in agreement with the connection. -/
theorem Shown.moves (shown : Shown s) (truthful : Truthful s op) (moves : StationMoves s u op) :
    Shown u := by
  refine ⟨shown.sound.moves moves, ?_⟩
  have inOrder := shown.sound.inOrder
  have agrees := shown.agrees
  simp only [Station.willShow] at agrees ⊢
  -- One case for each kind of step: it tells what it changes.
  cases moves with
  | task stepped turns calls =>
    obtain ⟨deferred, up⟩ := calls.shows inOrder turns
    rw [deferred, up, turns.connectionState]
    exact agrees
  | boots task manager =>
    -- The notices end in the connection that there is, whatever is shown before them.
    have up := truthful rfl
    rw [up] at agrees
    rw [manager, task, up]
    simpa [OcppTask.connectionStateChangedCb] using shows_mono agrees
  | client task moved wants timer =>
    obtain ⟨data, there, stepped⟩ := clientStep_moves moved
    rw [task]
    exact moves_shows (inOrder.attends data there) agrees stepped
  -- The notice that is run was counted before, and is counted now.
  | @deferred notice rest next told =>
    subst told
    rw [next] at agrees
    cases notice with
    | connected => simpa [Station.runNotice, shows, OcppTask.connectionStateChangedCb] using agrees
    | disconnected =>
      simpa [Station.runNotice, shows, OcppTask.connectionStateChangedCb] using agrees
    | connectionFailed => exact agrees
    | stoppedConnecting =>
      unfold Station.runNotice ConnectivityManager.onWebsocketStoppedConnecting
      dsimp only
      split <;> exact agrees
  | fires armed task manager =>
    rw [manager, task]
    exact agrees
  | certificate task free manager =>
    rw [manager, task]
    simpa [ConnectivityManager.onChargingStationCertificateChanged, close_kept.2,
      close_shows inOrder] using agrees

/--
Once all notices are run, the session task shows a connection if and only if there is one.

No boot notification may be accepted without a connection.
-/
theorem connection_shown {ops : List StationOp}
    (truthful : Meets Truthful stationStep (started o) ops)
    (visited : Visits stationStep (started o) ops s)
    (quiet : s.manager.websocket.deferred = []) :
    s.task.connectionState = .connected ↔ s.manager.websocket.mIsConnected = true := by
  have shown : Shown s := by
    -- What will be shown agrees in every state, and with no notice left it is what is shown.
    refine @visits_guarded_invariant _ _ _ _ _ _ Shown Truthful ?_ ?_ truthful visited
    · intro s op u shown truthful moved
      exact shown.moves truthful (stationStep_moves shown.sound.inOrder moved)
    · exact ⟨sound_started, rfl⟩
  have agrees := shown.agrees
  simp only [Station.willShow, quiet, List.foldl_nil] at agrees
  rw [← agrees, decide_eq_true_eq]

/-- The steps with which a connection comes up, and is closed again. -/
def upAndDown : List StationOp :=
  [.client (.initializeConnectionOptions true), .client (.connectViaInfo true),
    .client (.callback .clientEstablished), .runDeferred, .bootNotificationAccepted,
    .certificateChanged, .client (.callback .clientClosed), .client (.callback .wsiDestroy),
    .client (.service false), .client .resetConnectionData, .client (.decideReconnect 0),
    .client .giveBackControl, .client .exit, .client .join, .runDeferred, .runDeferred]

/-- After a connection was closed it is not shown any more. -/
theorem connection_shown_closed : ∃ s ∈ run stationStep (started {}) upAndDown,
    s.task.connectionState ≠ .connected ∧ s.manager.websocketTimer = true := by
  obtain ⟨s, finish, quiet, down, armed⟩ : ∃ s, run stationStep (started {}) upAndDown = some s ∧
      s.manager.websocket.deferred = [] ∧ s.manager.websocket.mIsConnected = false ∧
      s.manager.websocketTimer = true := ⟨_, rfl, rfl, rfl, rfl⟩
  have truthful : Meets Truthful stationStep (started {}) upAndDown := by decide +kernel
  have shown := connection_shown truthful (visits_end finish) quiet
  exact ⟨s, finish, fun up => by simp [shown.mp up] at down, armed⟩

/-- The station is lost if the timer is over before the last notice of the connection is run. -/
example :
    ∃ s ∈ run stationStep (started {}) (upAndDown.dropLast ++ [.timerFires, .task .wait]),
      Lost s :=
  ⟨_, rfl, rfl, by decide +kernel⟩

/-- A step with which what is shown can be relied on when a reconnection is asked for. -/
def Orderly (s : Station) (op : StationOp) : Prop :=
  Truthful s op ∧ (op = .timerFires → s.manager.websocket.deferred = [])

instance : ∀ s op, Decidable (Orderly s op) := fun _ _ => inferInstanceAs (Decidable (_ ∧ (_ → _)))

/-- A request to reconnect is only pending while no connection is shown or will be. -/
structure Calm (s : Station) : Prop where
  holding : Holding s
  shown : Shown s
  asked : s.manager.wantsToBeConnected = true → .reconnect ∈ s.task.eventBits →
    s.task.connectionState ≠ .connected ∧ .connected ∉ s.manager.websocket.deferred

/-- In a calm station no request to reconnect is dropped. -/
theorem Calm.heeds (calm : Calm s) (moves : StationMoves s u op) : Heeds s op := by
  -- A task that has given up does not look at requests.
  rintro rfl asked online
  cases moves with
  | task stepped turns calls =>
    have wants : s.manager.wantsToBeConnected = true := by
      refine calm.holding.sound.wanted.mp ?_
      cases turns with
      | reports other => exact absurd rfl other
      | connects runs => exact runs
      | stops runs => exact runs
      | fetches runs => exact runs
    exact (calm.asked wants asked).1 online

/-- Every orderly step keeps a calm station calm. -/
theorem Calm.moves (calm : Calm s) (orderly : Orderly s op) (moves : StationMoves s u op) :
    Calm u := by
  have holding := calm.holding.moves (calm.heeds moves) moves
  have shown := calm.shown.moves orderly.1 moves
  have inOrder := calm.holding.sound.inOrder
  refine ⟨holding, shown, fun wants asked => ?_⟩
  -- One case for each kind of step: a request that is asked for now was so before, or is new.
  cases moves with
  | task stepped turns calls =>
    obtain ⟨deferred, -⟩ := calls.shows inOrder turns
    -- A turn that looks at its requests leaves none.
    have none : u.task.eventBits ≠ ∅ := fun none => by simp [none] at asked
    rw [turns.connectionState, deferred]
    cases turns with
    | reports other asks same kept goesOn told =>
      refine calm.asked ?_ (asks.mp asked)
      rcases calls.reports told with manager | ⟨-, manager⟩
      · rwa [manager] at wants
      · rwa [manager] at wants
    | connects runs asks offline left fetched => exact absurd fetched none
    | stops runs asks offline spent fetched => exact absurd fetched none
    | fetches runs asks fetched => exact absurd fetched none
  | boots task manager =>
    -- While a reconnection is asked for there is no connection to boot with.
    rw [manager] at wants
    have bits := (connectionStateChangedCb_same s.task true).1
    have down := (calm.holding.asked wants (bits ▸ task ▸ asked)).2.2.1
    have up := orderly.1 rfl
    simp [down] at up
  | client task moved wanted timer =>
    rw [task] at asked ⊢
    rw [wanted] at wants
    obtain ⟨data, there, stepped⟩ := clientStep_moves moved
    -- Nothing connects while a request is pending, and so the thread tells no connection.
    have idle := (calm.holding.asked wants asked).2.2.2 data there
    obtain ⟨offline, untold⟩ := calm.asked wants asked
    have fails := (inOrder.attends data there).idle_fails idle stepped
    exact ⟨offline, moves_untold fails stepped untold⟩
  | @deferred notice rest next told =>
    subst told
    have before : s.manager.wantsToBeConnected = true → .reconnect ∈ s.task.eventBits →
        s.task.connectionState ≠ .connected ∧ .connected ∉ notice :: rest :=
      fun wants asked => next ▸ calm.asked wants asked
    cases notice with
    -- A connection that is told would contradict the request.
    | connected => exact absurd (List.mem_cons_self ..) (before wants asked).2
    | disconnected =>
      obtain ⟨-, untold⟩ := before wants asked
      exact ⟨by simp [Station.runNotice, OcppTask.connectionStateChangedCb],
        fun told => untold (List.mem_cons_of_mem _ told)⟩
    | connectionFailed =>
      obtain ⟨offline, untold⟩ := before wants asked
      exact ⟨offline, fun told => untold (List.mem_cons_of_mem _ told)⟩
    | stoppedConnecting =>
      -- The request was asked for before, as the notice only arms the timer.
      simp only [Station.runNotice, ConnectivityManager.onWebsocketStoppedConnecting]
        at wants asked ⊢
      have wanted : s.manager.wantsToBeConnected = true := by
        split_ifs at wants <;> assumption
      obtain ⟨offline, untold⟩ := before wanted asked
      rw [if_pos wanted]
      exact ⟨offline, fun told => untold (List.mem_cons_of_mem _ told)⟩
  | fires armed task manager =>
    -- The timer asks when all notices are run, and so what is shown is what there is.
    have quiet := orderly.2 rfl
    have down := (holding.asked wants asked).2.2.1
    have agrees := shown.agrees
    simp only [Station.willShow, manager, quiet, List.foldl_nil] at agrees
    rw [manager] at down
    rw [down, decide_eq_false_iff_not] at agrees
    exact ⟨agrees, by simp [manager, quiet]⟩
  | certificate task free manager =>
    rw [task] at asked ⊢
    rw [manager] at wants ⊢
    have before := calm.asked wants asked
    exact ⟨before.1, by
      simpa [ConnectivityManager.onChargingStationCertificateChanged, close_kept.2]
        using before.2⟩

/--
A station that wants to be connected always has exactly one thing that leads to its next connection.

Boot notifications are accepted only with a connection, and the timer is so long that all notices
are run before it is over.
-/
theorem always_held {ops : List StationOp} (orderly : Meets Orderly stationStep (started o) ops)
    (visited : Visits stationStep (started o) ops s) : Held s := by
  -- Every state of an orderly run is calm, and a calm station holds on.
  have calm : Calm s := by
    refine @visits_guarded_invariant _ _ _ _ _ _ Calm Orderly ?_ ?_ orderly visited
    · intro s op u calm orderly moved
      exact calm.moves orderly (stationStep_moves calm.holding.sound.inOrder moved)
    · exact ⟨holding_started, ⟨sound_started, rfl⟩, fun _ asked => by simp [started] at asked⟩
  exact calm.holding.held

/-- The connection that was closed is asked for again. -/
theorem always_held_asked : ∃ s ∈ run stationStep (started {}) (upAndDown ++ [.timerFires]),
    s.holders = 1 ∧ .reconnect ∈ s.task.eventBits := by
  obtain ⟨s, finish, wants, asked⟩ : ∃ s,
      run stationStep (started {}) (upAndDown ++ [.timerFires]) = some s ∧
      s.manager.wantsToBeConnected = true ∧ .reconnect ∈ s.task.eventBits :=
    ⟨_, rfl, rfl, by decide +kernel⟩
  have orderly : Meets Orderly stationStep (started {}) (upAndDown ++ [.timerFires]) := by
    decide +kernel
  exact ⟨s, finish, always_held orderly (visits_end finish) wants, asked⟩

end EasyEvse.Connectivity
