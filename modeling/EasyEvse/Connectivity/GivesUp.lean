import EasyEvse.Connectivity.Holders
import EasyEvse.Websocket.Retries

/-! How often the station tries to connect before it gives up, and how long it waits in between. -/

namespace EasyEvse.Connectivity

open Ocpp Transition Websocket WebsocketLibwebsockets

variable {s u : Station} {op : StationOp} {o : WebsocketConnectionOptions}

/-- An attempt to connect begins. -/
def StationOp.tries : StationOp → Bool
  | .client (.initializeConnectionOptions _) => true
  | _ => false

/-- How many attempts to connect begin in a run. -/
def tries (ops : List StationOp) : ℕ := ops.countP StationOp.tries

/-- A step without success, and without a certificate for which a connection is closed. -/
def Fails : StationOp → Prop
  | .client (.callback .clientEstablished) | .bootNotificationAccepted
  | .certificateChanged => False
  | _ => True

instance : DecidablePred Fails
  | .client (.callback .clientEstablished) | .bootNotificationAccepted | .certificateChanged =>
    isFalse id
  | .task _ | .runDeferred | .timerFires => isTrue trivial
  | .client (.initializeConnectionOptions _) | .client (.connectViaInfo _) | .client (.service _)
  | .client .resetConnectionData | .client (.decideReconnect _) | .client .waitForAttempt
  | .client .giveBackControl | .client .exit | .client .join => isTrue trivial
  | .client (.callback .connecting) | .client (.callback (.clientConnectionError _))
  | .client (.callback .wsPeerInitiatedClose) | .client (.callback .clientClosed)
  | .client (.callback .wsiDestroy) => isTrue trivial

/-- How many attempts are left to the station: those of this round, and of the rounds to come. -/
def Station.triesLeft (s : Station) : ℕ :=
  s.manager.websocket.triesLeft +
    (evseOcppMaxReconnects.toNat - s.task.reconnectionAttempts.toNat) *
      s.manager.websocket.roundTries

/-- A station that was never connected, after a number of attempts. -/
structure Unconnected (o : WebsocketConnectionOptions) (made : ℕ) (s : Station) : Prop where
  holding : Holding s
  options : s.manager.websocket.connectionOptions = o
  offline : s.task.connectionState ≠ .connected
  untold : .connected ∉ s.manager.websocket.deferred
  unfetched : s.task.batch = []
  accounted : made + s.triesLeft = 16 * (o.maxConnectionAttempts + 1).toNat
  ended : s.task.stopped = true →
    s.task.reconnectionAttempts = evseOcppMaxReconnects ∧ s.manager.websocket.triesLeft = 0

/-- The attempts left, from the rounds that are still to come. -/
theorem triesLeft_eq (counted : s.task.reconnectionAttempts ≤ evseOcppMaxReconnects) :
    ∃ rounds, s.task.reconnectionAttempts.toNat + rounds = 15 ∧ s.triesLeft =
      s.manager.websocket.triesLeft + rounds * s.manager.websocket.roundTries := by
  -- The number of rounds left is what is missing to fifteen.
  have most : s.task.reconnectionAttempts.toNat ≤ 15 := UInt8.le_iff_toNat_le.mp counted
  exact ⟨15 - s.task.reconnectionAttempts.toNat, by omega, rfl⟩

/-- At the beginning there are the attempts of all rounds. -/
theorem started_triesLeft (bounded : 0 ≤ o.maxConnectionAttempts) :
    (started o).triesLeft = 16 * (o.maxConnectionAttempts + 1).toNat := by
  have first : (started o).manager.websocket.triesLeft = (o.maxConnectionAttempts + 1).toNat :=
    launch_triesLeft (w := { connectionOptions := o }) bounded
  have rounds : (15 - (started o).task.reconnectionAttempts.toNat) = 15 := rfl
  show (started o).manager.websocket.triesLeft +
    (15 - (started o).task.reconnectionAttempts.toNat) * (o.maxConnectionAttempts + 1).toNat = _
  -- The first thread makes one round, and fifteen are to come.
  rw [first, rounds]
  omega

/-- Nothing about the attempts changes with the station. -/
theorem Unconnected.of_same {made : ℕ} (before : Unconnected o made s) (holding : Holding u)
    (websocket : u.manager.websocket.connData = s.manager.websocket.connData ∧
      u.manager.websocket.joining = s.manager.websocket.joining ∧
      u.manager.websocket.connectionAttempts = s.manager.websocket.connectionAttempts ∧
      u.manager.websocket.connectionOptions = s.manager.websocket.connectionOptions)
    (notices : ∀ notice ∈ u.manager.websocket.deferred, notice ∈ s.manager.websocket.deferred)
    (offline : u.task.connectionState ≠ .connected)
    (counted : u.task.reconnectionAttempts = s.task.reconnectionAttempts)
    (batch : u.task.batch = []) (stopped : u.task.stopped = s.task.stopped) :
    Unconnected o made u := by
  obtain ⟨connData, joining, attempts, options⟩ := websocket
  -- The attempts left depend on nothing but what is the same.
  have round : u.manager.websocket.roundTries = s.manager.websocket.roundTries := by
    simp [roundTries, options]
  have left : u.manager.websocket.triesLeft = s.manager.websocket.triesLeft := by
    simp [WebsocketLibwebsockets.triesLeft, retriesLeft, connData, joining, attempts, options,
      round]
  refine ⟨holding, options.trans before.options, offline,
    fun told => before.untold (notices _ told), batch, ?_, ?_⟩
  · simpa [Station.triesLeft, left, round, counted] using before.accounted
  · rw [stopped, counted, left]
    exact before.ended

/-- The session task starts a round, or gives up after the last one. -/
theorem Unconnected.task {made : ℕ} {taskOp : TaskOp} (bounded : 0 ≤ o.maxConnectionAttempts)
    (before : Unconnected o made s) (holding : Holding u)
    (stepped : Ocpp.taskStep s.task taskOp = some u.task)
    (turns : TaskTurns s.task u.task taskOp) (calls : Calls s u) : Unconnected o made u := by
  have inOrder := before.holding.sound.inOrder
  obtain ⟨rounds, attempts, account⟩ := triesLeft_eq before.holding.sound.counted
  have accounted := before.accounted
  rw [account] at accounted
  have moved := taskStep_moves stepped
  -- Without a connection the task fetches no events, and so it handles none.
  have unfetched : u.task.batch = [] := by
    cases moved with
    | handles next => simp [before.unfetched] at next
    | fetches done bits batch idles => rw [batch, if_neg before.offline]
    | notes batch bits pending posted idles => exact batch.trans before.unfetched
  -- The turns of the task that change the account are a new round and the end.
  cases turns with
  | connects runs asked offline left fetched same more goesOn told =>
    obtain ⟨free, manager⟩ := calls.connects told
    -- With a request pending the round before is over.
    obtain ⟨timer, none, down, idle⟩ :=
      before.holding.asked (before.holding.sound.wanted.mp runs) asked
    have starts : u.manager.websocket =
        s.manager.websocket.setConnectionOptions.startConnecting := by
      simp [manager, ConnectivityManager.connect, down, ConnectivityManager.tryConnectWebsocket]
    have options : u.manager.websocket.connectionOptions = o := by
      rw [starts, startConnecting_kept.1]
      exact before.options
    have round : u.manager.websocket.roundTries = s.manager.websocket.roundTries := by
      simp [roundTries, options, before.options]
    have now := inOrder.start_triesLeft (before.options ▸ bounded) idle
    have gone := inOrder.idle_triesLeft free idle
    -- A round is taken from those to come, and its attempts are those of the new thread.
    have fewer : s.task.reconnectionAttempts.toNat < 15 := UInt8.lt_iff_toNat_lt.mp left
    have next : u.task.reconnectionAttempts.toNat = s.task.reconnectionAttempts.toNat + 1 := by
      rw [more, UInt8.toNat_add]
      exact Nat.mod_eq_of_lt (by show _ + 1 < 256; omega)
    refine ⟨holding, options, same ▸ before.offline, ?_, unfetched, ?_, by simp [goesOn]⟩
    · rw [starts, startConnecting_kept.2]
      exact before.untold
    · obtain ⟨further, sum, left'⟩ := triesLeft_eq holding.sound.counted
      obtain rfl : rounds = further + 1 := by omega
      rw [left', starts, now, ← starts, round]
      rw [gone, Nat.succ_mul] at accounted
      omega
  | stops runs asked offline spent fetched same kept ends told =>
    obtain ⟨free, manager⟩ := calls.stops told
    -- The last round is over.
    obtain ⟨timer, none, down, idle⟩ :=
      before.holding.asked (before.holding.sound.wanted.mp runs) asked
    have closed : u.manager.websocket = s.manager.websocket.close := by
      simp [manager, ConnectivityManager.disconnect]
    have ended := inOrder.close_triesLeft free idle
    have gone := inOrder.idle_triesLeft free idle
    have options : u.manager.websocket.connectionOptions = o := by
      rw [closed, close_kept.1]
      exact before.options
    have round : u.manager.websocket.roundTries = s.manager.websocket.roundTries := by
      simp [roundTries, options, before.options]
    refine ⟨holding, options, same ▸ before.offline, ?_, unfetched, ?_, ?_⟩
    · rw [closed, close_kept.2]
      exact before.untold
    · obtain ⟨further, sum, left'⟩ := triesLeft_eq holding.sound.counted
      rw [kept] at sum
      obtain rfl : rounds = further := by omega
      rw [left', closed, ended, ← closed, round]
      rw [gone] at accounted
      exact accounted
    -- Nothing is left, in this round or in later ones.
    · exact fun _ => ⟨kept.trans spent, by rw [closed, ended]⟩
  | fetches runs unasked fetched same kept goesOn told =>
    have manager := calls.silent told
    exact before.of_same holding (by simp [manager]) (by simp [manager]) (same ▸ before.offline)
      kept unfetched (goesOn.trans runs.symm)
  | reports other asked same kept goesOn told silent =>
    -- Without events to handle the task makes no call.
    have quiet : ∀ i, taskOp ≠ .handle i := by
      rintro i rfl
      cases moved with
      | handles next => simp [before.unfetched] at next
      | notes => simp [Ocpp.taskStep, before.unfetched] at stepped
    have manager := calls.silent (silent quiet)
    exact before.of_same holding (by simp [manager]) (by simp [manager]) (same ▸ before.offline)
      kept unfetched goesOn

/-- Every step without success takes the attempt that begins from those that are left. -/
theorem Unconnected.moves {made : ℕ} (bounded : 0 ≤ o.maxConnectionAttempts) (fails : Fails op)
    (before : Unconnected o made s) (moves : StationMoves s u op) :
    Unconnected o (made + if op.tries then 1 else 0) u := by
  have holding := before.holding.moves (fun _ _ => before.offline) moves
  -- One case for each kind of step; the client thread and the task change the account.
  cases moves with
  | task stepped turns calls => exact before.task bounded holding stepped turns calls
  | boots => exact absurd fails id
  | certificate => exact absurd fails id
  | @client clientOp task moved wants timer =>
    obtain ⟨data, there, stepped⟩ := clientStep_moves moved
    have attends := before.holding.sound.inOrder.attends data there
    -- A connection that comes up is not a failure.
    have unestablished : clientOp ≠ .callback .clientEstablished := by
      rintro rfl
      exact fails
    have left := attends.triesLeft there (before.options ▸ bounded) unestablished stepped
    have options := moves_options stepped
    have round : u.manager.websocket.roundTries = s.manager.websocket.roundTries := by
      simp [roundTries, options]
    have begins : (if (StationOp.client clientOp).tries then 1 else 0) = clientOp.tries := by
      cases clientOp <;> rfl
    refine ⟨holding, options.trans before.options, task ▸ before.offline, ?_,
      task ▸ before.unfetched, ?_, ?_⟩
    -- Each attempt that begins is one less that is left.
    · exact moves_untold unestablished stepped before.untold
    · have accounted := before.accounted
      rw [begins]
      simp only [Station.triesLeft, round, task] at accounted ⊢
      omega
    · rw [task]
      intro stopped
      obtain ⟨all, none⟩ := before.ended stopped
      exact ⟨all, by omega⟩
  | @deferred notice rest next told =>
    subst told
    -- The notices that are left were there before.
    have notices : ∀ other ∈ rest, other ∈ s.manager.websocket.deferred := by
      intro other member
      simp [next, member]
    cases notice with
    | connected => exact absurd (by simp [next]) before.untold
    | disconnected =>
      exact before.of_same holding ⟨rfl, rfl, rfl, rfl⟩ notices
        (by simp [Station.runNotice, OcppTask.connectionStateChangedCb]) rfl before.unfetched rfl
    | connectionFailed =>
      exact before.of_same holding ⟨rfl, rfl, rfl, rfl⟩ notices before.offline rfl
        before.unfetched rfl
    | stoppedConnecting =>
      refine before.of_same holding ?_ ?_ before.offline rfl before.unfetched rfl
      · unfold Station.runNotice ConnectivityManager.onWebsocketStoppedConnecting
        dsimp only
        split <;> exact ⟨rfl, rfl, rfl, rfl⟩
      · unfold Station.runNotice ConnectivityManager.onWebsocketStoppedConnecting
        dsimp only
        split <;> exact notices
  | fires armed task manager =>
    exact before.of_same holding (by simp [manager]) (by simp [manager])
      (by rw [task]; exact before.offline) (by rw [task]; rfl)
      (by rw [task]; exact before.unfetched) (by rw [task]; rfl)

/--
A station that never gets a connection makes sixteen rounds of attempts, and then gives up.

It never makes more of them, and it does not give up before all of them are made.
-/
theorem gives_up_after {ops : List StationOp} (bounded : 0 ≤ o.maxConnectionAttempts)
    (fails : ∀ op ∈ ops, Fails op) (finish : run stationStep (started o) ops = some s) :
    tries ops ≤ 16 * (o.maxConnectionAttempts + 1).toNat ∧
      (s.task.stopped = true → tries ops = 16 * (o.maxConnectionAttempts + 1).toNat) := by
  -- The account holds of the history, and at the end nothing is left of it.
  have unconnected : Unconnected o (tries ops) s := by
    refine @run_history_invariant _ _ _ _ _ _ (fun ops s => Unconnected o (tries ops) s)
      (fun _ op => Fails op) ?_ ?_ (meets_of_forall fails) finish
    · intro ops s op u before fails moved
      have after := before.moves bounded fails
        (stationStep_moves before.holding.sound.inOrder moved)
      simpa [tries, List.countP_append, List.countP_singleton] using after
    · exact ⟨holding_started, rfl, by simp [started], List.not_mem_nil, rfl,
        by simp [tries, started_triesLeft bounded], by simp [started]⟩
  obtain ⟨rounds, sum, left⟩ := triesLeft_eq unconnected.holding.sound.counted
  have accounted := unconnected.accounted
  refine ⟨by omega, fun stopped => ?_⟩
  -- When the station has given up, all rounds are over.
  obtain ⟨all, none⟩ := unconnected.ended stopped
  rw [all] at sum
  obtain rfl : rounds = 0 := by
    have total : evseOcppMaxReconnects.toNat = 15 := rfl
    omega
  rw [left, none] at accounted
  omega

/-- A round in which the only attempt fails, with the request to begin the next one. -/
def failedRound : List StationOp :=
  [.client (.initializeConnectionOptions false), .client (.decideReconnect 0),
    .client .giveBackControl, .runDeferred, .runDeferred, .timerFires, .task .wait]

/-- The old thread of a round ends before the next one begins. -/
def nextRound : List StationOp := [.client .exit, .client .join]

/-- With a single attempt a round the station gives up after sixteen of them. -/
theorem gives_up_after_sixteen :
    ∃ s ∈ run stationStep (started { maxConnectionAttempts := 0 })
        ((List.replicate 15 (failedRound ++ nextRound)).flatten ++ failedRound),
      s.task.stopped = true ∧
      tries ((List.replicate 15 (failedRound ++ nextRound)).flatten ++ failedRound) = 16 := by
  obtain ⟨s, finish, stopped⟩ : ∃ s, run stationStep (started { maxConnectionAttempts := 0 })
      ((List.replicate 15 (failedRound ++ nextRound)).flatten ++ failedRound) = some s ∧
      s.task.stopped = true := ⟨_, rfl, by decide +kernel⟩
  have fails : ∀ op ∈ (List.replicate 15 (failedRound ++ nextRound)).flatten ++ failedRound,
      Fails op := by decide +kernel
  exact ⟨s, finish, stopped, (gives_up_after (by decide) fails finish).2 stopped⟩

/-- What the client thread did in a step of the station. -/
def StationOp.client? : StationOp → Option ClientOp
  | .client op => some op
  | _ => none

/-- The waits of a sound station are within the bounds that its options give. -/
structure Waits (o : WebsocketConnectionOptions) (ops : List StationOp) (s : Station) : Prop where
  sound : Sound s
  options : s.manager.websocket.connectionOptions = o
  paced : Paced (ops.filterMap StationOp.client?) s.manager.websocket

/-- Connecting keeps the options, and the waits within their bounds. -/
theorem connect_paced {history : List ClientOp} {m : ConnectivityManager}
    (paced : Paced history m.websocket) :
    m.connect.websocket.connectionOptions = m.websocket.connectionOptions ∧
      Paced history m.connect.websocket := by
  -- A connection that is up is closed, and otherwise there is a new thread.
  unfold ConnectivityManager.connect
  dsimp only
  split_ifs
  · exact ⟨close_kept.1, paced.close⟩
  · exact ⟨startConnecting_kept.1, paced.startConnecting⟩

/-- What does not concern the client thread keeps the waits within their bounds. -/
theorem Waits.aside {ops : List StationOp} (waits : Waits o ops s) (sound : Sound u)
    (other : op.client? = none)
    (manager : u.manager.websocket = s.manager.websocket ∨
      u.manager.websocket = s.manager.websocket.close ∨
      u.manager.websocket = s.manager.connect.websocket) : Waits o (ops ++ [op]) u := by
  have history : (ops ++ [op]).filterMap StationOp.client? = ops.filterMap StationOp.client? := by
    simp [List.filterMap_append, other]
  obtain ⟨-, options, paced⟩ := waits
  rcases manager with same | closed | connected
  · exact ⟨sound, by rw [same, options], by rw [history, same]; exact paced⟩
  · exact ⟨sound, by rw [closed, ← options]; exact close_kept.1,
      by rw [history, closed]; exact paced.close⟩
  · obtain ⟨kept, paced⟩ := connect_paced paced
    exact ⟨sound, by rw [connected, kept, options], by rw [history, connected]; exact paced⟩

/-- Every step keeps the waits within their bounds. -/
theorem Waits.moves {ops : List StationOp} (fits : o.Fits) (waits : Waits o ops s)
    (moves : StationMoves s u op) : Waits o (ops ++ [op]) u := by
  have sound := waits.sound.moves moves
  cases moves with
  | task stepped turns calls =>
    cases turns with
    | connects runs asked offline left fetched same more goesOn told =>
      exact waits.aside sound rfl (.inr (.inr (by rw [(calls.connects told).2])))
    | stops runs asked offline spent fetched same counted ends told =>
      exact waits.aside sound rfl (.inr (.inl (by rw [(calls.stops told).2]; rfl)))
    | fetches runs unasked fetched same counted goesOn told =>
      exact waits.aside sound rfl (.inl (by rw [calls.silent told]))
    | reports other asked same counted goesOn told silent =>
      rcases calls.reports told with manager | ⟨free, manager⟩
      · exact waits.aside sound rfl (.inl (by rw [manager]))
      · exact waits.aside sound rfl (.inr (.inl (by rw [manager]; rfl)))
  | boots task manager => exact waits.aside sound rfl (.inl (by rw [manager]))
  | @client clientOp task moved wants timer =>
    -- Only the client thread itself makes a round go on.
    obtain ⟨data, there, stepped⟩ := clientStep_moves moved
    have attends := waits.sound.inOrder.attends data there
    have history : (ops ++ [StationOp.client clientOp]).filterMap StationOp.client? =
        ops.filterMap StationOp.client? ++ [clientOp] := by
      simp [List.filterMap_append, StationOp.client?]
    refine ⟨sound, (moves_options stepped).trans waits.options, ?_⟩
    rw [history]
    exact waits.paced.moves (waits.options ▸ fits) there attends stepped
  | @deferred notice rest next told =>
    have history : (ops ++ [StationOp.runDeferred]).filterMap StationOp.client? =
        ops.filterMap StationOp.client? := by
      simp [List.filterMap_append, StationOp.client?]
    obtain ⟨-, options, paced⟩ := waits
    have still : Paced (ops.filterMap StationOp.client?)
        { s.manager.websocket with deferred := rest } :=
      ⟨paced.ended, paced.counted, paced.chosen, paced.within⟩
    subst told
    cases notice with
    | stoppedConnecting =>
      unfold Station.runNotice ConnectivityManager.onWebsocketStoppedConnecting at sound ⊢
      dsimp only at sound ⊢
      split_ifs at sound ⊢ <;> exact ⟨sound, options, by rw [history]; exact still⟩
    | _ => exact ⟨sound, options, by rw [history]; exact still⟩
  | fires armed task manager => exact waits.aside sound rfl (.inl (by rw [manager]))
  | certificate task free manager =>
    exact waits.aside sound rfl (.inr (.inl (by rw [manager]; rfl)))

/--
The wait before a further attempt lies between bounds that are doubled from attempt to attempt.

They are doubled as often as the options say, and stay as they are after that. A round begins again
when a connection came up or a thread ended.
-/
theorem wait_paced {ops : List StationOp} (fits : o.Fits)
    (ran : run stationStep (started o) ops = some s) {data : ConnectionData}
    (there : s.manager.websocket.connData = some data) (waiting : data.stage = .waiting)
    (running : data.isRunning = true) :
    ∃ before, waitsOfRound (ops.filterMap StationOp.client?) = before + 1 ∧
      s.manager.websocket.connectionAttempts = before + 2 ∧
      o.Paces before s.manager.websocket.reconnectBackoffMs := by
  have waits : Waits o ops s := by
    refine @run_history_invariant _ _ _ _ _ _ (Waits o) (fun _ _ => True) ?_ ?_
      (meets_of_forall fun _ _ => trivial) ran
    · intro ops s op u waits _ moved
      exact waits.moves fits (stationStep_moves waits.sound.inOrder moved)
    · refine ⟨sound_started, rfl, .of_first rfl rfl fun _ same waiting => ?_⟩
      obtain rfl := Option.some.inj same
      cases waiting
  have inRound : data.InRound := by simp [ConnectionData.InRound, running, waiting]
  have counted := waits.paced.counted data there inRound
  have some := waits.paced.chosen data there inRound waiting
  obtain ⟨before, many⟩ := Nat.exists_eq_succ_of_ne_zero some
  have within := waits.paced.within data there inRound before many
  rw [waits.options] at within
  exact ⟨before, many, by omega, within⟩

/-- The second wait of a round is at least twice as long as the shortest one. -/
theorem wait_paced_second :
    ∃ s ∈ run stationStep (started {}) [.client (.initializeConnectionOptions false),
        .client (.decideReconnect 1), .client .waitForAttempt,
        .client (.initializeConnectionOptions false), .client (.decideReconnect 2)],
      102000 ≤ s.manager.websocket.reconnectBackoffMs ∧
        s.manager.websocket.reconnectBackoffMs ≤ 108000 := by
  obtain ⟨s, finish, data, there, waiting, running⟩ : ∃ s,
      run stationStep (started {}) [.client (.initializeConnectionOptions false),
        .client (.decideReconnect 1), .client .waitForAttempt,
        .client (.initializeConnectionOptions false), .client (.decideReconnect 2)] = some s ∧
      ∃ data, s.manager.websocket.connData = some data ∧ data.stage = .waiting ∧
        data.isRunning = true := ⟨_, rfl, _, rfl, rfl, rfl⟩
  have fits : WebsocketConnectionOptions.Fits {} := ⟨by decide, by decide, by decide⟩
  obtain ⟨before, counted, _, paces⟩ := wait_paced fits finish there waiting running
  obtain rfl : before = 1 := Nat.succ.inj counted.symm
  simp only [WebsocketConnectionOptions.Paces] at paces
  norm_num at paces
  exact ⟨s, finish, by omega, by omega⟩

end EasyEvse.Connectivity
