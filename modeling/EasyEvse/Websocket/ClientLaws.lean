import EasyEvse.Websocket.ClientLoop

/-! What the steps of the client thread do, and what they keep in order. -/

namespace EasyEvse.Websocket

open Transition WebsocketLibwebsockets

/-- What a step of the client thread does, with one case for each outcome. -/
inductive ThreadMoves (w : WebsocketLibwebsockets) (data : ConnectionData) :
    ClientOp → WebsocketLibwebsockets → Prop
  | setsUp (stage : data.stage = .initializing) :
      ThreadMoves w data (.initializeConnectionOptions true) (w.withData
        { data with isStoppedRun := false, wsi := .handshaking, stage := .connecting })
  | setsUpNot (stage : data.stage = .initializing) :
      ThreadMoves w data (.initializeConnectionOptions false)
        (w.onConnFail { data with state := .error, stage := .deciding })
  | connects (stage : data.stage = .connecting) :
      ThreadMoves w data (.connectViaInfo true)
        (w.withData { data with stage := .servicing })
  | connectsNot (stage : data.stage = .connecting) (unmade : data.wsi ≠ .established) :
      ThreadMoves w data (.connectViaInfo false)
        (w.onConnFail { data with state := .error, stage := .resetting })
  | handshakes (stage : data.stage.CallsBack) (wsi : data.wsi = .handshaking) :
      ThreadMoves w data (.callback .connecting)
        (w.withData { data with state := .connecting })
  | refused (unauthorized : Bool) (stage : data.stage.CallsBack) (wsi : data.wsi = .handshaking) :
      ThreadMoves w data (.callback (.clientConnectionError unauthorized))
        { w.onConnFail { data with wsi := .closed, state := .error } with
          deferred := (if unauthorized then w.deferred ++ [.connectionFailed] else w.deferred) ++
            if w.mIsConnected then [.disconnected] else [] }
  | comesUp (stage : data.stage.CallsBack) (wsi : data.wsi = .handshaking) :
      ThreadMoves w data (.callback .clientEstablished)
        (w.onConnConnected { data with wsi := .established, state := .connected })
  | peerCloses (stage : data.stage.CallsBack) (wsi : data.wsi = .established) :
      ThreadMoves w data (.callback .wsPeerInitiatedClose)
        (w.onConnFail { data with state := .error })
  | goesAway (stage : data.stage.CallsBack) (wsi : data.wsi = .established)
      (wanted : data.isRunning = true) : ThreadMoves w data (.callback .clientClosed)
        (w.onConnFail { data with wsi := .closed, state := .error })
  | closes (stage : data.stage.CallsBack) (wsi : data.wsi = .established)
      (interrupted : data.isRunning = false) : ThreadMoves w data (.callback .clientClosed)
        (w.onConnClose { data with wsi := .closed, state := .finalized })
  | destroyed (stage : data.stage.CallsBack) (wsi : data.wsi ≠ .absent) :
      ThreadMoves w data (.callback .wsiDestroy)
        (w.onConnFail { data with wsi := .absent, state := .error })
  | serves (stage : data.stage = .servicing) : ThreadMoves w data (.service false) w
  | servesNot (failed : Bool) (stage : data.stage = .servicing) :
      ThreadMoves w data (.service failed)
        (w.withData { data with stage := .resetting })
  | resets (stage : data.stage = .resetting) (gone : data.wsi ≠ .established) :
      ThreadMoves w data .resetConnectionData
        (w.withData { data with wsi := .absent, stage := .deciding })
  | leaves (randomNumber : ℕ) (stage : data.stage = .deciding)
      (ends : data.isRunning = false ∨ data.state = .finalized) :
      ThreadMoves w data (.decideReconnect randomNumber)
        (w.withData { data with stage := .leaving })
  | retries (randomNumber : ℕ) (stage : data.stage = .deciding) (running : data.isRunning = true)
      (random : randomNumber ≤ w.connectionOptions.retryBackoffRandomRangeS)
      (allowed : w.connectionOptions.maxConnectionAttempts = -1 ∨
        w.connectionAttempts ≤ w.connectionOptions.maxConnectionAttempts) :
      ThreadMoves w data (.decideReconnect randomNumber)
        { w.getReconnectInterval randomNumber with
          connData := some { data with state := .reconnecting, stage := .waiting }
          connectionAttempts := w.connectionAttempts + 1 }
  | givesUp (randomNumber : ℕ) (stage : data.stage = .deciding) (running : data.isRunning = true)
      (unbounded : w.connectionOptions.maxConnectionAttempts ≠ -1)
      (exhausted : w.connectionOptions.maxConnectionAttempts < w.connectionAttempts) :
      ThreadMoves w data (.decideReconnect randomNumber)
        (w.withData { data with state := .finalized, stage := .leaving })
  | goesOn (randomNumber : ℕ) (stage : data.stage = .deciding) (running : data.isRunning = true)
      (connected : data.state = .connected) : ThreadMoves w data (.decideReconnect randomNumber)
        (w.withData { data with stage := .initializing })
  | waits (stage : data.stage = .waiting) :
      ThreadMoves w data .waitForAttempt (w.waitForAttempt data)
  | tells (stage : data.stage = .leaving) (untold : data.isStoppedRun = false) :
      ThreadMoves w data .giveBackControl
        { w with
          connData := some { data with stage := .idling }
          deferred := w.deferred ++ [.stoppedConnecting, .disconnected] }
  | toldBefore (stage : data.stage = .leaving) (told : data.isStoppedRun = true) :
      ThreadMoves w data .giveBackControl
        (w.withData { data with stage := .idling })
  | exits (stage : data.stage = .idling) (interrupted : data.isRunning = false) :
      ThreadMoves w data .exit (w.withData { data with stage := .exited })
  | joins (joining : Joining) (stage : data.stage = .exited) (waiting : w.joining = some joining) :
      ThreadMoves w data .join (w.finishJoining joining)

variable {w v : WebsocketLibwebsockets} {data : ConnectionData} {op : ClientOp}

/-- A step in a stage needs that stage. -/
theorem inStage_eq_some {stage : ClientStage} :
    inStage data stage w = some v ↔ data.stage = stage ∧ w = v := by
  simp [inStage]

/-- What a decision leads to is one of four outcomes. -/
theorem decideReconnect_moves {randomNumber : ℕ} (stage : data.stage = .deciding)
    (random : randomNumber ≤ w.connectionOptions.retryBackoffRandomRangeS) :
    ThreadMoves w data (.decideReconnect randomNumber) (w.decideReconnect data randomNumber) := by
  -- The three questions are asked one after the other.
  unfold decideReconnect
  split_ifs with ends unconnected allowed
  · exact .leaves _ stage ends
  · exact .retries _ stage (Bool.of_not_eq_false (not_or.mp ends).1) random allowed
  · obtain ⟨unbounded, exhausted⟩ := not_or.mp allowed
    exact .givesUp _ stage (Bool.of_not_eq_false (not_or.mp ends).1) unbounded
      (Int.not_le.mp exhausted)
  · exact .goesOn _ stage (Bool.of_not_eq_false (not_or.mp ends).1) (not_not.mp unconnected)

/-- What a callback leads to is one of seven outcomes. -/
theorem callback_moves {reason : CallbackReason} {wsi : Wsi} (stage : data.stage.CallsBack)
    (next : data.wsi.next reason = some wsi) : ThreadMoves w data (.callback reason)
      (w.processCallback { data with wsi } reason) := by
  -- The reason and the connection decide together what is left of it.
  cases reason with
  | connecting =>
    cases handshaking : data.wsi <;> simp [handshaking, Wsi.next] at next
    subst next
    have moves := ThreadMoves.handshakes (w := w) stage handshaking
    rwa [← handshaking]
  | clientConnectionError unauthorized =>
    cases handshaking : data.wsi <;> simp [handshaking, Wsi.next] at next
    subst next
    have moves := ThreadMoves.refused (w := w) unauthorized stage handshaking
    cases unauthorized <;> cases connected : w.mIsConnected <;>
      simpa [processCallback, onConnFail, connected] using moves
  | clientEstablished =>
    cases handshaking : data.wsi <;> simp [handshaking, Wsi.next] at next
    subst next
    exact .comesUp stage handshaking
  | wsPeerInitiatedClose =>
    cases established : data.wsi <;> simp [established, Wsi.next] at next
    subst next
    have moves := ThreadMoves.peerCloses (w := w) stage established
    rwa [← established]
  | clientClosed =>
    cases established : data.wsi <;> simp [established, Wsi.next] at next
    subst next
    unfold processCallback
    split_ifs with wanted
    · exact .goesAway stage established wanted
    · exact .closes stage established (by simpa using wanted)
  | wsiDestroy =>
    have there : data.wsi ≠ .absent := by
      intro absent
      simp [absent, Wsi.next] at next
    have gone : wsi = .absent := by
      cases present : data.wsi <;> simp_all [Wsi.next]
    subst gone
    exact .destroyed stage there

/-- Every step of the client thread has one of these outcomes. -/
theorem threadStep_moves (moved : threadStep w data op = some v) : ThreadMoves w data op v := by
  -- Each step is possible in one stage, and has one outcome for each answer it can get.
  cases op with
  | initializeConnectionOptions success =>
    obtain ⟨stage, rfl⟩ := inStage_eq_some.mp moved
    cases success
    · exact .setsUpNot stage
    · exact .setsUp stage
  | connectViaInfo success =>
    simp only [threadStep] at moved
    -- A connection that is established already cannot fail to be made.
    split_ifs at moved with impossible
    obtain ⟨stage, rfl⟩ := inStage_eq_some.mp moved
    cases success
    · exact .connectsNot stage (by simpa using impossible)
    · exact .connects stage
  | callback reason =>
    simp only [threadStep] at moved
    -- Libwebsockets calls back while the thread connects, serves or resets.
    split_ifs at moved with stage
    obtain ⟨wsi, next, rfl⟩ := Option.map_eq_some_iff.mp moved
    exact callback_moves stage next
  | service failed =>
    obtain ⟨stage, rfl⟩ := inStage_eq_some.mp moved
    simp only [WebsocketLibwebsockets.service]
    -- The thread serves until it is interrupted, the connection fails, or the state is an end.
    split_ifs with processing
    · exact processing.1 ▸ .serves stage
    · exact .servesNot failed stage
  | resetConnectionData =>
    simp only [threadStep] at moved
    split_ifs at moved with there
    obtain ⟨stage, rfl⟩ := inStage_eq_some.mp moved
    exact .resets stage there
  | decideReconnect randomNumber =>
    simp only [threadStep] at moved
    -- The random number is within the range that the options give.
    split_ifs at moved with random
    obtain ⟨stage, rfl⟩ := inStage_eq_some.mp moved
    exact decideReconnect_moves stage random
  | waitForAttempt =>
    obtain ⟨stage, rfl⟩ := inStage_eq_some.mp moved
    exact .waits stage
  | giveBackControl =>
    obtain ⟨stage, rfl⟩ := inStage_eq_some.mp moved
    simp only [giveBackControl]
    split_ifs with told
    · exact .toldBefore stage told
    · exact .tells stage (by simpa using told)
  | exit =>
    simp only [threadStep] at moved
    split_ifs at moved with running
    obtain ⟨stage, rfl⟩ := inStage_eq_some.mp moved
    exact .exits stage (by simpa using running)
  | join =>
    simp only [threadStep] at moved
    split_ifs at moved with ended
    obtain ⟨joining, waiting, rfl⟩ := Option.map_eq_some_iff.mp moved
    exact .joins joining ended waiting

/-- What the flags of a websocket and the thread of its connection agree on. -/
structure Attends (w : WebsocketLibwebsockets) (data : ConnectionData) : Prop where
  linked : w.mIsConnected = true → data.wsi = .established
  shown : data.state = .connected → data.wsi = .established
  served : data.wsi ≠ .absent → data.stage.CallsBack
  interrupted : data.isRunning = false ↔ w.joining ≠ none
  ended : data.stage = .exited → data.isRunning = false
  -- A connection is finalized by a thread that is interrupted or leaves.
  final : data.state = .finalized → data.isRunning = false ∨ data.stage = .leaving ∨
    data.stage = .idling
  -- The end is told early only by a thread that is interrupted, and does not connect again.
  told : data.isStoppedRun = true → data.isRunning = false ∧
    (data.wsi = .absent ∨ data.wsi = .closed) ∧ data.stage ≠ .initializing ∧ data.stage ≠ .waiting

/-- A websocket is in order with its thread, or has none, and then nothing waits for it. -/
structure InOrder (w : WebsocketLibwebsockets) : Prop where
  attends : ∀ data ∈ w.connData, Attends w data
  alone : w.connData = none → w.mIsConnected = false ∧ w.joining = none

/-- A websocket with a thread is in order if the two agree. -/
theorem Attends.inOrder (there : w.connData = some data) (attends : Attends w data) :
    InOrder w where
  attends other same := by
    obtain rfl := Option.some.inj (there.symm.trans same)
    exact attends
  alone none := by simp [none] at there

/-- What else a websocket remembers has nothing to do with its order. -/
theorem Attends.of_same (attends : Attends w data) (mIsConnected : v.mIsConnected = w.mIsConnected)
    (joining : v.joining = w.joining) : Attends v data where
  linked := mIsConnected ▸ attends.linked
  shown := attends.shown
  served := attends.served
  interrupted := joining ▸ attends.interrupted
  ended := attends.ended
  final := attends.final
  told := attends.told

/-- A stage in which libwebsockets calls back is part of an attempt. -/
theorem ClientStage.CallsBack.attempts {stage : ClientStage} (calls : stage.CallsBack) :
    stage ≠ .initializing ∧ stage ≠ .waiting := by
  rcases calls with rfl | rfl | rfl <;> simp

/-- A new thread has nothing to do with the connection of the old one. -/
theorem launch_inOrder (down : w.mIsConnected = false) : InOrder w.launch := by
  refine Attends.inOrder rfl ?_
  -- The new thread has no connection yet, and nothing waits for it.
  constructor <;> simp [launch, down]

/-- Where libwebsockets does not call back it has nothing. -/
theorem Attends.absent {stage : ClientStage} (attends : Attends w data)
    (stands : data.stage = stage) (quiet : ¬ stage.CallsBack) : data.wsi = .absent := by
  by_contra there
  exact quiet (stands ▸ attends.served there)

/-- Without an established connection there is none to tell. -/
theorem Attends.unconnected (attends : Attends w data) (unmade : data.wsi ≠ .established) :
    w.mIsConnected = false := by
  by_contra up
  exact unmade (attends.linked (by simpa using up))

/-- When the thread has exited the connection is down. -/
theorem Attends.down (attends : Attends w data) (stage : data.stage = .exited) :
    w.mIsConnected = false := by
  have gone := attends.absent stage (by decide)
  exact attends.unconnected (by simp [gone])

/-- Before the thread leaves its loop, a connection is finalized only when it is interrupted. -/
theorem Attends.unfinished {stage : ClientStage} (attends : Attends w data)
    (stands : data.stage = stage) (within : stage ≠ .leaving ∧ stage ≠ .idling)
    (final : data.state = .finalized) : data.isRunning = false := by
  -- The thread is not at the end, so only an interrupt can have finalized its connection.
  rcases attends.final final with interrupted | leaving | idling
  · exact interrupted
  · exact absurd (stands.symm.trans leaving) within.1
  · exact absurd (stands.symm.trans idling) within.2

/-- The thread goes on to a stage that agrees with its connection. -/
theorem Attends.enters {next : ClientStage} (attends : Attends w data)
    (served : data.wsi ≠ .absent → next.CallsBack) (ended : next = .exited → data.isRunning = false)
    (final : data.state = .finalized → data.isRunning = false ∨ next = .leaving ∨ next = .idling)
    (told : data.isStoppedRun = true → next ≠ .initializing ∧ next ≠ .waiting) :
    InOrder (w.withData { data with stage := next }) :=
  Attends.inOrder rfl
    { linked := attends.linked
      shown := attends.shown
      served := served
      interrupted := attends.interrupted
      ended := ended
      final := final
      told := fun stopped => ⟨(attends.told stopped).1, (attends.told stopped).2.1, told stopped⟩ }

/-- The connection fails, whatever libwebsockets still has of it. -/
theorem Attends.fails {wsi : Wsi} {next : ClientStage} (attends : Attends w data)
    (served : wsi ≠ .absent → next.CallsBack) (ended : next = .exited → data.isRunning = false)
    (told : data.isStoppedRun = true →
      (wsi = .absent ∨ wsi = .closed) ∧ next ≠ .initializing ∧ next ≠ .waiting) :
    InOrder (w.onConnFail { data with wsi := wsi, state := .error, stage := next }) :=
  Attends.inOrder rfl
    { linked := by simp [onConnFail]
      shown := by simp
      served := served
      interrupted := attends.interrupted
      ended := ended
      final := by simp
      told := fun stopped => ⟨(attends.told stopped).1, told stopped⟩ }

/-- A callback keeps the websocket in order with its thread, which stays where it is. -/
theorem Attends.called {reason : CallbackReason} (attends : Attends w data)
    (moves : ThreadMoves w data (.callback reason) v) : InOrder v := by
  -- The reason of the callback decides what is left of the connection.
  cases moves with
  | handshakes stage wsi =>
    exact Attends.inOrder rfl ⟨attends.linked, by simp, attends.served, attends.interrupted,
      attends.ended, by simp, attends.told⟩
  | refused unauthorized stage wsi =>
    have failed : InOrder (w.onConnFail { data with wsi := .closed, state := .error }) :=
      -- A refused connection is closed, and its failure is told after that.
      attends.fails (fun _ => stage) attends.ended
        fun stopped => ⟨.inr rfl, (attends.told stopped).2.2⟩
    exact Attends.inOrder rfl ((failed.attends _ rfl).of_same rfl rfl)
  | comesUp stage wsi =>
    -- The thread is not told to have stopped while there is a handshake.
    have untold : data.isStoppedRun ≠ true := fun stopped => by
      have gone := (attends.told stopped).2.1
      simp [wsi] at gone
    exact Attends.inOrder rfl ⟨fun _ => rfl, fun _ => rfl, fun _ => stage, attends.interrupted,
      attends.ended, by simp, fun stopped => absurd stopped untold⟩
  | peerCloses stage wsi =>
    -- A thread that told its end has no connection that a peer could close.
    refine attends.fails (fun _ => stage) attends.ended fun stopped => ?_
    have gone := (attends.told stopped).2.1
    simp [wsi] at gone
  | goesAway stage wsi wanted =>
    exact attends.fails (fun _ => stage) attends.ended
      fun stopped => ⟨.inr rfl, (attends.told stopped).2.2⟩
  | closes stage wsi interrupted =>
    exact Attends.inOrder rfl ⟨by simp [onConnClose], by simp, fun _ => stage,
      attends.interrupted, attends.ended, fun _ => .inl interrupted,
      -- The end of an interrupted connection is told at once, where the connection is closed.
      fun _ => ⟨interrupted, .inr rfl, stage.attempts⟩⟩
  | destroyed stage wsi =>
    exact attends.fails (by simp) attends.ended
      fun stopped => ⟨.inl rfl, (attends.told stopped).2.2⟩

/-- Every step of the thread keeps the websocket in order. -/
theorem Attends.moves (there : w.connData = some data) (attends : Attends w data)
    (moves : ThreadMoves w data op v) : InOrder v := by
  have callback := moves
  -- Each move is judged by the stage it begins in, as the stage tells what can be connected.
  cases moves with
  | setsUp stage =>
    -- Nothing was connected before, and nothing was told to have stopped from now on.
    have absent := attends.absent stage (by decide)
    refine Attends.inOrder rfl ⟨fun up => ?_, fun shown => ?_, fun _ => .inl rfl,
      attends.interrupted, by simp, fun final => .inl ?_, by simp⟩
    · exact absurd (attends.linked up) (by simp [absent])
    · exact absurd (attends.shown shown) (by simp [absent])
    · exact attends.unfinished stage (by decide) final
  | setsUpNot stage =>
    have absent := attends.absent stage (by decide)
    exact attends.fails (absurd absent) (by simp)
      fun stopped => absurd stage (attends.told stopped).2.2.1
  | connects stage =>
    exact attends.enters (fun _ => .inr (.inl rfl)) (by simp)
      (fun final => .inl (attends.unfinished stage (by decide) final)) (by simp)
  | connectsNot stage unmade =>
    exact attends.fails (fun _ => .inr (.inr rfl)) (by simp)
      fun stopped => ⟨(attends.told stopped).2.1, by simp, by simp⟩
  | handshakes | refused | comesUp | peerCloses | goesAway | closes | destroyed =>
    exact attends.called callback
  | serves stage => exact attends.inOrder there
  | servesNot failed stage =>
    exact attends.enters (fun _ => .inr (.inr rfl)) (by simp)
      (fun final => .inl (attends.unfinished stage (by decide) final)) (by simp)
  | resets stage gone =>
    -- With the connection reset, nothing of libwebsockets is left.
    refine Attends.inOrder rfl ⟨fun up => ?_, fun shown => ?_, by simp, attends.interrupted,
      by simp, fun final => .inl ?_, fun stopped => ?_⟩
    · exact absurd (attends.linked up) gone
    · exact absurd (attends.shown shown) gone
    · exact attends.unfinished stage (by decide) final
    · exact ⟨(attends.told stopped).1, .inl rfl, by simp, by simp⟩
  | leaves randomNumber stage ends =>
    have absent := attends.absent stage (by decide)
    exact attends.enters (absurd absent) (by simp) (fun _ => .inr (.inl rfl)) (by simp)
  | retries randomNumber stage running random allowed =>
    have absent := attends.absent stage (by decide)
    have untold : data.isStoppedRun ≠ true := fun stopped => by
      have interrupted := (attends.told stopped).1
      simp [running] at interrupted
    unfold getReconnectInterval
    split_ifs <;> exact Attends.inOrder rfl ⟨attends.linked, by simp, absurd absent,
      attends.interrupted, by simp, by simp, fun stopped => absurd stopped untold⟩
  | givesUp randomNumber stage running unbounded exhausted =>
    have absent := attends.absent stage (by decide)
    exact Attends.inOrder rfl ⟨attends.linked, by simp, absurd absent, attends.interrupted,
      by simp, fun _ => .inr (.inl rfl),
      fun stopped => ⟨(attends.told stopped).1, .inl absent, by simp, by simp⟩⟩
  | goesOn randomNumber stage running connected =>
    -- Where this is decided there is no connection any more.
    have absent := attends.absent stage (by decide)
    exact absurd (attends.shown connected) (by simp [absent])
  | waits stage =>
    have absent := attends.absent stage (by decide)
    -- A wait ends with a new attempt, or where an interrupt sends the thread.
    refine attends.enters (absurd absent) (fun exited => ?_) (fun final => .inl ?_)
      fun stopped => ?_
    · split_ifs at exited
    · exact attends.unfinished stage (by decide) final
    · simp [(attends.told stopped).1]
  | tells stage untold =>
    have absent := attends.absent stage (by decide)
    have idles : InOrder (w.withData { data with stage := .idling }) :=
      attends.enters (absurd absent) (by simp) (fun _ => .inr (.inr rfl)) (by simp)
    exact Attends.inOrder rfl ((idles.attends _ rfl).of_same rfl rfl)
  | toldBefore stage told =>
    have absent := attends.absent stage (by decide)
    exact attends.enters (absurd absent) (by simp) (fun _ => .inr (.inr rfl)) (by simp)
  | exits stage interrupted =>
    have absent := attends.absent stage (by decide)
    exact attends.enters (absurd absent) (fun _ => interrupted) (fun _ => .inl interrupted)
      (by simp)
  | joins joining stage waiting =>
    have down := attends.down stage
    -- A thread that was joined makes way for a new one, or leaves the websocket without any.
    cases joining with
    | startConnecting => exact launch_inOrder down
    | close => exact ⟨by simp [finishJoining], by simp [finishJoining]⟩

/-- A step of the thread is one of its moves. -/
theorem clientStep_moves (moved : clientStep w op = some v) :
    ∃ data, w.connData = some data ∧ ThreadMoves w data op v := by
  obtain ⟨data, there, stepped⟩ := Option.bind_eq_some_iff.mp moved
  exact ⟨data, there, threadStep_moves stepped⟩

/-- Every step of the client thread keeps the websocket in order. -/
theorem InOrder.step (inOrder : InOrder w) (moved : clientStep w op = some v) : InOrder v := by
  obtain ⟨data, there, moves⟩ := clientStep_moves moved
  exact (inOrder.attends data there).moves there moves

/-- Asking the thread to end changes neither the options nor the notices. -/
theorem safeCloseThreads_kept (joining : Joining) :
    (w.safeCloseThreads joining).connectionOptions = w.connectionOptions ∧
      (w.safeCloseThreads joining).deferred = w.deferred := by
  -- Without a thread the call goes through at once, and otherwise it waits for the join.
  unfold safeCloseThreads
  split
  · cases joining <;> exact ⟨rfl, rfl⟩
  · exact ⟨rfl, rfl⟩

/-- Closing changes neither the options nor the notices. -/
theorem close_kept : w.close.connectionOptions = w.connectionOptions ∧
    w.close.deferred = w.deferred := by
  unfold WebsocketLibwebsockets.close
  split_ifs
  · exact safeCloseThreads_kept _
  · exact ⟨rfl, rfl⟩

/-- Connecting changes neither the options nor the notices. -/
theorem startConnecting_kept :
    w.setConnectionOptions.startConnecting.connectionOptions = w.connectionOptions ∧
      w.setConnectionOptions.startConnecting.deferred = w.deferred :=
  safeCloseThreads_kept (w := w.setConnectionOptions) _

/-- Only a connection that comes up is told to be there. -/
theorem moves_untold (fails : op ≠ .callback .clientEstablished) (moves : ThreadMoves w data op v)
    (untold : .connected ∉ w.deferred) : .connected ∉ v.deferred := by
  -- Every other step leaves the notices alone, or adds one of another kind.
  cases moves with
  | comesUp stage wsi => exact absurd rfl fails
  | joins joining stage waiting => cases joining <;> exact untold
  | retries randomNumber stage running random allowed =>
    unfold getReconnectInterval
    split_ifs <;> exact untold
  | _ => grind [withData, waitForAttempt, onConnFail, onConnClose]

/-- Asking the thread to end keeps the websocket in order. -/
theorem InOrder.safeCloseThreads (inOrder : InOrder w) (joining : Joining) :
    InOrder (w.safeCloseThreads joining) := by
  unfold WebsocketLibwebsockets.safeCloseThreads
  cases there : w.connData with
  | none =>
    have down := (inOrder.alone there).1
    cases joining with
    | startConnecting => exact launch_inOrder down
    | close => exact ⟨by simp [finishJoining], by simp [finishJoining]⟩
  | some data =>
    -- The thread is left where it is, and only finds itself interrupted.
    have attends := inOrder.attends data there
    exact Attends.inOrder rfl ⟨attends.linked, attends.shown, attends.served, by simp,
      fun _ => rfl, fun _ => .inl rfl, fun stopped => ⟨rfl, (attends.told stopped).2⟩⟩

/-- Closing keeps the websocket in order. -/
theorem InOrder.close (inOrder : InOrder w) : InOrder w.close := by
  unfold WebsocketLibwebsockets.close
  split
  · exact inOrder.safeCloseThreads _
  · exact inOrder

/-- Nothing else that a websocket remembers can bring it out of order. -/
theorem InOrder.of_same (inOrder : InOrder w) (connData : v.connData = w.connData)
    (mIsConnected : v.mIsConnected = w.mIsConnected) (joining : v.joining = w.joining) :
    InOrder v := by
  refine ⟨fun data there => ?_, ?_⟩
  · exact (inOrder.attends data (connData ▸ there)).of_same mIsConnected joining
  · rw [connData, mIsConnected, joining]
    exact inOrder.alone

/-- Connecting keeps the websocket in order. -/
theorem InOrder.startConnecting (inOrder : InOrder w) :
    InOrder w.setConnectionOptions.startConnecting := by
  have set : InOrder w.setConnectionOptions := inOrder.of_same rfl rfl rfl
  exact set.safeCloseThreads .startConnecting

/-- The thread connects, or will tell that it stopped connecting. -/
def ConnectionData.Connects (data : ConnectionData) : Prop :=
  data.isStoppedRun = false ∧ data.stage ≠ .idling ∧ data.stage ≠ .exited

instance : DecidablePred ConnectionData.Connects := fun _ => inferInstanceAs (Decidable (_ ∧ _ ∧ _))

/-- How many of the parts of a websocket lead to a connection, or to a word that there is none. -/
def WebsocketLibwebsockets.holders (w : WebsocketLibwebsockets) : ℕ :=
  (if ∃ data ∈ w.connData, data.Connects then 1 else 0) +
    (if w.joining = some .startConnecting then 1 else 0) + w.deferred.count .stoppedConnecting

/-- The holders of a websocket with a thread. -/
theorem holders_some (there : w.connData = some data) : w.holders =
    (if data.Connects then 1 else 0) + (if w.joining = some .startConnecting then 1 else 0) +
      w.deferred.count .stoppedConnecting := by
  simp [WebsocketLibwebsockets.holders, there]

/-- A thread with a connection has not told its end. -/
theorem Attends.connects (attends : Attends w data) (there : data.wsi ≠ .absent)
    (open_ : data.wsi ≠ .closed) : data.Connects := by
  have calls := attends.served there
  have untold : data.isStoppedRun = false := by
    -- Its end would have been told only with the connection gone.
    by_contra told
    obtain ⟨-, gone | gone, -⟩ := attends.told (by simpa using told)
    · exact there gone
    · exact open_ gone
  refine ⟨untold, fun idling => ?_, fun exited => ?_⟩
  · exact absurd (idling ▸ calls) (by decide)
  · exact absurd (exited ▸ calls) (by decide)

/-- No connection comes up for a thread that does not connect. -/
theorem Attends.idle_fails (attends : Attends w data) (idle : ¬ data.Connects)
    (moves : ThreadMoves w data op v) : op ≠ .callback .clientEstablished := by
  rintro rfl
  cases moves with
  | comesUp stage wsi => exact idle (attends.connects (by simp [wsi]) (by simp [wsi]))

/-- What leads to a connection is the thread, the call that waits for it, and the notices. -/
theorem holders_of_same {next : ConnectionData} (there : w.connData = some data)
    (left : v.connData = some next) (joining : v.joining = w.joining)
    (connects : next.Connects ↔ data.Connects)
    (deferred : v.deferred.count .stoppedConnecting = w.deferred.count .stoppedConnecting) :
    v.holders = w.holders := by
  rw [holders_some there, holders_some left, joining, deferred]
  simp only [connects]

/-- A connection that fails is no reason to stop connecting. -/
theorem onConnFail_count : (w.onConnFail data).deferred.count .stoppedConnecting =
    w.deferred.count .stoppedConnecting := by
  -- A connection that was shown is told to be gone, which is another notice.
  unfold onConnFail
  dsimp only
  split
  · simp
  · rfl

/-- A thread that tells its end is one holder less, and its notice is one more. -/
theorem holders_told {next : ConnectionData} (there : w.connData = some data)
    (left : v.connData = some next) (joining : v.joining = w.joining)
    (connected : data.Connects) (ended : ¬ next.Connects)
    (told : v.deferred = w.deferred ++ [.stoppedConnecting, .disconnected]) :
    v.holders = w.holders := by
  have counted : v.deferred.count .stoppedConnecting =
      w.deferred.count .stoppedConnecting + 1 := by
    simp [told]
  rw [holders_some there, holders_some left, joining, counted, if_pos connected, if_neg ended]
  omega

/-- No step of the client thread loses or doubles what leads to the next connection. -/
theorem Attends.holders (there : w.connData = some data) (attends : Attends w data)
    (moves : ThreadMoves w data op v) : v.holders = w.holders := by
  -- What connects passes from the thread to its notice, and from a call to the new thread.
  cases moves with
  | setsUp stage =>
    have untold : data.isStoppedRun = false := by
      by_contra stopped
      exact (attends.told (Bool.of_not_eq_false stopped)).2.2.1 stage
    exact holders_of_same there rfl rfl (by simp [ConnectionData.Connects, stage, untold]) rfl
  | setsUpNot stage | connectsNot stage =>
    exact holders_of_same there rfl rfl (by simp [ConnectionData.Connects, stage]) onConnFail_count
  | connects stage | servesNot _ stage | resets stage | leaves _ stage | givesUp _ stage
  | goesOn _ stage =>
    exact holders_of_same there rfl rfl (by simp [ConnectionData.Connects, stage]) rfl
  | handshakes stage wsi => exact holders_of_same there rfl rfl Iff.rfl rfl
  | refused unauthorized stage wsi =>
    -- The notices of a refused connection tell of a failure, and not of the end of the thread.
    refine holders_of_same there rfl rfl Iff.rfl ?_
    cases unauthorized <;> cases w.mIsConnected <;> simp
  | comesUp stage wsi => exact holders_of_same there rfl rfl Iff.rfl (by simp [onConnConnected])
  | peerCloses | goesAway | destroyed =>
    exact holders_of_same there rfl rfl Iff.rfl onConnFail_count
  | closes stage wsi interrupted =>
    -- Closing tells the end, so the notice takes the place of the thread.
    have connected := attends.connects (by simp [wsi]) (by simp [wsi])
    exact holders_told there rfl rfl connected (by simp [ConnectionData.Connects]) rfl
  | serves stage => rfl
  | retries randomNumber stage running random allowed =>
    unfold getReconnectInterval
    split_ifs <;>
      exact holders_of_same there rfl rfl (by simp [ConnectionData.Connects, stage]) rfl
  | waits stage =>
    -- Whether it goes on or leaves its loop, the thread has yet to tell its end.
    refine holders_of_same there rfl rfl ?_ rfl
    cases data.isRunning <;> simp [ConnectionData.Connects, stage]
  | tells stage untold =>
    exact holders_told there rfl rfl ⟨untold, by simp [stage], by simp [stage]⟩
      (by simp [ConnectionData.Connects]) rfl
  | toldBefore stage told =>
    exact holders_of_same there rfl rfl (by simp [ConnectionData.Connects, told]) rfl
  | exits stage interrupted =>
    exact holders_of_same there rfl rfl (by simp [ConnectionData.Connects, stage]) rfl
  | joins joining stage waiting =>
    -- What the call that waits has taken over it hands to the new thread.
    rw [holders_some there]
    cases joining <;>
      simp [finishJoining, launch, WebsocketLibwebsockets.holders, ConnectionData.Connects, stage,
        waiting]

/-- A close that leaves nothing to wait for found nothing to close. -/
theorem close_of_free (inOrder : InOrder w) (free : w.close.joining = none) : w.close = w := by
  unfold WebsocketLibwebsockets.close at free ⊢
  split_ifs at free ⊢ with open_
  · -- Without a thread there is no connection either, and with one it would be waited for.
    cases there : w.connData with
    | none =>
      have down := (inOrder.alone there).1
      simp [isTryingToConnectInternal, there, down] at open_
    | some data => simp [safeCloseThreads, there] at free
  · rfl

/-- Closing hands on what leads to the next connection. -/
theorem holders_close (inOrder : InOrder w) (free : w.joining = none) :
    w.close.holders = w.holders := by
  unfold WebsocketLibwebsockets.close
  -- Only what tries to connect or is connected is closed.
  split_ifs with open_
  · cases there : w.connData with
    | none =>
      have down := (inOrder.alone there).1
      simp [isTryingToConnectInternal, there, down] at open_
    | some data =>
      simp [safeCloseThreads, there, WebsocketLibwebsockets.holders, ConnectionData.Connects, free]
  · rfl

/-- Connecting is one thing more that leads to a connection, if no thread connects already. -/
theorem holders_startConnecting (free : w.joining = none)
    (idle : ∀ data ∈ w.connData, ¬ data.Connects) :
    w.setConnectionOptions.startConnecting.holders = w.holders + 1 := by
  -- The call starts a thread at once, or waits for the one that is there to end.
  cases there : w.connData with
  | none =>
    simp [setConnectionOptions, startConnecting, safeCloseThreads, there, finishJoining, launch,
      WebsocketLibwebsockets.holders, ConnectionData.Connects, free]
    omega
  | some data =>
    have still : ¬ ({ data with isRunning := false } : ConnectionData).Connects := idle data there
    simp [setConnectionOptions, startConnecting, safeCloseThreads, there,
      WebsocketLibwebsockets.holders, idle data there, still, free]
    omega

/-- A websocket that is connected has a thread that connects. -/
theorem InOrder.connects (inOrder : InOrder w) (up : w.mIsConnected = true) :
    ∃ data ∈ w.connData, data.Connects := by
  cases there : w.connData with
  | none => simp [(inOrder.alone there).1] at up
  | some data =>
    have attends := inOrder.attends data there
    have established := attends.linked up
    exact ⟨data, rfl, attends.connects (by simp [established]) (by simp [established])⟩

/-- Only a notice that the thread stopped leads to the next connection. -/
theorem holders_next {notice : Notice} {rest : List Notice} (next : w.deferred = notice :: rest) :
    w.holders = { w with deferred := rest }.holders +
      if notice = .stoppedConnecting then 1 else 0 := by
  simp only [WebsocketLibwebsockets.holders, next, List.count_cons, beq_iff_eq]
  omega

end EasyEvse.Websocket
