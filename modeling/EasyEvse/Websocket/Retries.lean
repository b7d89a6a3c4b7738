import Mathlib.Algebra.Order.Ring.Int
import Mathlib.Tactic.Linarith
import Mathlib.Tactic.Positivity
import EasyEvse.Websocket.ClientLaws

/-! How often the client thread tries to connect, and how long it waits in between. -/

namespace EasyEvse.Websocket

open Transition WebsocketLibwebsockets

variable {w v : WebsocketLibwebsockets} {data : ConnectionData} {op : ClientOp}

namespace WebsocketLibwebsockets

/-- How many attempts are left after the one that is under way. -/
def retriesLeft (w : WebsocketLibwebsockets) : ℕ :=
  (w.connectionOptions.maxConnectionAttempts + 1 - w.connectionAttempts).toNat

/-- How many attempts a thread makes at most, with all of its retries. -/
def roundTries (w : WebsocketLibwebsockets) : ℕ :=
  (w.connectionOptions.maxConnectionAttempts + 1).toNat

end WebsocketLibwebsockets

/-- How many attempts a thread still makes unless one of them succeeds. -/
def ConnectionData.triesLeft (data : ConnectionData) (retries : ℕ) : ℕ :=
  match data.stage with
  -- An interrupted thread that is about to connect tries that once more.
  | .initializing => 1 + if data.isRunning then retries else 0
  | .waiting => if data.isRunning then 1 + retries else 0
  | .connecting | .servicing | .resetting | .deciding => if data.isRunning then retries else 0
  | .leaving | .idling | .exited => 0

/-- How many attempts a thread and the one that is to follow it still make. -/
def WebsocketLibwebsockets.triesLeft (w : WebsocketLibwebsockets) : ℕ :=
  (w.connData.elim 0 fun data => data.triesLeft w.retriesLeft) +
    if w.joining = some .startConnecting then w.roundTries else 0

/-- An attempt begins. -/
def ClientOp.tries : ClientOp → ℕ
  | .initializeConnectionOptions _ => 1
  | _ => 0

/-- The attempts of a websocket with a thread. -/
theorem triesLeft_some (there : w.connData = some data) : w.triesLeft =
    data.triesLeft w.retriesLeft +
      if w.joining = some .startConnecting then w.roundTries else 0 := by
  simp [WebsocketLibwebsockets.triesLeft, there]

/-- A new thread makes all attempts of a round. -/
theorem launch_triesLeft (bounded : 0 ≤ w.connectionOptions.maxConnectionAttempts) :
    w.launch.triesLeft = w.roundTries := by
  -- The counter of a new thread stands at one, so that all the others of the round are left.
  simp only [launch, WebsocketLibwebsockets.triesLeft, ConnectionData.triesLeft, retriesLeft,
    roundTries, Option.elim_some]
  simp
  omega

/-- Choosing a wait changes nothing else. -/
theorem getReconnectInterval_options (randomNumber : ℕ) :
    (w.getReconnectInterval randomNumber).connectionOptions = w.connectionOptions := by
  unfold getReconnectInterval
  split_ifs <;> rfl

/-- The attempts that are left are those of the thread, and of the one that is to follow it. -/
theorem triesLeft_of_same {next : ConnectionData} {begun : ℕ} (there : w.connData = some data)
    (left : v.connData = some next) (joining : v.joining = w.joining)
    (options : v.connectionOptions = w.connectionOptions)
    (attempts : v.connectionAttempts = w.connectionAttempts)
    (stays : next.triesLeft w.retriesLeft + begun = data.triesLeft w.retriesLeft) :
    v.triesLeft + begun = w.triesLeft := by
  have round : v.roundTries = w.roundTries := by simp [roundTries, options]
  have retries : v.retriesLeft = w.retriesLeft := by simp [retriesLeft, options, attempts]
  rw [triesLeft_some there, triesLeft_some left, joining, round, retries]
  omega

/-- Each step takes as many attempts from those that are left as it begins. -/
theorem Attends.triesLeft (there : w.connData = some data) (attends : Attends w data)
    (bounded : 0 ≤ w.connectionOptions.maxConnectionAttempts)
    (fails : op ≠ .callback .clientEstablished) (moves : ThreadMoves w data op v) :
    v.triesLeft + op.tries = w.triesLeft := by
  -- One case for each step of the thread; most of them leave the counter and the options alone.
  cases moves with
  -- The attempt that begins is the one that the stage before it still counts.
  | setsUp stage | setsUpNot stage =>
    refine triesLeft_of_same there rfl rfl rfl rfl ?_
    simp [ConnectionData.triesLeft, stage, ClientOp.tries, Nat.add_comm]
  | connects stage | connectsNot stage | servesNot _ stage | resets stage =>
    refine triesLeft_of_same there rfl rfl rfl rfl ?_
    simp [ConnectionData.triesLeft, stage, ClientOp.tries]
  -- The callbacks of the library change neither the stage nor the counter.
  | handshakes | refused | peerCloses | goesAway | closes | destroyed =>
    exact triesLeft_of_same there rfl rfl rfl rfl rfl
  | comesUp stage wsi => exact absurd rfl fails
  -- A wait for events changes nothing.
  | serves stage => rfl
  | leaves randomNumber stage ends =>
    -- Without a connection the thread leaves only when it is interrupted.
    have interrupted := ends.elim id (attends.unfinished stage (by decide))
    refine triesLeft_of_same there rfl rfl rfl rfl ?_
    simp [ConnectionData.triesLeft, stage, interrupted, ClientOp.tries]
  | retries randomNumber stage running random allowed =>
    -- The attempt that is counted now is the one that comes after the wait.
    have joining : (w.getReconnectInterval randomNumber).joining = w.joining := by
      unfold getReconnectInterval
      split_ifs <;> rfl
    rw [triesLeft_some there, triesLeft_some rfl]
    simp only [ConnectionData.triesLeft, stage, running, retriesLeft, roundTries, joining,
      getReconnectInterval_options, ClientOp.tries, if_true]
    omega
  | givesUp randomNumber stage running unbounded exhausted =>
    have none : w.retriesLeft = 0 := by
      unfold retriesLeft
      omega
    refine triesLeft_of_same there rfl rfl rfl rfl ?_
    simp [ConnectionData.triesLeft, stage, none, ClientOp.tries]
  -- A connection that is shown here would have come up before, which it did not.
  | goesOn randomNumber stage running connected =>
    have absent := attends.absent stage (by decide)
    exact absurd (attends.shown connected) (by simp [absent])
  | waits stage =>
    refine triesLeft_of_same there rfl rfl rfl rfl ?_
    cases running : data.isRunning <;>
      simp [ConnectionData.triesLeft, stage, running, ClientOp.tries]
  | tells stage | toldBefore stage | exits stage =>
    refine triesLeft_of_same there rfl rfl rfl rfl ?_
    simp [ConnectionData.triesLeft, stage, ClientOp.tries]
  -- The end of the old thread takes its attempts away, and starts those of the new one.
  | joins joining stage waiting =>
    cases joining with
    | startConnecting =>
      simp [finishJoining, launch_triesLeft bounded, ConnectionData.triesLeft, triesLeft_some there,
        stage, waiting, ClientOp.tries]
    | close =>
      simp [finishJoining, WebsocketLibwebsockets.triesLeft, ConnectionData.triesLeft, there,
        stage, waiting, ClientOp.tries]

/--
The bounds of a wait, by how many waits of the round came before it.

The shortest and the longest wait are doubled from attempt to attempt, up to the given number.
-/
def WebsocketConnectionOptions.Paces (o : WebsocketConnectionOptions) (before : ℕ) (wait : ℤ) :
    Prop :=
  let doubled : ℤ := 2 ^ min before o.retryBackoffRepeatTimes
  o.retryBackoffWaitMinimumS * doubled * 1000 ≤ wait ∧
    wait + o.retryBackoffRandomRangeS * 1000 ≤
      (o.retryBackoffWaitMinimumS + 2 * o.retryBackoffRandomRangeS) * doubled * 1000

/-- The attempts of a round are limited, and an `int` holds their number and the longest wait. -/
structure WebsocketConnectionOptions.Fits (o : WebsocketConnectionOptions) : Prop where
  limited : 0 ≤ o.maxConnectionAttempts ∧ o.maxConnectionAttempts + 1 < 2 ^ 31
  repeats : o.retryBackoffRepeatTimes + 1 < 2 ^ 31
  longest : ((o.retryBackoffWaitMinimumS : ℤ) + 2 * o.retryBackoffRandomRangeS) *
    2 ^ min (o.maxConnectionAttempts - 1).toNat o.retryBackoffRepeatTimes * 1000 <
      2 ^ 31 + o.retryBackoffRandomRangeS * 1000

/-- An `int` holds the numbers below its largest one. -/
theorem asInt_of_fits {n : ℤ} (least : 0 ≤ n) (most : n < 2 ^ 31) : asInt n = n :=
  Int.bmod_eq_of_le (by omega) (by omega)

/-- A wait within its bounds fits an `int`. -/
theorem WebsocketConnectionOptions.Paces.fits {o : WebsocketConnectionOptions} {before : ℕ}
    {wait : ℤ} (paces : o.Paces before wait) (fits : o.Fits)
    (allowed : (before : ℤ) + 1 ≤ o.maxConnectionAttempts) : 0 ≤ wait ∧ wait < 2 ^ 31 := by
  have positive : (0 : ℤ) ≤
      o.retryBackoffWaitMinimumS * 2 ^ min before o.retryBackoffRepeatTimes * 1000 := by
    positivity
  obtain ⟨least, most⟩ := paces
  have fewer : min before o.retryBackoffRepeatTimes ≤
      min (o.maxConnectionAttempts - 1).toNat o.retryBackoffRepeatTimes := by omega
  -- No wait is longer than the last one can be.
  have power : (2 : ℤ) ^ min before o.retryBackoffRepeatTimes ≤
      2 ^ min (o.maxConnectionAttempts - 1).toNat o.retryBackoffRepeatTimes := by
    exact_mod_cast Nat.pow_le_pow_right (by omega : 0 < 2) fewer
  have longer := mul_le_mul_of_nonneg_left power
    (by positivity : (0 : ℤ) ≤ o.retryBackoffWaitMinimumS + 2 * o.retryBackoffRandomRangeS)
  have longest := fits.longest
  exact ⟨positive.trans least, by linarith⟩

/-- The first wait is the shortest one with something random added. -/
theorem paces_zero {o : WebsocketConnectionOptions} {random : ℕ}
    (within : random ≤ o.retryBackoffRandomRangeS) :
    o.Paces 0 ((o.retryBackoffWaitMinimumS + random) * 1000) := by
  simp only [WebsocketConnectionOptions.Paces, Nat.zero_min, pow_zero]
  omega

/-- A wait that is doubled, with something random added, is one for the next attempt. -/
theorem WebsocketConnectionOptions.Paces.double {o : WebsocketConnectionOptions} {before random : ℕ}
    {wait : ℤ} (paces : o.Paces before wait) (within : random ≤ o.retryBackoffRandomRangeS)
    (doubles : before < o.retryBackoffRepeatTimes) :
    o.Paces (before + 1) (wait * 2 + random * 1000) := by
  obtain ⟨least, most⟩ := paces
  have random : (random : ℤ) ≤ o.retryBackoffRandomRangeS := by exact_mod_cast within
  -- Below the given number both powers are the ones of the attempts.
  rw [Nat.min_eq_left doubles.le] at least most
  have power : (2 : ℤ) ^ min (before + 1) o.retryBackoffRepeatTimes = 2 ^ before * 2 := by
    rw [Nat.min_eq_left doubles, pow_succ]
  simp only [WebsocketConnectionOptions.Paces, power]
  constructor <;> linarith

/-- After the given number of attempts the wait stays as it is. -/
theorem WebsocketConnectionOptions.Paces.stay {o : WebsocketConnectionOptions} {before : ℕ}
    {wait : ℤ} (paces : o.Paces before wait) (enough : o.retryBackoffRepeatTimes ≤ before) :
    o.Paces (before + 1) wait := by
  have same :
      min (before + 1) o.retryBackoffRepeatTimes = min before o.retryBackoffRepeatTimes := by
    omega
  simpa only [WebsocketConnectionOptions.Paces, same] using paces

/-- A connection came up, or a thread ended, and what follows is another round. -/
def ClientOp.restarts : ClientOp → Bool
  | .callback .clientEstablished | .join => true
  | _ => false

/-- The thread decides what comes after an attempt. -/
def ClientOp.decides : ClientOp → Bool
  | .decideReconnect _ => true
  | _ => false

/-- How often the thread decided to wait since a connection came up or a thread ended last. -/
def waitsOfRound (history : List ClientOp) : ℕ :=
  (history.reverse.takeWhile fun op => !op.restarts).countP ClientOp.decides

variable {history : List ClientOp}

/-- The count goes on with each wait, and begins again with each round. -/
theorem waitsOfRound_snoc : waitsOfRound (history ++ [op]) =
    if op.restarts then 0 else waitsOfRound history + if op.decides then 1 else 0 := by
  unfold waitsOfRound
  -- Read from its end, the history begins with the step that was added.
  cases restarts : op.restarts <;> simp [restarts, List.countP_cons]

/-- The thread is in the middle of a round, and nobody has interrupted it. -/
def ConnectionData.InRound (data : ConnectionData) : Prop :=
  data.isRunning = true ∧ data.stage ≠ .leaving ∧ data.stage ≠ .idling ∧ data.stage ≠ .exited

/-- A round begins with the first attempt, and its waits are counted and within their bounds. -/
structure Paced (history : List ClientOp) (w : WebsocketLibwebsockets) : Prop where
  ended : w.connData = none → waitsOfRound history = 0
  counted : ∀ data ∈ w.connData, data.InRound →
    w.connectionAttempts = waitsOfRound history + 1
  chosen : ∀ data ∈ w.connData, data.InRound → data.stage = .waiting → waitsOfRound history ≠ 0
  within : ∀ data ∈ w.connData, data.InRound → ∀ before, waitsOfRound history = before + 1 →
    w.connectionOptions.Paces before w.reconnectBackoffMs

/-- Without a round that goes on there is nothing to count. -/
theorem Paced.of_ended (ended : w.connData = none → waitsOfRound history = 0)
    (over_ : ∀ data ∈ w.connData, ¬ data.InRound) : Paced history w where
  ended := ended
  counted data there inRound := absurd inRound (over_ data there)
  chosen data there inRound := absurd inRound (over_ data there)
  within data there inRound := absurd inRound (over_ data there)

/-- A round begins without a wait. -/
theorem Paced.of_first (none : waitsOfRound history = 0) (first : w.connectionAttempts = 1)
    (other : ∀ data ∈ w.connData, data.stage ≠ .waiting) : Paced history w where
  ended _ := none
  counted _ _ _ := by rw [none, first]
  chosen data there _ waiting := absurd waiting (other data there)
  within _ _ _ before many := by omega

/-- A step that decides nothing goes on with a round only where one was. -/
theorem Paced.goesOn {next : ConnectionData} (paced : Paced history w)
    (there : w.connData = some data) (left : v.connData = some next)
    (options : v.connectionOptions = w.connectionOptions)
    (attempts : v.connectionAttempts = w.connectionAttempts)
    (backoff : v.reconnectBackoffMs = w.reconnectBackoffMs) (inRound : next.InRound → data.InRound)
    (waiting : next.stage = .waiting → data.stage = .waiting)
    (same : next.InRound → waitsOfRound (history ++ [op]) = waitsOfRound history) :
    Paced (history ++ [op]) v where
  ended none := by simp [left] at none
  counted other still round := by
    -- The thread that is there is the one of the hypothesis.
    obtain rfl := Option.some.inj (left.symm.trans still)
    rw [attempts, same round]
    exact paced.counted data there (inRound round)
  chosen other still round waits := by
    obtain rfl := Option.some.inj (left.symm.trans still)
    rw [same round]
    exact paced.chosen data there (inRound round) (waiting waits)
  within other still round before many := by
    obtain rfl := Option.some.inj (left.symm.trans still)
    rw [options, backoff]
    rw [same round] at many
    exact paced.within data there (inRound round) before many

/-- The wait that is chosen fits the number of waits before it, and an `int`. -/
theorem Paced.chooses {randomNumber before : ℕ} (paced : Paced history w)
    (there : w.connData = some data) (inRound : data.InRound) (fits : w.connectionOptions.Fits)
    (random : randomNumber ≤ w.connectionOptions.retryBackoffRandomRangeS)
    (allowed : (w.connectionAttempts : ℤ) ≤ w.connectionOptions.maxConnectionAttempts)
    (many : waitsOfRound history = before) :
    w.connectionOptions.Paces before (w.getReconnectInterval randomNumber).reconnectBackoffMs := by
  have counted := paced.counted data there inRound
  have left : (before : ℤ) + 1 ≤ w.connectionOptions.maxConnectionAttempts := by omega
  -- The first wait of a round is the shortest one, and the others go on from there.
  unfold getReconnectInterval
  cases before with
  | zero =>
    have paces := paces_zero random
    obtain ⟨least, most⟩ := paces.fits fits left
    rw [if_neg (by omega), if_pos (by omega)]
    simpa only [asInt_of_fits least most] using paces
  | succ before =>
    have last := paced.within data there inRound before many
    split_ifs with enough first
    · exact last.stay (by omega)
    · omega
    · have paces := last.double random (by omega)
      obtain ⟨least, most⟩ := paces.fits fits left
      simpa only [asInt_of_fits least most] using paces

/-- Every step of the client thread keeps the waits within their bounds. -/
theorem Paced.moves (paced : Paced history w) (fits : w.connectionOptions.Fits)
    (there : w.connData = some data) (attends : Attends w data) (moves : ThreadMoves w data op v) :
    Paced (history ++ [op]) v := by
  -- One case for each step of the thread; only a decision to wait adds to the count.
  cases moves with
  | retries randomNumber stage running random allowed =>
    have inRound : data.InRound := by simp [ConnectionData.InRound, running, stage]
    have unlimited : w.connectionOptions.maxConnectionAttempts ≠ -1 := by
      have limited := fits.limited.1
      omega
    have left := allowed.resolve_left unlimited
    have one : waitsOfRound (history ++ [.decideReconnect randomNumber]) =
        waitsOfRound history + 1 := waitsOfRound_snoc
    -- The counter and the count go up together, and the wait that is chosen is within its bounds.
    refine ⟨by simp, fun _ _ _ => ?_, fun _ _ _ _ => ?_, fun _ _ _ before many => ?_⟩
    · rw [one, ← paced.counted data there inRound]
    · rw [one]
      exact Nat.succ_ne_zero _
    · rw [getReconnectInterval_options]
      exact paced.chooses there inRound fits random left (by omega)
  | comesUp stage wsi =>
    -- The counter goes back to one, and a thread whose connection came up does not wait.
    refine .of_first waitsOfRound_snoc rfl fun _ same waiting => ?_
    obtain rfl := Option.some.inj same
    exact absurd waiting stage.attempts.2
  | joins joining stage waiting =>
    cases joining with
    | startConnecting => exact .of_first waitsOfRound_snoc rfl (by simp [finishJoining, launch])
    | close => exact .of_ended (fun _ => waitsOfRound_snoc) (by simp [finishJoining])
  | serves stage =>
    exact paced.goesOn there there rfl rfl rfl id id fun _ => waitsOfRound_snoc
  | waits stage =>
    refine paced.goesOn there rfl rfl rfl rfl ?_ (fun _ => stage) fun _ => waitsOfRound_snoc
    intro round
    exact ⟨round.1, by simp [stage], by simp [stage], by simp [stage]⟩
  | goesOn randomNumber stage running connected =>
    have absent := attends.absent stage (by decide)
    exact absurd (attends.shown connected) (by simp [absent])
  -- The thread gives up the round.
  | leaves randomNumber stage ends | givesUp randomNumber stage running unbounded exhausted =>
    exact .of_ended (by simp [withData]) (by simp [withData, ConnectionData.InRound])
  | tells stage untold => exact .of_ended (by simp) (by simp [ConnectionData.InRound])
  | toldBefore stage told | exits stage interrupted =>
    exact .of_ended (by simp [withData]) (by simp [withData, ConnectionData.InRound])
  | setsUp stage | setsUpNot stage | connects stage | connectsNot stage | servesNot _ stage
  | resets stage =>
    -- The stages before the decision follow one another.
    refine paced.goesOn there rfl rfl rfl rfl (fun round => ?_) (by simp) fun _ =>
      waitsOfRound_snoc
    exact ⟨round.1, by simp [stage], by simp [stage], by simp [stage]⟩
  -- The callbacks of the library leave the stage alone.
  | handshakes | refused | peerCloses | goesAway | closes | destroyed =>
    exact paced.goesOn there rfl rfl rfl rfl id id fun _ => waitsOfRound_snoc

/-- Closing ends the round of a thread, if there is one. -/
theorem Paced.close (paced : Paced history w) : Paced history w.close := by
  -- A thread that is there is interrupted, and without one there is no round.
  unfold WebsocketLibwebsockets.close
  split_ifs
  · unfold safeCloseThreads
    split
    · rename_i none
      exact .of_ended (fun _ => paced.ended none) (by simp [finishJoining])
    · exact .of_ended (by simp) (by simp [ConnectionData.InRound])
  · exact paced

/-- Connecting begins another round, with a new thread or after the old one has ended. -/
theorem Paced.startConnecting (paced : Paced history w) :
    Paced history w.setConnectionOptions.startConnecting := by
  unfold WebsocketLibwebsockets.startConnecting safeCloseThreads
  split
  · rename_i none
    exact .of_first (paced.ended none) rfl (by simp [finishJoining, launch])
  · exact .of_ended (by simp) (by simp [ConnectionData.InRound])

/-- A thread that does not connect does not try. -/
theorem Attends.idle_triesLeft (attends : Attends w data) (idle : ¬ data.Connects)
    (retries : ℕ) : data.triesLeft retries = 0 := by
  -- Only a thread that connects has attempts left, by the stages.
  have told := attends.told
  unfold ConnectionData.triesLeft
  grind [ConnectionData.Connects]

/-- Without a thread that connects no attempt is left, unless a call waits to start one. -/
theorem InOrder.idle_triesLeft (inOrder : InOrder w) (free : w.joining = none)
    (idle : ∀ data ∈ w.connData, ¬ data.Connects) : w.triesLeft = 0 := by
  cases there : w.connData with
  | none => simp [WebsocketLibwebsockets.triesLeft, there, free]
  | some data =>
    have none := (inOrder.attends data there).idle_triesLeft (idle data there) w.retriesLeft
    simp [triesLeft_some there, none, free]

/-- A thread is left all attempts of a round when it is started. -/
theorem InOrder.start_triesLeft (inOrder : InOrder w)
    (bounded : 0 ≤ w.connectionOptions.maxConnectionAttempts)
    (idle : ∀ data ∈ w.connData, ¬ data.Connects) :
    w.setConnectionOptions.startConnecting.triesLeft = w.roundTries := by
  -- The call waits for the old thread, if there is one, and starts the new one itself otherwise.
  have started := inOrder.startConnecting
  unfold WebsocketLibwebsockets.startConnecting WebsocketLibwebsockets.safeCloseThreads at started ⊢
  cases there : w.setConnectionOptions.connData with
  | none => exact launch_triesLeft (w := w.setConnectionOptions) bounded
  | some data =>
    -- The old thread does not connect, whether it is interrupted or not.
    simp only [there] at started ⊢
    have none := (started.attends _ rfl).idle_triesLeft (idle data there)
    rw [triesLeft_some rfl, none]
    simp [roundTries, setConnectionOptions]

/-- Closing leaves no attempt where none was left. -/
theorem InOrder.close_triesLeft (inOrder : InOrder w) (free : w.joining = none)
    (idle : ∀ data ∈ w.connData, ¬ data.Connects) : w.close.triesLeft = 0 := by
  have closed := inOrder.close
  unfold WebsocketLibwebsockets.close at closed ⊢
  split_ifs at closed ⊢
  · unfold WebsocketLibwebsockets.safeCloseThreads at closed ⊢
    cases there : w.connData with
    | none => simp [finishJoining, WebsocketLibwebsockets.triesLeft]
    | some data =>
      simp only [there] at closed ⊢
      have none := (closed.attends _ rfl).idle_triesLeft (idle data there)
      rw [triesLeft_some rfl, none]
      simp
  · exact inOrder.idle_triesLeft free idle

/-- The options are those of the start. -/
theorem moves_options (moves : ThreadMoves w data op v) :
    v.connectionOptions = w.connectionOptions := by
  cases moves with
  | joins joining stage waiting => cases joining <;> rfl
  | retries => exact getReconnectInterval_options _
  | _ => rfl

end EasyEvse.Websocket
