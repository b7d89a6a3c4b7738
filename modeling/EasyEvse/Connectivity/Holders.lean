import EasyEvse.Connectivity.StationMoves

/-! Something always leads to the next connection, as long as no request to reconnect is dropped. -/

namespace EasyEvse.Connectivity

open Ocpp Transition Websocket WebsocketLibwebsockets

variable {s u : Station} {op : StationOp} {o : WebsocketConnectionOptions}

/-- How many things lead to the next connection, or hold the connection that there is. -/
def Station.holders (s : Station) : ℕ :=
  s.manager.websocket.holders + (if s.manager.websocketTimer then 1 else 0) +
    if .reconnect ∈ s.task.eventBits then 1 else 0

/-- A station that wants to be connected has exactly one thing that leads there. -/
def Held (s : Station) : Prop := s.manager.wantsToBeConnected = true → s.holders = 1

instance : DecidablePred Held := fun _ => inferInstanceAs (Decidable (_ → _))

/-- The step does not drop a request to reconnect, which a station shown as connected does. -/
def Heeds (s : Station) (op : StationOp) : Prop :=
  op = .task .wait → .reconnect ∈ s.task.eventBits → s.task.connectionState ≠ .connected

instance : ∀ s op, Decidable (Heeds s op) := fun _ _ => inferInstanceAs (Decidable (_ → _ → _))

/-- A sound station with one holder. -/
structure Holding (s : Station) : Prop where
  sound : Sound s
  held : Held s

/-- The station is sound when it begins to connect. -/
theorem sound_started : Sound (started o) where
  inOrder := launch_inOrder rfl
  counted := by
    -- The numbers are small enough to be compared as they are.
    show (0 : UInt8) ≤ evseOcppMaxReconnects
    decide
  wanted := by simp [started, ConnectivityManager.connect, ConnectivityManager.tryConnectWebsocket]

/-- The first thread is the only thing that leads to a connection at the beginning. -/
theorem holding_started : Holding (started o) where
  sound := sound_started
  held _ := rfl

/-- While a reconnection is asked for, nothing else leads to a connection, and there is none. -/
theorem Sound.asked (sound : Sound s) (few : s.holders ≤ 1)
    (asked : .reconnect ∈ s.task.eventBits) : s.manager.websocketTimer = false ∧
      s.manager.websocket.holders = 0 ∧ s.manager.websocket.mIsConnected = false ∧
      ∀ data ∈ s.manager.websocket.connData, ¬ data.Connects := by
  -- The request is one holder, and so there is no other one.
  simp only [Station.holders, asked, if_true] at few
  have none : s.manager.websocket.holders = 0 := by omega
  have idle : ¬ ∃ data ∈ s.manager.websocket.connData, data.Connects := by
    intro connects
    rw [WebsocketLibwebsockets.holders, if_pos connects] at none
    omega
  refine ⟨?_, none, ?_, fun data there connects => idle ⟨data, there, connects⟩⟩
  -- The timer would be another holder.
  · by_contra armed
    rw [if_pos (by simpa using armed)] at few
    omega
  -- A connection has a thread that holds it.
  · by_contra up
    exact idle (sound.inOrder.connects (by simpa using up))

/-- A station that holds on has nothing else while a reconnection is asked for. -/
theorem Holding.asked (holding : Holding s) (wants : s.manager.wantsToBeConnected = true)
    (asked : .reconnect ∈ s.task.eventBits) : s.manager.websocketTimer = false ∧
      s.manager.websocket.holders = 0 ∧ s.manager.websocket.mIsConnected = false ∧
      ∀ data ∈ s.manager.websocket.connData, ¬ data.Connects :=
  holding.sound.asked (holding.held wants).le asked

/-- The task hands the request to reconnect on to a new thread, or to the call that waits for it. -/
theorem Sound.reconnects (sound : Sound s) (few : s.holders ≤ 1)
    (asked : .reconnect ∈ s.task.eventBits) (free : s.manager.websocket.joining = none) :
    s.manager.connect.websocket.holders = 1 ∧ s.manager.connect.websocketTimer = false := by
  obtain ⟨timer, none, down, idle⟩ := sound.asked few asked
  unfold ConnectivityManager.connect
  -- The connection is down, and so a new thread is started.
  simp only [down, Bool.false_eq_true, if_false, ConnectivityManager.tryConnectWebsocket]
  exact ⟨by rw [holders_startConnecting free idle, none], timer⟩

/-- A step of the session task that heeds a request to reconnect loses no holder and adds none. -/
theorem Sound.task_holders {op : TaskOp} (sound : Sound s) (few : s.holders ≤ 1)
    (heeds : Heeds s (.task op)) (turns : TaskTurns s.task u.task op) (calls : Calls s u)
    (wants : u.manager.wantsToBeConnected = true) : u.holders = s.holders := by
  -- One case for each turn of the task; only one with a request is about holders.
  cases turns with
  | connects runs asked offline left fetched same more goesOn told =>
    obtain ⟨idle, none, -, -⟩ := sound.asked few asked
    obtain ⟨free, manager⟩ := calls.connects told
    obtain ⟨one, timer⟩ := sound.reconnects few asked free
    simp [Station.holders, manager, one, timer, fetched, asked, idle, none]
  | stops runs asked offline spent fetched same kept ends told =>
    -- The station does not want to be connected any more.
    obtain ⟨free, manager⟩ := calls.stops told
    simp [manager, ConnectivityManager.disconnect] at wants
  | fetches runs unasked fetched same kept goesOn told =>
    -- There was no request to reconnect, as it would have been heeded.
    have absent : .reconnect ∉ s.task.eventBits := by
      intro asked
      rcases unasked asked with online | many
      · exact heeds rfl asked online
      · exact absurd sound.counted (UInt8.not_le.mpr many)
    simp [Station.holders, calls.silent told, fetched, absent]
  | reports other asked same kept goesOn told =>
    rcases calls.reports told with manager | ⟨free, manager⟩
    · simp [Station.holders, manager, asked]
    · -- A close hands on what the thread holds.
      have handed := holders_close sound.inOrder free
      simp [Station.holders, manager, ConnectivityManager.onNetworkDisconnected, handed, asked]

/-- A notice that the websocket stopped arms the timer, and others lead nowhere. -/
theorem deferred_holders {notice : Notice} {rest : List Notice} (few : s.holders ≤ 1)
    (next : s.manager.websocket.deferred = notice :: rest)
    (told : u = Station.runNotice { s with manager := { s.manager with
      websocket := { s.manager.websocket with deferred := rest } } } notice)
    (wants : u.manager.wantsToBeConnected = true) : u.holders = s.holders := by
  have handed := holders_next next
  subst told
  -- Only the notice that the websocket stopped is a holder.
  cases notice with
  | stoppedConnecting =>
    have wanted : s.manager.wantsToBeConnected = true := by
      simp only [Station.runNotice, ConnectivityManager.onWebsocketStoppedConnecting] at wants
      split at wants <;> exact wants
    -- The notice was the only holder, so the timer was not armed yet.
    simp only [Station.holders, handed, if_true] at few ⊢
    have unarmed : s.manager.websocketTimer = false := by
      by_contra armed
      rw [if_pos (by simpa using armed)] at few
      omega
    simp only [Station.runNotice, ConnectivityManager.onWebsocketStoppedConnecting, wanted,
      unarmed, if_true, Bool.false_eq_true, if_false]
  | _ =>
    simp only [reduceCtorEq, if_false, Nat.add_zero] at handed
    rw [Station.holders, Station.holders, handed]
    rfl

/-- Every step that heeds a request to reconnect loses no holder and adds none. -/
theorem Sound.moves_holders (sound : Sound s) (few : s.holders ≤ 1) (heeds : Heeds s op)
    (moves : StationMoves s u op) (wants : u.manager.wantsToBeConnected = true) :
    u.holders = s.holders := by
  -- One case for each kind of step, with the laws of the part that it changes.
  cases moves with
  | task stepped turns calls => exact sound.task_holders few heeds turns calls wants
  -- What is shown of the connection holds nothing.
  | boots task manager =>
    have same := (connectionStateChangedCb_same s.task true).1
    simp [Station.holders, manager, task, same]
  | client task moved wanted timer =>
    obtain ⟨data, there, stepped⟩ := clientStep_moves moved
    have handed := (sound.inOrder.attends data there).holders there stepped
    simp [Station.holders, handed, timer, task]
  | deferred next told => exact deferred_holders few next told wants
  | fires armed task manager =>
    -- The timer was the only holder, so nothing was asked for yet.
    have unasked : .reconnect ∉ s.task.eventBits := by
      intro asked
      have idle := (sound.asked few asked).1
      simp [idle] at armed
    simp [Station.holders, manager, task, OcppTask.setEvent, armed, unasked]
  -- A close hands on what the thread holds.
  | certificate task free manager =>
    have handed := holders_close sound.inOrder free
    simp [Station.holders, manager, task, handed,
      ConnectivityManager.onChargingStationCertificateChanged]

/-- The station wants what it wanted before, unless it gives up when asked to reconnect. -/
theorem Sound.moves_wants (sound : Sound s) (moves : StationMoves s u op) :
    u.manager.wantsToBeConnected = s.manager.wantsToBeConnected ∨
      .reconnect ∈ s.task.eventBits ∧ u.manager.wantsToBeConnected = false := by
  cases moves with
  | task stepped turns calls =>
    cases turns with
    | connects runs asked offline left fetched same more goesOn told =>
      obtain ⟨free, manager⟩ := calls.connects told
      refine .inl ?_
      rw [manager, sound.wanted.mp runs]
      unfold ConnectivityManager.connect
      dsimp only
      split <;> rfl
    -- The station gives up, and a request was there.
    | stops runs asked offline spent fetched same kept ends told =>
      obtain ⟨free, manager⟩ := calls.stops told
      exact .inr ⟨asked, by rw [manager]; rfl⟩
    | fetches runs unasked fetched same kept goesOn told => exact .inl (by rw [calls.silent told])
    | reports other asked same kept goesOn told =>
      rcases calls.reports told with manager | ⟨free, manager⟩
      · exact .inl (by rw [manager])
      · exact .inl (by rw [manager, ConnectivityManager.onNetworkDisconnected])
  | boots task manager => exact .inl (by rw [manager])
  | client task moved wanted timer => exact .inl wanted
  | @deferred notice rest next told =>
    subst told
    cases notice with
    | stoppedConnecting =>
      -- The timer is armed without a change of what the station wants.
      simp only [Station.runNotice, ConnectivityManager.onWebsocketStoppedConnecting]
      split <;> exact .inl rfl
    | _ => exact .inl rfl
  | fires armed task manager => exact .inl (by rw [manager])
  | certificate task free manager => exact .inl (by rw [manager]; rfl)

/-- Every step that heeds a request to reconnect keeps one holder. -/
theorem Holding.moves (holding : Holding s) (heeds : Heeds s op) (moves : StationMoves s u op) :
    Holding u := by
  refine ⟨holding.sound.moves moves, fun wants => ?_⟩
  -- A station that wants nothing has nothing to hold.
  have wanted : s.manager.wantsToBeConnected = true := by
    rcases holding.sound.moves_wants moves with same | ⟨_, ends⟩
    · exact same ▸ wants
    · rw [ends] at wants
      cases wants
  have one := holding.held wanted
  exact (holding.sound.moves_holders one.le heeds moves wants).trans one

/-- The station wants to be connected, and nothing leads there. -/
def Lost (s : Station) : Prop := s.manager.wantsToBeConnected = true ∧ s.holders = 0

/-- A lost station has no request to reconnect. -/
theorem Lost.unasked (lost : Lost s) : .reconnect ∉ s.task.eventBits := by
  intro asked
  have none := lost.2
  simp [Station.holders, asked] at none

/-- No step brings a lost station back. -/
theorem Lost.moves (lost : Lost s) (sound : Sound s) (moves : StationMoves s u op) : Lost u := by
  have wants : u.manager.wantsToBeConnected = true := by
    -- Only a request that is looked at makes the station give up.
    rcases sound.moves_wants moves with same | ⟨asked, _⟩
    · exact same.trans lost.1
    · exact absurd asked lost.unasked
  have heeds : Heeds s op := fun _ asked => absurd asked lost.unasked
  have none := lost.2
  exact ⟨wants, (sound.moves_holders (by omega) heeds moves wants).trans none⟩

/-- A request to reconnect that is dropped was the only thing that led to a connection. -/
theorem Holding.drops (holding : Holding s) (drops : ¬ Heeds s op) (moves : StationMoves s u op) :
    Lost u := by
  simp only [Heeds, Classical.not_imp, not_not] at drops
  obtain ⟨rfl, asked, online⟩ := drops
  -- Of the turns of the task only one looks at a request without heeding it.
  cases moves with
  | task stepped turns calls =>
    cases turns with
    | connects runs _ offline => exact absurd online offline
    | stops runs _ offline => exact absurd online offline
    | reports other => exact absurd rfl other
    | fetches runs unasked fetched same kept goesOn told =>
      -- The request was the only holder, and it is gone.
      have wants := holding.sound.wanted.mp runs
      obtain ⟨timer, none, -, -⟩ := holding.asked wants asked
      have manager := calls.silent told
      exact ⟨manager ▸ wants, by simp [Station.holders, manager, timer, none, fetched]⟩

/-- In every run the station holds on, until it is lost. -/
theorem holding_or_lost {ops : List StationOp} (ran : run stationStep (started o) ops = some s) :
    Holding s ∨ Sound s ∧ Lost s := by
  -- The step that drops a request goes from the first case to the second.
  refine @run_invariant _ _ _ _ _ _ (fun t => Holding t ∨ Sound t ∧ Lost t) ?_
    (.inl holding_started) ran
  rintro t op u (holding | ⟨sound, lost⟩) moved
  · have moves := stationStep_moves holding.sound.inOrder moved
    by_cases heeds : Heeds t op
    · exact .inl (holding.moves heeds moves)
    · exact .inr ⟨holding.sound.moves moves, holding.drops heeds moves⟩
  · have moves := stationStep_moves sound.inOrder moved
    exact .inr ⟨sound.moves moves, lost.moves sound moves⟩

/-- After a request to reconnect was dropped, the station is lost in every later state. -/
theorem lost_of_drop {front later : List StationOp}
    (drops : ∀ t ∈ run stationStep (started o) front, ¬ Heeds t op)
    (ran : run stationStep (started o) (front ++ op :: later) = some s) : Lost s := by
  rw [run_append] at ran
  obtain ⟨t, reached, ran⟩ := Option.bind_eq_some_iff.mp ran
  obtain ⟨next, moved, rest⟩ := Option.bind_eq_some_iff.mp ran
  -- A station that was lost before has nothing to drop.
  have dropped : Sound next ∧ Lost next := by
    rcases holding_or_lost reached with holding | ⟨sound, lost⟩
    · have moves := stationStep_moves holding.sound.inOrder moved
      exact ⟨holding.sound.moves moves, holding.drops (drops t reached) moves⟩
    · exact absurd (fun _ asked => absurd asked lost.unasked) (drops t reached)
  -- From the next state on, the station stays lost.
  refine (@run_invariant _ _ _ _ _ _ (fun t => Sound t ∧ Lost t) ?_ dropped rest).2
  rintro t op u ⟨sound, lost⟩ moved
  have moves := stationStep_moves sound.inOrder moved
  exact ⟨sound.moves moves, lost.moves sound moves⟩

/--
The station always has exactly one thing that leads to its next connection, or holds that.

This is a thread, a notice that one stopped, the timer, a request to the session task, or a call
that waits to start a thread. It is so in all states of a run if and only if the session task never
looks at a request to reconnect while the station is shown as connected. Once it does, nothing ever
leads to a connection again.
-/
theorem always_held_iff {ops : List StationOp} :
    ((∀ t, Visits stationStep (started o) ops t → Held t) ↔
      Meets Heeds stationStep (started o) ops) ∧
    ∀ front op later, ops = front ++ op :: later →
      (∀ t ∈ run stationStep (started o) front, ¬ Heeds t op) →
      ∀ t, run stationStep (started o) ops = some t → Lost t := by
  -- The first part is the equivalence over the run, the second one follows the station to its end.
  constructor
  · refine @always_good_iff_meets _ _ _ _ _ Holding Held Heeds ?_ ?_ ?_ holding_started
    · intro s op u holding heeds moved
      exact holding.moves heeds (stationStep_moves holding.sound.inOrder moved)
    · intro s holding
      exact holding.held
    -- A lost station wants to be connected without a holder.
    · intro s op u holding drops moved held
      have lost := holding.drops drops (stationStep_moves holding.sound.inOrder moved)
      have one := held lost.1
      rw [lost.2] at one
      cases one
  · rintro front op later rfl drops t ran
    exact lost_of_drop drops ran

end EasyEvse.Connectivity
