import EasyEvse.J1772.Reports
import EasyEvse.Ocpp.TaskLaws

/-! The whole station: its two tasks side by side, and every order of their steps. -/

namespace EasyEvse

open J1772 Ocpp Transition

/-- The charging task and the session task, with the events on their way between them. -/
structure Station where
  evse : Evse
  task : OcppTask
  /-- The events of the last iteration that are not set yet, in order. -/
  outbox : List OcppEvent := []
  /-- The events that the charging task has set so far, in order. -/
  posted : List OcppEvent := []
  deriving DecidableEq

/-- The events that only the charging task sets. -/
def FromCharging (event : OcppEvent) : Prop :=
  event = .evConnected ∨ event = .evDisconnected ∨ event = .evAuthNeeded ∨
    event = .chargingStarted ∨ event = .chargingStopped

instance : DecidablePred FromCharging := fun _ => inferInstanceAs (Decidable (_ ∨ _))

/-- The steps of the session task and its neighbours that are none of the charging task. -/
def External : TaskOp → Prop
  | .setEvent event => ¬ FromCharging event
  | .getAuthResponse _ _ => False
  | .wait | .handle _ | .response _ _ | .meterValue _ | .stopTransaction _ _
  | .remoteStartTransaction _ _ | .connectionStateChanged _ => True

instance : DecidablePred External
  | .setEvent event => inferInstanceAs (Decidable (¬ FromCharging event))
  | .getAuthResponse _ _ => isFalse id
  | .wait | .handle _ | .response _ _ | .meterValue _ | .stopTransaction _ _
  | .remoteStartTransaction _ _ | .connectionStateChanged _ => isTrue trivial

/-- What can happen in the station, in any order. -/
inductive StationOp
  /-- An iteration of the charging loop, at a time of the Unix clock. -/
  | loop (i : Inputs) (unixTime : UInt32)
  /-- The charging task sets the next event that its iteration reports. -/
  | post
  /-- A step of the session task or of one of its other neighbours. -/
  | task (op : TaskOp)
  /-- The charging task is asked to stop on the spot. -/
  | stopCharging
  | setMaxCurrent (maxCurrent : UInt32)
  deriving DecidableEq

namespace Station

variable (cfg : Config) (st : Station)

/-- An iteration polls the session task, if it polls at all, before it reports anything. -/
def loop (i : Inputs) (unixTime : UInt32) : Station :=
  let (task, authResponse) := st.task.getAuthResponse 0 unixTime
  let evse := apply cfg st.evse (.loop { i with authResponse })
  -- The answer is taken only by an iteration that asks for it.
  { st with
    evse
    task := if Call.getAuthResponse authResponse ∈ evse.calls then task else st.task
    outbox := evse.events }

/-- A step of the session task tells the charging task to stop. -/
def TellsStop : TaskOp → Prop
  | .handle _ => ∃ event ∈ st.task.batch.head?, st.task.session.stopsCharging event = true
  | _ => False

instance : DecidablePred (TellsStop st)
  | .handle _ => inferInstanceAs (Decidable (∃ event ∈ st.task.batch.head?, _ = _))
  | .setEvent _ | .wait | .response _ _ | .meterValue _ | .getAuthResponse _ _
  | .stopTransaction _ _ | .remoteStartTransaction _ _ | .connectionStateChanged _ => isFalse id

/-- What a step of the session task leaves of the charging task. -/
def afterTask (op : TaskOp) : Evse :=
  if st.TellsStop op then apply cfg st.evse (.stopCharging true) else st.evse

end Station

/-- One step of the station. -/
def stationStep (cfg : Config) : Step Station StationOp
  -- The events of the iteration before have all been set by then.
  | st, .loop i unixTime => if st.outbox = [] then some (st.loop cfg i unixTime) else none
  | st, .post =>
    match st.outbox with
    | [] => none
    | event :: outbox =>
      some { st with outbox, task := st.task.setEvent event, posted := st.posted ++ [event] }
  | st, .task op =>
    if External op then
      (taskStep st.task op).map fun task => { st with task, evse := st.afterTask cfg op }
    else none
  | st, .stopCharging => some { st with evse := apply cfg st.evse (.stopCharging true) }
  | st, .setMaxCurrent maxCurrent =>
    some { st with evse := apply cfg st.evse (.setMaxCurrent maxCurrent) }

/-- A station whose two tasks were just initialized, with or without a connection. -/
def Station.Initial (st : Station) : Prop :=
  ∃ evse connectionState, J1772.Initial evse ∧ st = { evse, task := { connectionState } }

/-- A station that starts with a connection. -/
def Station.online : Station where
  evse := init (setMaxCurrent 32 boot)
  task := { connectionState := .connected }

theorem Station.online_initial : Station.online.Initial := ⟨_, .connected, ⟨32, rfl⟩, rfl⟩

/-- The start-up, which reports a disconnection and an open contactor. -/
def startUp : List StationOp := [.loop (pilotOnly .stateA) 1, .post, .post]

/-- A vehicle that is plugged in after the start-up. -/
def plugIn : List StationOp := [.loop (pilotOnly .stateB) 2, .post, .post, .post]

/-- The session task fetches a batch, and handles that many events. -/
def consumption (events : ℕ) : List StationOp :=
  .task .wait :: List.replicate events (.task (.handle ⟨"first", 3, true⟩))

/-- What a step of the station does: one of its tasks moves, or an event goes between them. -/
inductive StationMove (cfg : Config) (st : Station) : StationOp → Station → Prop
  | loops {i : Inputs} {unixTime : UInt32} (free : st.outbox = []) :
      StationMove cfg st (.loop i unixTime) (st.loop cfg i unixTime)
  | posts {event : OcppEvent} {outbox : List OcppEvent} (next : st.outbox = event :: outbox) :
      StationMove cfg st .post
        { st with outbox, task := st.task.setEvent event, posted := st.posted ++ [event] }
  | tasks {op : TaskOp} {task : OcppTask} (external : External op)
      (stepped : taskStep st.task op = some task) :
      StationMove cfg st (.task op) { st with task, evse := st.afterTask cfg op }
  | stops : StationMove cfg st .stopCharging
      { st with evse := apply cfg st.evse (.stopCharging true) }
  | limits {maxCurrent : UInt32} : StationMove cfg st (.setMaxCurrent maxCurrent)
      { st with evse := apply cfg st.evse (.setMaxCurrent maxCurrent) }

section Moves

variable {cfg : Config} {st st' : Station} {op : StationOp}

/-- Every step of the station is one of these. -/
theorem stationStep_moves (moved : stationStep cfg st op = some st') :
    StationMove cfg st op st' := by
  -- Each operation is enabled under one condition, and then does one thing.
  cases op with
  | loop i unixTime =>
    simp only [stationStep] at moved
    split at moved
    · rename_i free
      obtain rfl := Option.some.inj moved
      exact .loops free
    · cases moved
  | post =>
    simp only [stationStep] at moved
    split at moved
    · cases moved
    · rename_i event outbox next
      obtain rfl := Option.some.inj moved
      exact .posts next
  | task op =>
    simp only [stationStep] at moved
    split at moved
    · rename_i external
      obtain ⟨task, stepped, rfl⟩ := Option.map_eq_some_iff.mp moved
      exact .tasks external stepped
    · cases moved
  | stopCharging =>
    obtain rfl := Option.some.inj moved
    exact .stops
  | setMaxCurrent maxCurrent =>
    obtain rfl := Option.some.inj moved
    exact .limits

/-- An iteration leaves the session task as it was, apart from an answer that it takes. -/
theorem loop_task (i : Inputs) (unixTime : UInt32) :
    (st.loop cfg i unixTime).task.connectionState = st.task.connectionState ∧
    (st.loop cfg i unixTime).task.eventBits = st.task.eventBits ∧
    (st.loop cfg i unixTime).task.batch = st.task.batch ∧
    st.task.session.Idles (st.loop cfg i unixTime).task.session := by
  have same : st.task.session.Idles st.task.session := .of_same rfl rfl rfl rfl
  simp only [Station.loop]
  split
  · -- Taking the answer clears the semaphore and the time that was waited from.
    unfold OcppTask.getAuthResponse
    dsimp only
    split_ifs <;> exact ⟨rfl, rfl, rfl, .of_same rfl rfl rfl rfl⟩
  · exact ⟨rfl, rfl, rfl, same⟩

/-- A step of the session task leaves the contactor alone, and can only ask for a stop. -/
theorem afterTask_frame (op : TaskOp) (safe : Safe st.evse) : Safe (st.afterTask cfg op) ∧
    (st.afterTask cfg op).relayOpen = st.evse.relayOpen ∧
    (st.evse.readyToCharge = false → (st.afterTask cfg op).readyToCharge = false) := by
  have stopped : Safe (apply cfg st.evse (.stopCharging true)) := apply_safe safe
  unfold Station.afterTask
  split
  · exact ⟨stopped, rfl, fun _ => rfl⟩
  · exact ⟨safe, rfl, id⟩

/-- Every step of the station keeps the agreement of its contactor and its state letter. -/
theorem StationMove.safe (move : StationMove cfg st op st') (safe : Safe st.evse) :
    Safe st'.evse := by
  cases move with
  | loops free => exact loopEvse_safe (safe.congr rfl rfl rfl rfl)
  | posts next => exact safe
  | tasks external stepped => exact (afterTask_frame _ safe).1
  | stops =>
    have stopped : Safe (apply cfg st.evse (.stopCharging true)) := apply_safe safe
    exact stopped
  | @limits maxCurrent =>
    have limited : Safe (apply cfg st.evse (.setMaxCurrent maxCurrent)) := apply_safe safe
    exact limited

/-- The contactor of the station is as safe as that of its charging task alone. -/
theorem station_safe {start : Station} {ops : List StationOp} (initial : start.Initial)
    (ran : run (stationStep cfg) start ops = some st) : Safe st.evse := by
  have first : Safe start.evse := by
    obtain ⟨evse, connectionState, started, rfl⟩ := initial
    exact .of_off started.fields.1 started.fields.2.1
  exact @run_invariant _ _ (stationStep cfg) _ _ _ (fun st => Safe st.evse)
    (fun safe moved => (stationStep_moves moved).safe safe) first ran

end Moves

end EasyEvse
