import EasyEvse.Station.Tasks

/-! What the session task knows of the vehicle, against what the charging task has reported. -/

namespace EasyEvse

open J1772 Ocpp Transition

variable {cfg : Config} {st st' : Station} {op : StationOp} {bits : EventBits}
  {old new : List OcppEvent}

/-- What the session task knows of the vehicle: that it is there, and that it is charged. -/
structure Presence where
  plugged : Bool := false
  charging : Bool := false
  deriving DecidableEq, Repr

/-- How an event moves what is known. -/
def Presence.handle (p : Presence) : OcppEvent → Presence
  | .evConnected => { p with plugged := true }
  | .chargingStarted => { p with charging := p.charging || p.plugged }
  | .chargingStopped => { p with charging := false }
  | .evDisconnected => {}
  | .evAuthNeeded | .evAuthorized | .chargingStartRemote | .telemetryReady | .chargingStopRemote
  | .networkDown | .reconnect => p

/-- What a session knows. -/
def presence (s : Session) : Presence := ⟨s.evPluggedIn, s.sessionStarted⟩

/-- What the reports of the charging task say. -/
def reported (history : List OcppEvent) : Presence :=
  ⟨plugged history, plugged history && powered history⟩

/-- Handling an event moves what a session knows, and nothing else does. -/
theorem presence_handle {i : HandlerInputs} {s u : Session} {event : OcppEvent} (sound : s.Sound)
    (handled : s.handle i event = .ok u) : presence u = (presence s).handle event := by
  obtain ⟨sound', outline⟩ := handle_sound sound handled
  have known : ∀ {s : Session}, s.Sound →
      presence s = ⟨s.outline.running, s.outline.charging⟩ := by
    intro s sound
    simp [presence, Session.outline, sound.plugged]
  -- A session that is charging is running.
  have charging : s.outline.charging = true → s.outline.running = true := by
    intro charging
    rw [Session.outline] at charging ⊢
    rw [← sound.plugged]
    exact sound.charging charging
  rw [known sound', known sound, outline]
  cases running : s.outline.running <;> cases charged : s.outline.charging <;>
    simp_all <;> cases event <;>
    simp [Outline.handle, Outline.report, Presence.handle, running, charged]

/-- What is known after a whole batch, whatever the order it was posted in. -/
theorem foldl_presence (p : Presence) : (inOrder bits).foldl Presence.handle p =
    if .evDisconnected ∈ bits then {}
    else
      let plugged := p.plugged || decide (.evConnected ∈ bits)
      { plugged
        charging := decide (.chargingStopped ∉ bits) &&
          (p.charging || (decide (.chargingStarted ∈ bits) && plugged)) } := by
  rw [inOrder, List.foldl_filter]
  by_cases connected : .evConnected ∈ bits <;> by_cases started : .chargingStarted ∈ bits <;>
  by_cases stopped : .chargingStopped ∈ bits <;> by_cases disconnected : .evDisconnected ∈ bits <;>
    simp [handlingOrder, Presence.handle, connected, started, stopped, disconnected]

/-- The steps that do not lose the order in which two opposite reports were set. -/
def TellsOrder (st : Station) : StationOp → Prop
  | .task .wait =>
    ¬ (.evConnected ∈ st.task.eventBits ∧ .evDisconnected ∈ st.task.eventBits ∧
      plugged st.posted = true) ∧
    ¬ (.chargingStarted ∈ st.task.eventBits ∧ .chargingStopped ∈ st.task.eventBits ∧
      powered st.posted = true)
  | _ => True

instance : ∀ st op, Decidable (TellsOrder st op)
  | _, .task .wait => inferInstanceAs (Decidable (¬ (_ ∧ _ ∧ _) ∧ ¬ (_ ∧ _ ∧ _)))
  | _, .loop _ _ | _, .post | _, .stopCharging | _, .setMaxCurrent _
  | _, .task (.setEvent _) | _, .task (.handle _) | _, .task (.response _ _)
  | _, .task (.meterValue _) | _, .task (.getAuthResponse _ _) | _, .task (.stopTransaction _ _)
  | _, .task (.remoteStartTransaction _ _) | _, .task (.connectionStateChanged _) =>
    inferInstanceAs (Decidable True)

/-- The last of two opposite reports, when a batch that has both ends with the second. -/
theorem last_report {on off : OcppEvent} {before : List OcppEvent}
    (ordered : ¬ (on ∈ new ∧ off ∈ new ∧
      openAfter (· = on) (· = off) false (before ++ new) = true)) :
    openAfter (· = on) (· = off) false (before ++ new) =
      (decide (off ∉ new) &&
        (openAfter (· = on) (· = off) false before || decide (on ∈ new))) := by
  -- The order matters only where both were reported, and then the negative one came last.
  by_cases closed : off ∈ new
  · by_cases opened : on ∈ new
    · simpa [closed, opened] using ordered
    · have last : openAfter (· = on) (· = off) false (before ++ new) = false :=
        openAfter_closed ⟨off, closed, rfl⟩ fun entry member same => opened (same ▸ member)
      simp [closed, last]
  · by_cases opened : on ∈ new
    · have last : openAfter (· = on) (· = off) false (before ++ new) = true :=
        openAfter_opened ⟨on, opened, rfl⟩ fun entry member same => closed (same ▸ member)
      simp [closed, opened, last]
    · have last : openAfter (· = on) (· = off) false (before ++ new) =
          openAfter (· = on) (· = off) false before :=
        openAfter_undecided fun entry member =>
          ⟨fun same => opened (same ▸ member), fun same => closed (same ▸ member)⟩
      simp [closed, opened, last]

/-- A connection that is reported without anything on the contactor finds it open. -/
theorem unpowered_before
    (unpowered : ∀ front back, old ++ new = front ++ .evConnected :: back → powered front = false)
    (connected : .evConnected ∈ new) (notStarted : .chargingStarted ∉ new)
    (notStopped : .chargingStopped ∉ new) : powered old = false := by
  -- Nothing on the contactor stands between the old reports and the connection.
  obtain ⟨front, back, rfl⟩ := List.append_of_mem connected
  have before : powered (old ++ front) = powered old := by
    refine openAfter_undecided fun entry member => ⟨?_, ?_⟩
    · intro same; exact notStarted (by simp [← same, member])
    · intro same; exact notStopped (by simp [← same, member])
  rw [← before]
  exact unpowered (old ++ front) back (by simp)

/-- Handling a batch brings the session up to date with what was reported until it was fetched. -/
theorem foldl_reported
    (unpowered : ∀ front back, old ++ new = front ++ .evConnected :: back → powered front = false)
    (posted : ∀ event, FromCharging event → (event ∈ bits ↔ event ∈ new))
    (connections : ¬ (.evConnected ∈ bits ∧ .evDisconnected ∈ bits ∧ plugged (old ++ new) = true))
    (power : ¬ (.chargingStarted ∈ bits ∧ .chargingStopped ∈ bits ∧
      powered (old ++ new) = true)) :
    (inOrder bits).foldl Presence.handle (reported old) = reported (old ++ new) := by
  have connected := posted .evConnected (by simp [FromCharging])
  have disconnected := posted .evDisconnected (by simp [FromCharging])
  have started := posted .chargingStarted (by simp [FromCharging])
  have stopped := posted .chargingStopped (by simp [FromCharging])
  rw [connected, disconnected] at connections
  rw [started, stopped] at power
  rw [foldl_presence]
  simp only [connected, disconnected, started, stopped]
  have pluggedNow : plugged (old ++ new) = (decide (.evDisconnected ∉ new) &&
      (plugged old || decide (.evConnected ∈ new))) := last_report connections
  have poweredNow : powered (old ++ new) = (decide (.chargingStopped ∉ new) &&
      (powered old || decide (.chargingStarted ∈ new))) := last_report power
  have quiet := unpowered_before unpowered
  rw [reported, reported, pluggedNow, poweredNow]
  -- The two sides differ only where a connection comes alone and with power.
  by_cases leaves : .evDisconnected ∈ new
  · simp [leaves]
  · by_cases stops : .chargingStopped ∈ new
    · simp [leaves, stops]
    · by_cases starts : .chargingStarted ∈ new
      · cases plugged old <;> simp [leaves, stops, starts]
      · by_cases arrives : .evConnected ∈ new
        · simp [leaves, stops, starts, arrives, quiet arrives starts stops]
        · simp [leaves, stops, starts, arrives]

/--
The charging task has reported what it did, and the session task is on its way to knowing it.

The reports up to the last fetch are known once the fetched batch is handled, and the reports since
then are set.
-/
structure Agrees (st : Station) : Prop where
  safe : Safe st.evse
  told : Told (st.posted ++ st.outbox) st.evse.relayOpen
  sound : TaskSound st.task
  connected : st.task.connectionState = .connected
  tracked : ∃ old new, st.posted = old ++ new ∧
    (∀ event, FromCharging event → (event ∈ st.task.eventBits ↔ event ∈ new)) ∧
    st.task.batch.foldl Presence.handle (presence st.task.session) = reported old

/-- A session that idles knows what it knew. -/
theorem presence_idles {s u : Session} (idles : s.Idles u) : presence u = presence s := by
  rw [presence, presence, idles.plugged, idles.started]

/-- What the two tasks know stays in step while neither reports, fetches nor handles anything. -/
theorem Agrees.idle (agrees : Agrees st) {evse : Evse} {task : OcppTask} (safe : Safe evse)
    (relay : evse.relayOpen = st.evse.relayOpen) (sound : TaskSound task)
    (connected : task.connectionState = .connected) (batch : task.batch = st.task.batch)
    (bits : ∀ event, FromCharging event →
      (event ∈ task.eventBits ↔ event ∈ st.task.eventBits))
    (known : presence task.session = presence st.task.session) :
    Agrees { st with evse, task } := by
  obtain ⟨old, new, split, posted, handled⟩ := agrees.tracked
  refine ⟨safe, by rw [relay]; exact agrees.told, sound, connected, old, new, split, ?_, ?_⟩
  · exact fun event own => (bits event own).trans (posted event own)
  · rw [batch, known]
    exact handled

/-- An iteration reports what it does, and only polls the session task. -/
theorem Agrees.loop (agrees : Agrees st) (free : st.outbox = []) (i : Inputs) (unixTime : UInt32) :
    Agrees (st.loop cfg i unixTime) := by
  obtain ⟨old, new, split, posted, handled⟩ := agrees.tracked
  have told : Told st.posted st.evse.fresh.relayOpen := by simpa [free] using agrees.told
  have fresh : Safe st.evse.fresh := agrees.safe.congr rfl rfl rfl rfl
  -- The poll is over before anything is reported, and leaves the events alone.
  obtain ⟨connection, bits, batch, idles⟩ := @loop_task cfg st i unixTime
  refine ⟨loopEvse_safe fresh, loopEvse_told fresh rfl told,
    ⟨idles.sound agrees.sound.session, by rw [batch]; exact agrees.sound.ordered⟩,
    connection.trans agrees.connected, old, new, split, ?_, ?_⟩
  · rw [bits]
    exact posted
  · rw [batch, presence_idles idles]
    exact handled

/-- Setting the next event takes it from the outbox to the bits. -/
theorem Agrees.post (agrees : Agrees st) {event : OcppEvent} {outbox : List OcppEvent}
    (next : st.outbox = event :: outbox) :
    Agrees { st with outbox, task := st.task.setEvent event, posted := st.posted ++ [event] } := by
  obtain ⟨old, new, split, posted, handled⟩ := agrees.tracked
  refine ⟨agrees.safe, ?_, ⟨agrees.sound.session, agrees.sound.ordered⟩, agrees.connected, old,
    new ++ [event], by simp [split], fun other own => ?_, handled⟩
  · simpa [next] using agrees.told
  · simp only [OcppTask.setEvent, Finset.mem_insert, List.mem_append, List.mem_singleton,
      posted other own]
    exact or_comm

/-- Handling an event brings the session closer to what was reported. -/
theorem Agrees.handles (agrees : Agrees st) {u : OcppTask} {i : HandlerInputs} {event : OcppEvent}
    {evse : Evse} (safe : Safe evse) (relay : evse.relayOpen = st.evse.relayOpen)
    (sound : TaskSound u) (connected : u.connectionState = .connected)
    (next : st.task.batch = event :: u.batch)
    (result : st.task.session.handle i event = .ok u.session)
    (bits : u.eventBits = st.task.eventBits) : Agrees { st with evse, task := u } := by
  obtain ⟨old, new, split, posted, handled⟩ := agrees.tracked
  refine ⟨safe, by rw [relay]; exact agrees.told, sound, connected, old, new, split, ?_, ?_⟩
  · rw [bits]
    exact posted
  · -- The event moves from the batch into what the session knows.
    rw [next, List.foldl_cons, ← presence_handle agrees.sound.session result] at handled
    exact handled

/-- Fetching a batch that tells the order of its reports takes all of them up. -/
theorem Agrees.fetches (agrees : Agrees st) {u : OcppTask} (order : TellsOrder st (.task .wait))
    (sound : TaskSound u) (connected : u.connectionState = .connected) (done : st.task.batch = [])
    (bits : u.eventBits = ∅)
    (batch : u.batch =
      if st.task.connectionState = .connected then inOrder st.task.eventBits else [])
    (idles : st.task.session.Idles u.session) : Agrees { st with task := u } := by
  obtain ⟨old, new, split, posted, handled⟩ := agrees.tracked
  obtain ⟨connections, power⟩ := order
  refine ⟨agrees.safe, agrees.told, sound, connected, st.posted, [], by simp, by simp [bits], ?_⟩
  -- Nothing was left of the batch before, so the session knew all that was fetched with it.
  have before : presence st.task.session = reported old := by simpa [done] using handled
  rw [batch, if_pos agrees.connected, presence_idles idles, before, split]
  rw [split] at connections power
  refine foldl_reported (fun front back split' => ?_) posted connections power
  refine agrees.told.unpowered front (back ++ st.outbox) ?_
  rw [split, split']
  simp

/-- Every step of the station that tells the order of the reports keeps the tasks in step. -/
theorem Agrees.step (agrees : Agrees st) (order : TellsOrder st op)
    (stays : op ≠ .task (.connectionStateChanged false))
    (moved : stationStep cfg st op = some st') : Agrees st' := by
  have move := stationStep_moves moved
  have safe := move.safe agrees.safe
  cases move with
  | loops free => exact agrees.loop free _ _
  | posts next => exact agrees.post next
  | @tasks op task external stepped =>
    have taskMove := taskStep_moves stepped
    have sound := taskMove.sound agrees.sound
    have connected := taskStep_connected stepped agrees.connected (by simpa using stays)
    -- Being told to stop changes nothing the reports are about.
    have relay := (@afterTask_frame cfg st op agrees.safe).2.1
    cases taskMove with
    | handles next result bits => exact agrees.handles safe relay sound connected next result bits
    | fetches done bits batch idles =>
      exact agrees.fetches order sound connected done bits batch idles
    | notes batch bits kept posted idles =>
      refine agrees.idle safe relay sound connected batch (fun event own => ?_)
        (presence_idles idles)
      refine ⟨fun member => ?_, fun member => kept member⟩
      -- Neither another task nor the stack sets an event of the charging task.
      rcases bits event member with before | is | stack
      · exact before
      · exact absurd own (by rw [is] at external; exact external)
      · rcases stack with rfl | rfl | rfl <;> simp [FromCharging] at own
  | stops =>
    exact agrees.idle safe rfl agrees.sound agrees.connected rfl (fun _ _ => Iff.rfl) rfl
  | limits =>
    exact agrees.idle safe (by simp [apply, setMaxCurrent_eq]) agrees.sound agrees.connected rfl
      (fun _ _ => Iff.rfl) rfl

/-- The two tasks are in step when they start connected. -/
theorem Station.Initial.agrees (initial : st.Initial)
    (connected : st.task.connectionState = .connected) : Agrees st := by
  obtain ⟨evse, connectionState, started, rfl⟩ := initial
  obtain ⟨relay, charging, -⟩ := started.fields
  refine ⟨.of_off relay charging, ?_, ⟨Session.sound_init, List.nil_sublist _⟩, connected, [], [],
    rfl, by simp, rfl⟩
  rw [relay]
  exact .start

/-- With nothing left to fetch or to handle, the session knows all that was reported. -/
theorem Agrees.settled (agrees : Agrees st) (noBits : st.task.eventBits = ∅)
    (noBatch : st.task.batch = []) : presence st.task.session = reported st.posted := by
  obtain ⟨old, new, split, posted, handled⟩ := agrees.tracked
  -- Without a pending event the reports since the last fetch are about neither.
  have nothing : ∀ event ∈ new, ¬ FromCharging event := by
    intro event member own
    simpa [noBits] using (posted event own).mpr member
  have pluggedSame : plugged st.posted = plugged old := by
    rw [split]
    refine openAfter_undecided fun event member => ⟨?_, ?_⟩ <;>
      exact fun same => nothing event member (by simp [same, FromCharging])
  have poweredSame : powered st.posted = powered old := by
    rw [split]
    refine openAfter_undecided fun event member => ⟨?_, ?_⟩ <;>
      exact fun same => nothing event member (by simp [same, FromCharging])
  have same : reported st.posted = reported old := by rw [reported, pluggedSame, poweredSame]; rfl
  rw [same]
  simpa [noBatch] using handled

/--
Whenever the session task has nothing left to fetch or to handle, it agrees with the charging task.

No batch may have lost the order of two opposite reports, the last of which was the positive one.
-/
theorem session_agrees {start : Station} {ops : List StationOp} (initial : start.Initial)
    (connected : start.task.connectionState = .connected)
    (stays : StationOp.task (.connectionStateChanged false) ∉ ops)
    (ran : run (stationStep cfg) start ops = some st)
    (order : Meets TellsOrder (stationStep cfg) start ops)
    (noBits : st.task.eventBits = ∅) (noBatch : st.task.batch = []) :
    (st.task.session.evPluggedIn = true ↔ plugged st.posted = true) ∧
    (st.task.session.sessionStarted = true ↔
      st.task.session.evPluggedIn = true ∧ powered st.posted = true) := by
  have agrees : Agrees st := by
    have guarded := order.and_all fun op member =>
      (show op ≠ .task (.connectionStateChanged false) by intro same; exact stays (same ▸ member))
    exact run_guarded_invariant (fun agrees allowed moved => agrees.step allowed.1 allowed.2 moved)
      (initial.agrees connected) guarded ran
  -- What the session knows is what was reported, flag by flag.
  have known : presence st.task.session = reported st.posted := agrees.settled noBits noBatch
  have pluggedIn : st.task.session.evPluggedIn = plugged st.posted :=
    congrArg Presence.plugged known
  have started : st.task.session.sessionStarted = (plugged st.posted && powered st.posted) :=
    congrArg Presence.charging known
  rw [pluggedIn, started]
  simp

/-- A session task that keeps up with the reports. -/
def keptUp : Station :=
  (run (stationStep ⟨true, false⟩) .online
    (startUp ++ consumption 2 ++ plugIn ++ consumption 3)).getD .online

/-- It knows exactly what the charging task has reported. -/
theorem session_agrees_keptUp :
    (keptUp.task.session.evPluggedIn = true ↔ plugged keptUp.posted = true) ∧
    (keptUp.task.session.sessionStarted = true ↔
      keptUp.task.session.evPluggedIn = true ∧ powered keptUp.posted = true) :=
  session_agrees Station.online_initial rfl
    (show _ ∉ startUp ++ consumption 2 ++ plugIn ++ consumption 3 by decide)
    (show run (stationStep ⟨true, false⟩) _ _ = some keptUp by decide +kernel)
    (by decide +kernel) (by decide +kernel) (by decide +kernel)

/-- A session task that fetches the start-up and the connection together. -/
def fellBehind : Station :=
  (run (stationStep ⟨true, false⟩) .online (startUp ++ plugIn ++ consumption 4)).getD .online

/-- It handles the disconnection of the start-up last, and forgets the vehicle that is there. -/
theorem vehicle_forgotten :
    run (stationStep ⟨true, false⟩) .online (startUp ++ plugIn ++ consumption 4) =
      some fellBehind ∧
    StationOp.task (.connectionStateChanged false) ∉ startUp ++ plugIn ++ consumption 4 ∧
    fellBehind.task.eventBits = ∅ ∧ fellBehind.task.batch = [] ∧
    plugged fellBehind.posted = true ∧ fellBehind.task.session.evPluggedIn = false :=
  ⟨by decide +kernel, by decide, by decide +kernel, by decide +kernel, by decide +kernel,
    by decide +kernel⟩

end EasyEvse
