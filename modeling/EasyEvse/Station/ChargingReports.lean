import EasyEvse.Station.Agreement

/-! The charging state that was reported last, and how handling an event changes it. -/

namespace EasyEvse

open J1772 Ocpp Transition

/-- The calls after which the last report of a plug-in is no longer what it was. -/
def EndsReport : ChargePointCall → Prop
  | .onChargingStateChanged _ | .onSessionStarted | .onSessionFinished => True
  | .onTransactionStarted .. | .onTransactionFinished .. | .onAuthorized | .onMeterValue
  | .onNetworkDisconnected | .connectWebsocket | .stop => False

instance : DecidablePred EndsReport
  | .onChargingStateChanged _ | .onSessionStarted | .onSessionFinished => isTrue trivial
  | .onTransactionStarted .. | .onTransactionFinished .. | .onAuthorized | .onMeterValue
  | .onNetworkDisconnected | .connectWebsocket | .stop => isFalse id

/-- The last charging state reported in the current plug-in is that the vehicle is charged. -/
def reportsCharging (c : ChargePoint) : Bool :=
  openAfter (· = .onChargingStateChanged .charging) EndsReport false c.calls

variable {c c' : ChargePoint} {h h' : TransactionHandler} {i : HandlerInputs} {s u : Session}
  {event : OcppEvent} {t v : OcppTask} {op : TaskOp}

/-- Two stacks that were told the same have the same last report. -/
theorem reportsCharging_congr (same : c'.calls = c.calls) :
    reportsCharging c' = reportsCharging c := by
  rw [reportsCharging, same]
  rfl

/-- One more call is a report, ends one, or leaves the last one as it was. -/
theorem reportsCharging_snoc (c : ChargePoint) (call : ChargePointCall)
    (added : c'.calls = c.calls ++ [call]) :
    reportsCharging c' = if call = .onChargingStateChanged .charging then true
      else if EndsReport call then false else reportsCharging c := by
  rw [reportsCharging, added]
  exact openAfter_snoc

/-- Recording a call that is about no charging state keeps the last report. -/
theorem reportsCharging_record (c : ChargePoint) {call : ChargePointCall}
    (neutral : ¬ EndsReport call) :
    reportsCharging (c.record call) = reportsCharging c := by
  rw [reportsCharging_snoc c call rfl, if_neg, if_neg neutral]
  intro same
  subst same
  exact neutral trivial

/-- Reporting a charging state makes it the last one, whether or not it is sent on. -/
theorem reportsCharging_changed (c : ChargePoint) (chargingState : ChargingState) :
    reportsCharging (c.onChargingStateChanged chargingState) =
      decide (chargingState = .charging) := by
  rw [reportsCharging_snoc c _ (onChargingStateChanged_calls c chargingState)]
  by_cases charging : chargingState = .charging
  · simp [charging]
  · simp [charging, EndsReport]

/-- A report that charging started is the last report. -/
theorem reportsCharging_started {remoteStart : Bool}
    (done : processChargingStarted remoteStart c h = .ok (c', h')) : reportsCharging c' = true := by
  obtain ⟨-, -, done⟩ := returns_of_bind done
  obtain ⟨effect, -, done⟩ := returns_of_bind done
  obtain ⟨⟨c₁, h₁⟩, -, done⟩ := returns_of_bind done
  cases done
  exact reportsCharging_changed c₁ .charging

/-- A report that charging ended is the last report. -/
theorem reportsCharging_ended {remoteStop : Bool}
    (done : processChargingEnded remoteStop c h = .ok (c', h')) : reportsCharging c' = false := by
  obtain ⟨data, -, done⟩ := returns_of_bind done
  obtain ⟨effect, -, done⟩ := returns_of_bind done
  obtain ⟨⟨c₁, h₁⟩, -, done⟩ := returns_of_bind done
  -- The pointer was changed at the beginning to a vehicle that is only connected.
  cases data with
  | none => simp [throw, throwThe, MonadExceptOf.throw] at done
  | some data =>
    cases done
    exact reportsCharging_changed c₁ .evConnected

/-- What is reported last after an event, given what was known and reported before it. -/
def Presence.reportAfter (p : Presence) (reported : Bool) : OcppEvent → Bool
  | .evConnected => reported && p.plugged
  | .chargingStarted | .chargingStartRemote => reported || p.plugged
  | .chargingStopped => reported && !(p.plugged && p.charging)
  | .chargingStopRemote | .evDisconnected => reported && !p.plugged
  | .evAuthNeeded | .evAuthorized | .telemetryReady | .networkDown | .reconnect => reported

/-- A session with a vehicle has its handler. -/
theorem there_of_plugged (sound : s.Sound) (running : s.evPluggedIn = true) :
    s.transactionHandler.isSome = true := by
  rw [← sound.plugged]
  exact running

/-- Asking for an authorization keeps the last report. -/
theorem reportsCharging_onAuthorized (c : ChargePoint) :
    reportsCharging c.onAuthorized = reportsCharging c := by
  rw [reportsCharging_snoc c _ (onAuthorized_calls c)]
  simp [EndsReport]

/-- An event that finds nothing to do leaves the report as what comes after it. -/
theorem reportAfter_ignored (sound : s.Sound) (nothing : s.Ignores event) (reported : Bool) :
    (presence s).reportAfter reported event = reported := by
  have plugged := sound.plugged
  cases event with
  | evConnected =>
    have there : s.transactionHandler.isSome = true := nothing
    simp [Presence.reportAfter, presence, plugged, there]
  | chargingStarted =>
    -- A vehicle that is plugged in has its handler.
    have unplugged : s.evPluggedIn = false := by
      by_contra running
      have running : s.evPluggedIn = true := by simpa using running
      exact nothing ⟨running, there_of_plugged sound running⟩
    simp [Presence.reportAfter, presence, unplugged]
  | chargingStopped =>
    have idle : (s.evPluggedIn && s.sessionStarted) = false := by
      by_contra active
      obtain ⟨running, started⟩ : s.evPluggedIn = true ∧ s.sessionStarted = true := by
        simpa using active
      exact nothing ⟨running, started, there_of_plugged sound running⟩
    simp [Presence.reportAfter, presence, idle]
  | chargingStartRemote | chargingStopRemote =>
    have gone : s.transactionHandler = none := nothing
    simp [Presence.reportAfter, presence, plugged, gone]
  | evDisconnected =>
    have unplugged : s.evPluggedIn = false := nothing
    simp [Presence.reportAfter, presence, unplugged]
  | evAuthNeeded | evAuthorized | telemetryReady | networkDown | reconnect => rfl

/-- Handling an event changes the last report in this way. -/
theorem handle_reports (sound : s.Sound) (handled : s.handle i event = .ok u) :
    reportsCharging u.chargePoint =
      (presence s).reportAfter (reportsCharging s.chargePoint) event := by
  have plugged := sound.plugged
  -- Each handler makes at most one call that is about the charging state or the plug-in.
  cases handle_handles handled with
  | ignores _ nothing => exact (reportAfter_ignored sound nothing _).symm
  | @connects effect h₁ h₂ c gone processed =>
    rw [gone] at plugged
    rw [reportsCharging_snoc c .onSessionStarted rfl]
    simp [EndsReport, Presence.reportAfter, presence, plugged]
  | asks => exact reportsCharging_onAuthorized s.chargePoint
  | judges h₁ => rfl
  | starts running processed =>
    simp [reportsCharging_started processed, Presence.reportAfter, presence, running]
  | startsRemote there processed =>
    rw [there] at plugged
    simp [reportsCharging_started processed, Presence.reportAfter, presence, plugged]
  | measures => exact reportsCharging_record s.chargePoint id
  | stops running started processed =>
    simp [reportsCharging_ended processed, Presence.reportAfter, presence, running, started]
  | stopsRemote there processed =>
    rw [there] at plugged
    simp [reportsCharging_ended processed, Presence.reportAfter, presence, plugged]
  | @disconnects effect h₁ h₂ c running processed =>
    -- The end of the session is what was reported last.
    have finished : reportsCharging (c.record .onSessionFinished) = false := by
      rw [reportsCharging_snoc c .onSessionFinished rfl]
      simp [EndsReport]
    simp [resetSessionState, finished, Presence.reportAfter, presence, running]
  | forgets gone =>
    rw [gone] at plugged
    simp [Presence.reportAfter, presence, plugged, resetSessionState]
  | takesDown => exact reportsCharging_record s.chargePoint id

/-- While connected, only the handling of an event makes calls to the stack. -/
theorem taskStep_calls (connected : t.connectionState = .connected)
    (moved : taskStep t op = some v) (other : ∀ i, op ≠ .handle i) :
    v.session.chargePoint.calls = t.session.chargePoint.calls := by
  cases op with
  | handle inputs => exact absurd rfl (other inputs)
  | setEvent event => obtain rfl := Option.some.inj moved; rfl
  | wait =>
    simp only [taskStep] at moved
    split at moved
    · obtain rfl := Option.some.inj moved
      simp [OcppTask.waitEvents, connected]
    · cases moved
  | response request idTokenInfo =>
    simp only [taskStep] at moved
    split at moved
    · cases moved
    · obtain ⟨sent, found, rfl⟩ := Option.map_eq_some_iff.mp moved
      rw [handleTransactionEventResponse_eq]
      cases idTokenInfo <;> rfl
  | meterValue context =>
    obtain rfl := Option.some.inj moved
    exact (grows_transactionMeterValueCallback t.session.chargePoint context).2
  | getAuthResponse timeoutMs unixTime =>
    obtain rfl := Option.some.inj moved
    unfold OcppTask.getAuthResponse
    dsimp only
    split_ifs <;> rfl
  | stopTransaction evse stopReason =>
    obtain rfl := Option.some.inj moved
    unfold OcppTask.stopTransactionCb
    split_ifs <;> rfl
  | remoteStartTransaction evse authorizeRemoteStart =>
    obtain rfl := Option.some.inj moved
    unfold OcppTask.remoteStartTransactionCb
    split_ifs <;> rfl
  | connectionStateChanged isConnected =>
    obtain rfl := Option.some.inj moved
    unfold OcppTask.connectionStateChangedCb
    split_ifs <;> rfl

variable {cfg : Config} {st st' : Station} {sop : StationOp}

/-- Polling for an answer makes no call to the stack. -/
theorem loop_calls (i : Inputs) (unixTime : UInt32) :
    (st.loop cfg i unixTime).task.session.chargePoint.calls =
      st.task.session.chargePoint.calls := by
  simp only [Station.loop]
  split
  · unfold OcppTask.getAuthResponse
    dsimp only
    split_ifs <;> rfl
  · rfl

/-- Every batch that is fetched has one event at most. -/
def FetchesSingly (st : Station) : StationOp → Prop
  | .task .wait => st.task.eventBits.card ≤ 1
  | _ => True

/--
A remote start is only handled while the session was told of power, or there is power already.

Without a running session the handler ignores it.
-/
def StartsWithPower (st : Station) : StationOp → Prop
  | .task (.handle _) => st.task.batch.head? = some .chargingStartRemote →
      st.task.session.transactionHandler.isSome = true →
      st.task.session.sessionStarted = true ∨ st.evse.relayOpen = false
  | _ => True

/-- A report that the contactor was closed is on its way to the session task. -/
def StartPending (st : Station) : Prop :=
  .chargingStarted ∈ st.task.batch ∨ .chargingStarted ∈ st.task.eventBits ∨
    .chargingStarted ∈ st.outbox

/-- A charging vehicle is only reported when the session was told so, or is about to be told. -/
structure ReportsPower (st : Station) : Prop where
  agrees : Agrees st
  single : st.task.batch.length ≤ 1
  running : reportsCharging st.task.session.chargePoint = true →
    st.task.session.evPluggedIn = true
  known : reportsCharging st.task.session.chargePoint = true →
    st.task.session.sessionStarted = true ∨ StartPending st

/-- Power that the session was not told of is about to be told. -/
theorem startPending_of_power (agrees : Agrees st) (running : st.task.session.evPluggedIn = true)
    (untold : st.task.session.sessionStarted = false) (closed : st.evse.relayOpen = false)
    (batch : st.task.batch = [.chargingStartRemote]) : StartPending st := by
  obtain ⟨old, new, split, posted, handled⟩ := agrees.tracked
  -- A remote start tells nothing about the contactor, so the old reports had it open.
  have known : presence st.task.session = reported old := by
    simpa [batch, Presence.handle] using handled
  have pluggedOld : plugged old = true := by
    rw [← running]; exact (congrArg Presence.plugged known).symm
  have off : powered old = false := by
    have started : st.task.session.sessionStarted = (plugged old && powered old) :=
      congrArg Presence.charging known
    rw [untold, pluggedOld] at started
    simpa using started.symm
  have on : powered (old ++ (new ++ st.outbox)) = true := by
    rw [← List.append_assoc, ← split, agrees.told.power, closed]
    rfl
  -- Between the two there is a report that the contactor was closed.
  by_contra none
  have never : ∀ event ∈ new ++ st.outbox, event ≠ .chargingStarted := by
    intro event member same
    subst same
    rcases List.mem_append.mp member with before | later
    · exact none (.inr (.inl ((posted _ (by simp [FromCharging])).mpr before)))
    · exact none (.inr (.inr later))
  by_cases stopped : .chargingStopped ∈ new ++ st.outbox
  · have last : powered (old ++ (new ++ st.outbox)) = false :=
      openAfter_closed ⟨_, stopped, rfl⟩ never
    rw [last] at on
    cases on
  · have last : powered (old ++ (new ++ st.outbox)) = powered old :=
      openAfter_undecided fun event member =>
        ⟨never event member, fun same => stopped (same ▸ member)⟩
    rw [last, off] at on
    cases on

/-- A batch of one event at most tells the order of everything in it. -/
theorem FetchesSingly.tellsOrder (singly : FetchesSingly st sop) : TellsOrder st sop := by
  -- Two different events would be two elements of the batch.
  have apart : ∀ {a b : OcppEvent}, a ≠ b → st.task.eventBits.card ≤ 1 →
      ¬ (a ∈ st.task.eventBits ∧ b ∈ st.task.eventBits) := by
    intro a b other few both
    exact other (Finset.card_le_one.mp few a both.1 b both.2)
  cases sop with
  | task op =>
    cases op with
    | wait =>
      have few : st.task.eventBits.card ≤ 1 := singly
      refine ⟨fun both => ?_, fun both => ?_⟩
      · exact apart (by simp) few ⟨both.1, both.2.1⟩
      · exact apart (by simp) few ⟨both.1, both.2.1⟩
    | _ => trivial
  | _ => trivial

/-- While a charging vehicle is reported, it is known to be plugged in. -/
theorem reportAfter_plugged {p : Presence} {reported : Bool}
    (running : reported = true → p.plugged = true)
    (now : p.reportAfter reported event = true) : (p.handle event).plugged = true := by
  -- Only the events that end the report change what is known of the plug-in.
  obtain ⟨plugged, charging⟩ := p
  cases event <;> cases reported <;> cases plugged <;>
    simp_all [Presence.reportAfter, Presence.handle]

/-- A batch has no more events than there were bits. -/
theorem inOrder_length (bits : EventBits) : (inOrder bits).length ≤ bits.card := by
  have distinct : (inOrder bits).Nodup := List.Nodup.filter _ (by decide)
  have among : (inOrder bits).toFinset ⊆ bits := by
    intro event member
    simpa using List.of_mem_filter (List.mem_toFinset.mp member)
  calc (inOrder bits).length = (inOrder bits).toFinset.card :=
        (List.toFinset_card_of_nodup distinct).symm
    _ ≤ bits.card := Finset.card_le_card among

/-- The report stays known while no call is made and no pending start is lost. -/
theorem ReportsPower.keep (reports : ReportsPower st) (agrees : Agrees st')
    (single : st'.task.batch.length ≤ 1)
    (calls : st'.task.session.chargePoint.calls = st.task.session.chargePoint.calls)
    (plugged : st'.task.session.evPluggedIn = st.task.session.evPluggedIn)
    (started : st'.task.session.sessionStarted = st.task.session.sessionStarted)
    (pending : StartPending st → StartPending st') : ReportsPower st' := by
  have same := reportsCharging_congr calls
  refine ⟨agrees, single, ?_, ?_⟩
  · rw [same, plugged]
    exact reports.running
  · rw [same, started]
    exact fun reported => (reports.known reported).imp id pending

/-- Handling the only event of a batch reports a charging vehicle only with power. -/
theorem ReportsPower.handles (reports : ReportsPower st) {task : OcppTask} {evse : Evse}
    {i : HandlerInputs} (agrees : Agrees { st with evse, task })
    (next : st.task.batch = event :: task.batch)
    (result : st.task.session.handle i event = .ok task.session)
    (bits : task.eventBits = st.task.eventBits)
    (power : StartsWithPower st (.task (.handle i))) :
    ReportsPower { st with evse, task } := by
  have sound := reports.agrees.sound.session
  have alone : task.batch = [] := by
    have single := reports.single
    rw [next, List.length_cons] at single
    exact List.eq_nil_of_length_eq_zero (by omega)
  have batch : st.task.batch = [event] := by rw [next, alone]
  -- What the session knows and what is reported last both follow the event.
  have known := presence_handle sound result
  have reported := handle_reports sound result
  have pluggedIn : task.session.evPluggedIn = _ := congrArg Presence.plugged known
  have started : task.session.sessionStarted = _ := congrArg Presence.charging known
  -- A start that was pending behind this event still is.
  have behind : StartPending st → event ≠ .chargingStarted →
      StartPending { st with evse, task } := by
    intro pending other
    rcases pending with here | fetched | posted
    · rw [batch, List.mem_singleton] at here
      exact absurd here.symm other
    · exact .inr (.inl (bits ▸ fetched))
    · exact .inr (.inr posted)
  have kept : reportsCharging st.task.session.chargePoint = true → event ≠ .chargingStarted →
      st.task.session.sessionStarted = true ∨ StartPending { st with evse, task } :=
    fun now other => (reports.known now).imp id (behind · other)
  refine ⟨agrees, by simp [alone], fun now => ?_, fun now => ?_⟩
  · -- Every event that leaves a charging vehicle reported leaves it plugged in.
    show task.session.evPluggedIn = true
    have now : (presence st.task.session).reportAfter _ event = true := reported.symm.trans now
    rw [pluggedIn]
    exact reportAfter_plugged reports.running now
  · show task.session.sessionStarted = true ∨ StartPending { st with evse, task }
    have now : (presence st.task.session).reportAfter _ event = true := reported.symm.trans now
    rw [started]
    have running := reports.running
    cases event with
    | evConnected =>
      simp only [Presence.reportAfter, Bool.and_eq_true] at now
      exact kept now.1 (by simp)
    | chargingStarted =>
      -- The session is told with the report.
      have there : st.task.session.evPluggedIn = true := by
        simp only [Presence.reportAfter, Bool.or_eq_true] at now
        exact now.elim running id
      exact .inl (by simp [Presence.handle, presence, there])
    | chargingStartRemote =>
      have there : st.task.session.evPluggedIn = true := by
        simp only [Presence.reportAfter, Bool.or_eq_true] at now
        exact now.elim running id
      show st.task.session.sessionStarted = true ∨ _
      cases told : st.task.session.sessionStarted with
      | true => exact .inl rfl
      | false =>
        -- There is power the session was not told of yet, so the report of it is pending.
        have handler : st.task.session.transactionHandler.isSome = true := by
          rw [← sound.plugged]; exact there
        have closed : st.evse.relayOpen = false :=
          (power (by simp [batch]) handler).resolve_left (by simp [told])
        exact .inr (behind (startPending_of_power reports.agrees there told closed batch) (by simp))
    | chargingStopped =>
      simp only [Presence.reportAfter, Bool.and_eq_true, Bool.not_eq_true'] at now
      have there : st.task.session.evPluggedIn = true := running now.1
      have untold : st.task.session.sessionStarted = false := by
        simpa [presence, there] using now.2
      exact .inr (((kept now.1 (by simp))).resolve_left (by simp [untold]))
    | chargingStopRemote | evDisconnected =>
      -- These two end the report of every session that is running.
      simp only [Presence.reportAfter, Bool.and_eq_true, Bool.not_eq_true'] at now
      have there : st.task.session.evPluggedIn = true := running now.1
      simp [presence, there] at now
    | evAuthNeeded | evAuthorized | telemetryReady | networkDown | reconnect =>
      exact kept now (by simp)

/-- Every step keeps a charging vehicle from being reported without power. -/
theorem ReportsPower.step (reports : ReportsPower st) (singly : FetchesSingly st sop)
    (power : StartsWithPower st sop) (stays : sop ≠ .task (.connectionStateChanged false))
    (moved : stationStep cfg st sop = some st') : ReportsPower st' := by
  have agrees := reports.agrees.step singly.tellsOrder stays moved
  cases stationStep_moves moved with
  | @loops i unixTime free =>
    obtain ⟨-, bits, batch, idles⟩ := @loop_task cfg st i unixTime
    refine reports.keep agrees (by rw [batch]; exact reports.single) (loop_calls i unixTime)
      idles.plugged idles.started fun pending => ?_
    -- The outbox was empty, so what was pending was set or fetched.
    rcases pending with here | fetched | posted
    · exact .inl (batch ▸ here)
    · exact .inr (.inl (bits ▸ fetched))
    · simp [free] at posted
  | @posts event outbox next =>
    refine reports.keep agrees reports.single rfl rfl rfl fun pending => ?_
    rcases pending with here | fetched | posted
    · exact .inl here
    · exact .inr (.inl (Finset.mem_insert_of_mem fetched))
    · rw [next] at posted
      rcases List.mem_cons.mp posted with same | later
      · exact .inr (.inl (same ▸ Finset.mem_insert_self ..))
      · exact .inr (.inr later)
  | @tasks op task external stepped =>
    by_cases handling : ∃ i, op = .handle i
    · obtain ⟨i, rfl⟩ := handling
      obtain ⟨event, next, result, bits⟩ := handle_moves stepped
      exact reports.handles agrees next result bits power
    -- Nothing but the handling of an event makes a call.
    have connected := reports.agrees.connected
    have calls := taskStep_calls connected stepped fun i same => handling ⟨i, same⟩
    cases taskStep_moves stepped with
    | @handles i event next result bits => exact absurd ⟨i, rfl⟩ handling
    | fetches done bits batch idles =>
      rw [if_pos connected] at batch
      have few : task.batch.length ≤ 1 := by
        rw [batch]
        exact (inOrder_length st.task.eventBits).trans singly
      refine reports.keep agrees few calls idles.plugged idles.started fun pending => ?_
      rcases pending with here | fetched | posted
      · simp [done] at here
      · exact .inl (by simp [batch, inOrder, handlingOrder, fetched])
      · exact .inr (.inr posted)
    | notes batch bits kept posted idles =>
      refine reports.keep agrees (by rw [batch]; exact reports.single) calls idles.plugged
        idles.started fun pending => ?_
      rcases pending with here | fetched | posted
      · exact .inl (batch ▸ here)
      · exact .inr (.inl (kept fetched))
      · exact .inr (.inr posted)
  | stops => exact reports.keep agrees reports.single rfl rfl rfl id
  | limits => exact reports.keep agrees reports.single rfl rfl rfl id

/-- At the start nothing was reported yet. -/
theorem Station.Initial.reportsPower (initial : st.Initial)
    (connected : st.task.connectionState = .connected) : ReportsPower st := by
  have agrees := initial.agrees connected
  obtain ⟨evse, connectionState, started, rfl⟩ := initial
  have quiet : reportsCharging ({} : ChargePoint) = false := rfl
  refine ⟨agrees, Nat.zero_le 1, fun now => ?_, fun now => ?_⟩
  · exact absurd (now.symm.trans quiet) (by decide)
  · exact absurd (now.symm.trans quiet) (by decide)

/-- The steps that tell the charging task to stop. -/
def Stops (st : Station) : StationOp → Prop
  | .stopCharging => True
  | .task op => st.TellsStop op
  | .loop _ _ | .post | .setMaxCurrent _ => False

instance (st : Station) : DecidablePred (Stops st)
  | .stopCharging => isTrue trivial
  | .task op => inferInstanceAs (Decidable (st.TellsStop op))
  | .loop _ _ | .post | .setMaxCurrent _ => isFalse id

/-- The charging loop has iterated since it was last told to stop, if it ever was. -/
def LoopedSinceStop (cfg : Config) (start : Station) (ops : List StationOp) : Prop :=
  ∃ front i unixTime back looped, ops = front ++ .loop i unixTime :: back ∧
    run (stationStep cfg) start (front ++ [.loop i unixTime]) = some looped ∧
    Meets (fun st op => ¬ Stops st op) (stationStep cfg) looped back

instance (st : Station) : DecidablePred (FetchesSingly st)
  | .task .wait => inferInstanceAs (Decidable (_ ≤ _))
  | .loop _ _ | .post | .stopCharging | .setMaxCurrent _
  | .task (.setEvent _) | .task (.handle _) | .task (.response _ _)
  | .task (.meterValue _) | .task (.getAuthResponse _ _) | .task (.stopTransaction _ _)
  | .task (.remoteStartTransaction _ _) | .task (.connectionStateChanged _) => isTrue trivial

instance (st : Station) : DecidablePred (StartsWithPower st)
  | .task (.handle _) => inferInstanceAs (Decidable (_ → _ → _ ∨ _))
  | .loop _ _ | .post | .stopCharging | .setMaxCurrent _
  | .task (.setEvent _) | .task .wait | .task (.response _ _)
  | .task (.meterValue _) | .task (.getAuthResponse _ _) | .task (.stopTransaction _ _)
  | .task (.remoteStartTransaction _ _) | .task (.connectionStateChanged _) => isTrue trivial

/--
Whenever nothing is pending, a vehicle that was last reported as charging has the contactor closed.

Every event is consumed in its own batch. No remote start may have been handled without power.
-/
theorem charging_reported_with_power {start : Station} {ops : List StationOp}
    (initial : start.Initial) (connected : start.task.connectionState = .connected)
    (stays : StationOp.task (.connectionStateChanged false) ∉ ops)
    (ran : run (stationStep cfg) start ops = some st)
    (singly : Meets FetchesSingly (stationStep cfg) start ops)
    (power : Meets StartsWithPower (stationStep cfg) start ops)
    (noOutbox : st.outbox = []) (noBits : st.task.eventBits = ∅) (noBatch : st.task.batch = [])
    (charging : reportsCharging st.task.session.chargePoint = true) :
    st.evse.relayOpen = false := by
  have begins : ReportsPower start := initial.reportsPower connected
  have guarded := (singly.and power).and_all fun op member =>
    (show op ≠ .task (.connectionStateChanged false) by intro same; exact stays (same ▸ member))
  have reports : ReportsPower st := run_guarded_invariant
    (fun reports allowed moved => reports.step allowed.1.1 allowed.1.2 allowed.2 moved)
    begins guarded ran
  -- Nothing is pending, so the session was told of power that is still there.
  have told : st.task.session.sessionStarted = true := by
    refine (reports.known charging).resolve_right fun pending => ?_
    rcases pending with here | fetched | posted
    · simp [noBatch] at here
    · simp [noBits] at fetched
    · simp [noOutbox] at posted
  have known := congrArg Presence.charging (reports.agrees.settled noBits noBatch)
  have on : powered st.posted = true := by
    have both : (plugged st.posted && powered st.posted) = true := by
      rw [← told]
      exact known.symm
    exact (Bool.and_eq_true_iff.mp both).2
  have told := reports.agrees.told.power
  rw [noOutbox, List.append_nil, on] at told
  simpa using told.symm

/-- The next event is set, fetched and handled on its own. -/
def oneByOne : List StationOp := [.post, .task .wait, .task (.handle ⟨"first", 3, true⟩)]

/-- A vehicle is plugged in and accepted, and is offered power that it does not ask for yet. -/
def offeredRun : List StationOp :=
  [.loop (pilotOnly .stateA) 1] ++ oneByOne ++ oneByOne ++
    [.loop (pilotOnly .stateB) 2] ++ oneByOne ++ oneByOne ++ oneByOne ++
    [.task (.response 1 (some .accepted)), .task .wait, .task (.handle ⟨"first", 3, true⟩),
      .loop (pilotOnly .stateB) 4]

/-- The management system asks to start, and the request is handled. -/
def remoteStart : List StationOp :=
  [.task (.remoteStartTransaction none false), .task .wait, .task (.handle ⟨"first", 3, true⟩)]

/-- A station that charges a vehicle when the remote start comes. -/
def startedTwice : Station :=
  (run (stationStep ⟨true, false⟩) .online
    (offeredRun ++ [.loop (pilotOnly .stateC) 5] ++ oneByOne ++ remoteStart)).getD .online

/-- It reports a charging vehicle, and has the contactor closed. -/
theorem charging_reported_with_power_startedTwice : startedTwice.evse.relayOpen = false :=
  charging_reported_with_power Station.online_initial rfl
    (show _ ∉ offeredRun ++ [.loop (pilotOnly .stateC) 5] ++ oneByOne ++ remoteStart by decide)
    (show run (stationStep ⟨true, false⟩) _ _ = some startedTwice by decide +kernel)
    (by decide +kernel) (by decide +kernel) (by decide +kernel) (by decide +kernel)
    (by decide +kernel) (by decide +kernel)

/-- A station that is asked to start from remote before the vehicle asks for power. -/
def startedEarly : Station :=
  (run (stationStep ⟨true, false⟩) .online (offeredRun ++ remoteStart)).getD .online

/-- It reports a charging vehicle while the contactor is open. -/
theorem charging_reported_without_power : ¬ ∀ (cfg : Config) (start st : Station)
    (ops : List StationOp), start.Initial → start.task.connectionState = .connected →
    StationOp.task (.connectionStateChanged false) ∉ ops →
    run (stationStep cfg) start ops = some st →
    Meets FetchesSingly (stationStep cfg) start ops → LoopedSinceStop cfg start ops →
    st.outbox = [] → st.task.eventBits = ∅ → st.task.batch = [] →
    reportsCharging st.task.session.chargePoint = true → st.evse.relayOpen = false := by
  intro powered
  have looped : LoopedSinceStop ⟨true, false⟩ .online (offeredRun ++ remoteStart) := by
    refine ⟨offeredRun.dropLast, pilotOnly .stateB, 4, remoteStart,
      (run (stationStep ⟨true, false⟩) .online offeredRun).getD .online, by decide, ?_, ?_⟩ <;>
      decide +kernel
  have closed := powered ⟨true, false⟩ .online startedEarly (offeredRun ++ remoteStart)
    Station.online_initial rfl (by decide) (by decide +kernel) (by decide +kernel) looped
    (by decide +kernel) (by decide +kernel) (by decide +kernel) (by decide +kernel)
  exact absurd closed (by decide +kernel)

end EasyEvse
