import EasyEvse.Ocpp.SessionLaws
import EasyEvse.Ocpp.Task
import EasyEvse.Transition.Fallible

/-! What every step of the session task leaves behind: its calls and its requests only grow. -/

namespace EasyEvse.Ocpp

open ChargePointCall Transition

/-- The stack was told and has sent everything it was told and had sent before. -/
structure Grows (c c' : ChargePoint) : Prop where
  calls : c.calls <+: c'.calls
  requests : c.requests <+: c'.requests

variable {c c' : ChargePoint} {h h' : TransactionHandler} {i : HandlerInputs} {s u : Session}
  {event : OcppEvent} {t v : OcppTask} {op : TaskOp}

theorem Grows.refl (c : ChargePoint) : Grows c c := ⟨List.prefix_refl _, List.prefix_refl _⟩

theorem Grows.trans {d : ChargePoint} (first : Grows c c') (second : Grows c' d) : Grows c d :=
  ⟨first.calls.trans second.calls, first.requests.trans second.requests⟩

theorem grows_record (c : ChargePoint) (call : ChargePointCall) : Grows c (c.record call) :=
  ⟨List.prefix_append _ _, List.prefix_refl _⟩

theorem grows_transactionEventReq (c : ChargePoint) (request : TransactionEventRequest) :
    Grows c (c.transactionEventReq request) :=
  ⟨List.prefix_refl _, List.prefix_append _ _⟩

/-- The transaction of the stack is not part of what grows. -/
theorem Grows.withTransaction (grows : Grows c c') (transaction : Option EnhancedTransaction) :
    Grows c { c' with transaction } :=
  ⟨grows.calls, grows.requests⟩

theorem grows_onTransactionStarted (c : ChargePoint) (connector : ℤ) (uuid : String)
    (triggerReason : TriggerReason) (chargingState : ChargingState) :
    Grows c (c.onTransactionStarted connector uuid triggerReason chargingState) :=
  ((grows_record c _).withTransaction _).trans (grows_transactionEventReq _ _)

theorem grows_onTransactionFinished (c : ChargePoint) (reason : Reason)
    (triggerReason : TriggerReason) (chargingState : ChargingState) :
    Grows c (c.onTransactionFinished reason triggerReason chargingState) := by
  -- Without an open transaction the call is recorded, and nothing is sent.
  unfold ChargePoint.onTransactionFinished
  dsimp only
  split
  · exact grows_record c _
  · exact ((grows_record c _).trans (grows_transactionEventReq _ _)).withTransaction _

theorem grows_onAuthorized (c : ChargePoint) : Grows c c.onAuthorized := by
  -- A token is sent once for a transaction, and not at all without one.
  unfold ChargePoint.onAuthorized
  dsimp only
  split
  · exact grows_record c _
  · split
    · exact grows_record c _
    · exact ((grows_record c _).trans (grows_transactionEventReq _ _)).withTransaction _

theorem grows_onChargingStateChanged (c : ChargePoint) (chargingState : ChargingState) :
    Grows c (c.onChargingStateChanged chargingState) := by
  unfold ChargePoint.onChargingStateChanged
  dsimp only
  split
  · exact grows_record c _
  · split
    · exact grows_record c _
    · exact ((grows_record c _).trans (grows_transactionEventReq _ _)).withTransaction _

/-- A meter value is reported without a call of the session task. -/
theorem grows_transactionMeterValueCallback (c : ChargePoint) (context : ReadingContext) :
    Grows c (c.transactionMeterValueCallback context) ∧
      (c.transactionMeterValueCallback context).calls = c.calls := by
  unfold ChargePoint.transactionMeterValueCallback
  split
  · exact ⟨.refl c, rfl⟩
  · exact ⟨grows_transactionEventReq c _, rfl⟩

theorem grows_processTxEventEffect {effect : TxEventEffect}
    (done : processTxEventEffect effect c h = .ok (c', h')) : Grows c c' := by
  -- An effect ends in one of the two calls, or in the error that excludes this result.
  unfold processTxEventEffect at done
  split at done
  · cases done; exact .refl c
  · obtain ⟨data, -, done⟩ := returns_of_bind done
    cases data with
    | none => simp [throw, throwThe, MonadExceptOf.throw] at done
    | some data =>
      simp only at done
      split at done
      · cases done; exact grows_onTransactionStarted ..
      · obtain ⟨h₁, -, done⟩ := returns_of_bind done
        cases done; exact grows_onTransactionFinished ..

theorem grows_processChargingStarted {remoteStart : Bool}
    (done : processChargingStarted remoteStart c h = .ok (c', h')) : Grows c c' := by
  obtain ⟨-, -, done⟩ := returns_of_bind done
  obtain ⟨effect, -, done⟩ := returns_of_bind done
  obtain ⟨⟨c₁, h₁⟩, processed, done⟩ := returns_of_bind done
  cases done
  exact (grows_processTxEventEffect processed).trans (grows_onChargingStateChanged ..)

theorem grows_processChargingEnded {remoteStop : Bool}
    (done : processChargingEnded remoteStop c h = .ok (c', h')) : Grows c c' := by
  obtain ⟨data, -, done⟩ := returns_of_bind done
  obtain ⟨effect, -, done⟩ := returns_of_bind done
  obtain ⟨⟨c₁, h₁⟩, processed, done⟩ := returns_of_bind done
  have first := grows_processTxEventEffect processed
  -- The report was made, so the pointer was not null.
  cases data with
  | none => simp [throw, throwThe, MonadExceptOf.throw] at done
  | some data =>
    cases done
    exact first.trans (grows_onChargingStateChanged ..)

/-- The event finds nothing to do in the session. -/
def Session.Ignores (s : Session) : OcppEvent → Prop
  | .evConnected => s.transactionHandler.isSome = true
  | .chargingStarted => ¬ (s.evPluggedIn = true ∧ s.transactionHandler.isSome = true)
  | .chargingStopped =>
    ¬ (s.evPluggedIn = true ∧ s.sessionStarted = true ∧ s.transactionHandler.isSome = true)
  | .chargingStartRemote | .chargingStopRemote => s.transactionHandler = none
  | .evDisconnected => s.evPluggedIn = false
  | .evAuthNeeded | .evAuthorized | .telemetryReady | .networkDown | .reconnect => True

/-- What the handler of an event does to the session, where it does not fail. -/
inductive Session.Handles (i : HandlerInputs) (s : Session) : OcppEvent → Session → Prop
  | ignores (event : OcppEvent) (nothing : s.Ignores event) : Handles i s event s
  | connects {effect : TxEventEffect} {h₁ h₂ : TransactionHandler} {c : ChargePoint}
      (gone : s.transactionHandler = none)
      (processed : processTxEventEffect effect s.chargePoint h₁ = .ok (c, h₂)) :
      Handles i s .evConnected { s with
        transactionHandler := some h₂, chargePoint := c.record .onSessionStarted
        evPluggedIn := true }
  | asks : Handles i s .evAuthNeeded { s with
      chargePoint := s.chargePoint.onAuthorized, lastAuthTime := i.unixTime }
  | judges (h₁ : TransactionHandler) :
      Handles i s .evAuthorized { s with transactionHandler := some h₁ }
  | starts {h₁ h₂ : TransactionHandler} {c : ChargePoint} (plugged : s.evPluggedIn = true)
      (processed : processChargingStarted false s.chargePoint h₁ = .ok (c, h₂)) :
      Handles i s .chargingStarted { s with
        transactionHandler := some h₂, chargePoint := c, sessionStarted := true }
  | startsRemote {h₁ h₂ : TransactionHandler} {c : ChargePoint}
      (there : s.transactionHandler = some h₁)
      (processed : processChargingStarted true s.chargePoint h₁ = .ok (c, h₂)) :
      Handles i s .chargingStartRemote { s with transactionHandler := some h₂, chargePoint := c }
  | measures : Handles i s .telemetryReady { s with
      chargePoint := s.chargePoint.record .onMeterValue }
  | stops {h₁ h₂ : TransactionHandler} {c : ChargePoint} (plugged : s.evPluggedIn = true)
      (started : s.sessionStarted = true)
      (processed : processChargingEnded false s.chargePoint h₁ = .ok (c, h₂)) :
      Handles i s .chargingStopped { s with
        transactionHandler := some h₂, chargePoint := c, sessionStarted := false }
  | stopsRemote {h₁ h₂ : TransactionHandler} {c : ChargePoint}
      (there : s.transactionHandler = some h₁)
      (processed : processChargingEnded true s.chargePoint h₁ = .ok (c, h₂)) :
      Handles i s .chargingStopRemote { s with transactionHandler := some h₂, chargePoint := c }
  | disconnects {effect : TxEventEffect} {h₁ h₂ : TransactionHandler} {c : ChargePoint}
      (plugged : s.evPluggedIn = true)
      (processed : processTxEventEffect effect s.chargePoint h₁ = .ok (c, h₂)) :
      Handles i s .evDisconnected (resetSessionState { s with
        transactionHandler := none, chargePoint := c.record .onSessionFinished })
  | forgets (gone : s.transactionHandler = none) :
      Handles i s .evDisconnected (resetSessionState s)
  | takesDown : Handles i s .networkDown { s with
      chargePoint := s.chargePoint.record .onNetworkDisconnected, disconnectRequested := true }

/-- A vehicle is connected unless the session has a handler already. -/
theorem handleEvConnected_handles (handled : s.handleEvConnected i = .ok u) :
    s.Handles i .evConnected u := by
  -- The branches of a handler are its guards, and then its calls one after the other.
  simp only [Session.handleEvConnected] at handled
  split at handled
  · rename_i there
    cases handled
    exact .ignores _ (by simp [Session.Ignores, there])
  · rename_i gone
    obtain ⟨h₁, -, handled⟩ := returns_of_bind handled
    obtain ⟨h₂, -, handled⟩ := returns_of_bind handled
    obtain ⟨effect, -, handled⟩ := returns_of_bind handled
    obtain ⟨⟨c₁, h₃⟩, processed, handled⟩ := returns_of_bind handled
    cases handled
    exact .connects gone processed

/-- A judgement is asked for if there are a vehicle and a token. -/
theorem handleEvAuthNeeded_handles : s.Handles i .evAuthNeeded (s.handleEvAuthNeeded i) := by
  unfold Session.handleEvAuthNeeded
  split
  · exact .asks
  · exact .ignores _ trivial

/-- A judgement is told to the handler, if there is one. -/
theorem handleEvAuthorized_handles (handled : s.handleEvAuthorized = .ok u) :
    s.Handles i .evAuthorized u := by
  simp only [Session.handleEvAuthorized] at handled
  split at handled
  · cases handled
    exact .ignores _ trivial
  · obtain ⟨effect, -, handled⟩ := returns_of_bind handled
    cases handled
    exact .judges _

/-- Charging starts in a session with a plug and a handler. -/
theorem handleChargingStarted_handles (handled : s.handleChargingStarted = .ok u) :
    s.Handles i .chargingStarted u := by
  simp only [Session.handleChargingStarted] at handled
  split at handled
  · rename_i plugged there
    obtain ⟨⟨c₁, h₁⟩, processed, handled⟩ := returns_of_bind handled
    cases handled
    exact .starts plugged processed
  · -- What the guard asks for is not there.
    rename_i away
    cases handled
    refine .ignores _ ?_
    rintro ⟨plugged, present⟩
    obtain ⟨h₁, there⟩ := Option.isSome_iff_exists.mp present
    exact away h₁ plugged there

/-- Charging is started by the management system in a session with a handler. -/
theorem handleChargingStartRemote_handles (handled : s.handleChargingStartRemote = .ok u) :
    s.Handles i .chargingStartRemote u := by
  simp only [Session.handleChargingStartRemote] at handled
  split at handled
  · rename_i gone
    cases handled
    exact .ignores _ gone
  · rename_i there
    obtain ⟨⟨c₁, h₁⟩, processed, handled⟩ := returns_of_bind handled
    cases handled
    exact .startsRemote there processed

/-- A meter value is reported for a vehicle that is authorized. -/
theorem handleTelemetryReady_handles : s.Handles i .telemetryReady s.handleTelemetryReady := by
  unfold Session.handleTelemetryReady
  split
  · exact .measures
  · exact .ignores _ trivial

/-- Charging stops in a session that was started, with a plug and a handler. -/
theorem handleChargingStopped_handles (handled : s.handleChargingStopped = .ok u) :
    s.Handles i .chargingStopped u := by
  simp only [Session.handleChargingStopped] at handled
  split at handled
  · rename_i plugged started there
    obtain ⟨⟨c₁, h₁⟩, processed, handled⟩ := returns_of_bind handled
    cases handled
    exact .stops plugged started processed
  · -- What the guard asks for is not there.
    rename_i away
    cases handled
    refine .ignores _ ?_
    rintro ⟨plugged, started, present⟩
    obtain ⟨h₁, there⟩ := Option.isSome_iff_exists.mp present
    exact away h₁ plugged started there

/-- Charging is stopped by the management system in a session with a handler. -/
theorem handleChargingStopRemote_handles (handled : s.handleChargingStopRemote = .ok u) :
    s.Handles i .chargingStopRemote u := by
  simp only [Session.handleChargingStopRemote] at handled
  split at handled
  · rename_i gone
    cases handled
    exact .ignores _ gone
  · rename_i there
    obtain ⟨⟨c₁, h₁⟩, processed, handled⟩ := returns_of_bind handled
    cases handled
    exact .stopsRemote there processed

/-- A session is finished and reset, unless it has a handler and no vehicle. -/
theorem handleEvDisconnected_handles (handled : s.handleEvDisconnected = .ok u) :
    s.Handles i .evDisconnected u := by
  simp only [Session.handleEvDisconnected] at handled
  split at handled
  · rename_i plugged there
    obtain ⟨data, -, handled⟩ := returns_of_bind handled
    obtain ⟨effect₁, -, handled⟩ := returns_of_bind handled
    obtain ⟨effect₂, -, handled⟩ := returns_of_bind handled
    obtain ⟨⟨c₁, h₁⟩, processed, handled⟩ := returns_of_bind handled
    cases handled
    exact .disconnects plugged processed
  · rename_i unplugged there
    cases handled
    exact .ignores _ unplugged
  · rename_i gone
    cases handled
    exact .forgets gone

/-- A disconnection is reported once. -/
theorem handleNetworkDown_handles : s.Handles i .networkDown s.handleNetworkDown := by
  unfold Session.handleNetworkDown
  split
  · exact .ignores _ trivial
  · exact .takesDown

/-- Every event that is handled without a fault is handled in one of these ways. -/
theorem handle_handles (handled : s.handle i event = .ok u) : s.Handles i event u := by
  -- Each event is handed to its own handler, and three of these have no calls that can fail.
  cases event with
  | evConnected => exact handleEvConnected_handles handled
  | evAuthNeeded => exact Except.ok.inj handled ▸ handleEvAuthNeeded_handles
  | evAuthorized => exact handleEvAuthorized_handles handled
  | chargingStarted => exact handleChargingStarted_handles handled
  | chargingStartRemote => exact handleChargingStartRemote_handles handled
  | telemetryReady => exact Except.ok.inj handled ▸ handleTelemetryReady_handles
  | chargingStopped => exact handleChargingStopped_handles handled
  | chargingStopRemote => exact handleChargingStopRemote_handles handled
  | evDisconnected => exact handleEvDisconnected_handles handled
  | networkDown => exact Except.ok.inj handled ▸ handleNetworkDown_handles
  | reconnect => cases handled; exact .ignores _ trivial

/-- No event makes the stack forget a call or a request, or turns a refusal into an acceptance. -/
theorem handle_grows (handled : s.handle i event = .ok u) :
    Grows s.chargePoint u.chargePoint ∧
      (u.isEvAuthorized = true → s.isEvAuthorized = true) := by
  -- Each handler is a sequence of calls that grow the log, and at most clears the judgement.
  cases handle_handles handled with
  | ignores _ _ => exact ⟨.refl _, id⟩
  | connects gone processed =>
    exact ⟨(grows_processTxEventEffect processed).trans (grows_record ..), id⟩
  | asks => exact ⟨grows_onAuthorized _, id⟩
  | judges h₁ => exact ⟨.refl _, id⟩
  | starts plugged processed => exact ⟨grows_processChargingStarted processed, id⟩
  | startsRemote there processed => exact ⟨grows_processChargingStarted processed, id⟩
  | measures => exact ⟨grows_record .., id⟩
  | stops plugged started processed => exact ⟨grows_processChargingEnded processed, id⟩
  | stopsRemote there processed => exact ⟨grows_processChargingEnded processed, id⟩
  | disconnects plugged processed =>
    -- The end of a session clears the judgement with everything else.
    exact ⟨(grows_processTxEventEffect processed).trans (grows_record ..),
      by simp [resetSessionState]⟩
  | forgets gone => exact ⟨.refl _, by simp [resetSessionState]⟩
  | takesDown => exact ⟨grows_record .., id⟩

/-- The events that only the callbacks of the stack set. -/
def FromStack (event : OcppEvent) : Prop :=
  event = .evAuthorized ∨ event = .chargingStartRemote ∨ event = .chargingStopRemote

/-- A change of a session in which nothing starts or ends. -/
structure Session.Idles (s u : Session) : Prop where
  handler : u.transactionHandler = s.transactionHandler
  plugged : u.evPluggedIn = s.evPluggedIn
  started : u.sessionStarted = s.sessionStarted
  calls : ∃ added, u.chargePoint.calls = s.chargePoint.calls ++ added ∧
    ∀ call ∈ added, ¬ call.Starts ∧ ¬ call.Finishes

/--
What a step does to the events and to the session: it handles, fetches, or notes something.

Answers and requests are left out.
-/
inductive TaskMove (t u : OcppTask) : TaskOp → Prop
  | handles {i : HandlerInputs} {event : OcppEvent} (next : t.batch = event :: u.batch)
      (result : t.session.handle i event = .ok u.session) (bits : u.eventBits = t.eventBits) :
      TaskMove t u (.handle i)
  | fetches (done : t.batch = []) (bits : u.eventBits = ∅)
      (batch : u.batch = if t.connectionState = .connected then inOrder t.eventBits else [])
      (idles : t.session.Idles u.session) : TaskMove t u .wait
  | notes {op : TaskOp} (batch : u.batch = t.batch)
      (bits : ∀ event, event ∈ u.eventBits →
        event ∈ t.eventBits ∨ op = .setEvent event ∨ FromStack event)
      (pending : t.eventBits ⊆ u.eventBits)
      (posted : ∀ event, op = .setEvent event → event ∈ u.eventBits)
      (idles : t.session.Idles u.session) : TaskMove t u op

/-- A session in which nothing changes but an answer or a time idles. -/
theorem Session.Idles.of_same (handler : u.transactionHandler = s.transactionHandler)
    (plugged : u.evPluggedIn = s.evPluggedIn) (started : u.sessionStarted = s.sessionStarted)
    (chargePoint : u.chargePoint = s.chargePoint) : s.Idles u :=
  ⟨handler, plugged, started, [], by simp [chargePoint], by simp⟩

/-- Setting an event is noted, whatever else is written down with it. -/
theorem TaskMove.of_setEvent (set : v.eventBits = insert event t.eventBits)
    (batch : v.batch = t.batch) (idles : t.session.Idles v.session)
    (allowed : op = .setEvent event ∨ FromStack event)
    (only : ∀ other, op = .setEvent other → other = event) : TaskMove t v op := by
  -- The bits are those of before and the one that is set.
  refine .notes batch (fun other member => ?_) (fun other member => ?_) (fun other is => ?_) idles
  · rw [set] at member
    rcases Finset.mem_insert.mp member with rfl | before
    · exact .inr allowed
    · exact .inl before
  · rw [set]
    exact Finset.mem_insert_of_mem member
  · rw [set, only other is]
    exact Finset.mem_insert_self ..

/-- Noting something without an event leaves the events alone. -/
theorem TaskMove.of_quiet (same : v.eventBits = t.eventBits) (batch : v.batch = t.batch)
    (idles : t.session.Idles v.session) (never : ∀ event, op ≠ .setEvent event) :
    TaskMove t v op :=
  .notes batch (fun _ member => .inl (same ▸ member)) (by rw [same])
    (fun event is => absurd is (never event)) idles

/-- The stop that follows a refused token is not a remote one, and so it does nothing at all. -/
theorem handleTransactionEventResponse_eq (t : OcppTask) (sent : TransactionEventRequest)
    (idTokenInfo : Option AuthorizationStatus) :
    t.handleTransactionEventResponse sent idTokenInfo =
      t.transactionEventResponseCb idTokenInfo := by
  have nothing : ∀ u : OcppTask, (u.stopTransactionCb evseId .deAuthorized).1 = u := by
    intro u
    simp [OcppTask.stopTransactionCb]
  unfold OcppTask.handleTransactionEventResponse
  dsimp only
  split
  · exact nothing _
  · rfl

/-- Fetching clears the bits, and keeps the events only while connected. -/
theorem waitEvents_moves (done : t.batch = []) : TaskMove t t.waitEvents .wait := by
  have idle : t.session.Idles t.session := .of_same rfl rfl rfl rfl
  -- Both calls of the offline branch are about the connection alone.
  have told : ∀ call : ChargePointCall, ¬ call.Starts ∧ ¬ call.Finishes →
      t.session.Idles { t.session with chargePoint := t.session.chargePoint.record call } :=
    fun call neutral => ⟨rfl, rfl, rfl, [call], rfl, by simpa using neutral⟩
  unfold OcppTask.waitEvents
  dsimp only
  split_ifs with online wanted spent
  · exact .fetches done rfl (by simp [online]) idle
  · exact .fetches done rfl (by simp [online, done]) (told .stop (by simp [Starts, Finishes]))
  · exact .fetches done rfl (by simp [online, done])
      (told .connectWebsocket (by simp [Starts, Finishes]))
  · exact .fetches done rfl (by simp [online, done]) idle

/-- A step that handles takes the first event of the batch, and changes nothing else. -/
theorem handle_moves (stepped : taskStep t (.handle i) = some v) :
    ∃ event, t.batch = event :: v.batch ∧ t.session.handle i event = .ok v.session ∧
      v.eventBits = t.eventBits := by
  simp only [taskStep] at stepped
  split at stepped
  · cases stepped
  · rename_i event batch fetched
    cases handled : t.session.handle i event with
    | error fault => simp [handled, Except.toOption] at stepped
    | ok session =>
      simp only [handled, Except.toOption, Option.map_some, Option.some.injEq] at stepped
      subst stepped
      exact ⟨event, fetched, handled, rfl⟩

/-- Every step handles, fetches, or notes something. -/
theorem taskStep_moves (moved : taskStep t op = some v) : TaskMove t v op := by
  -- Fetching and handling have their own cases. Every other step notes something, or nothing.
  cases op with
  | setEvent event =>
    obtain rfl := Option.some.inj moved
    exact .of_setEvent rfl rfl (.of_same rfl rfl rfl rfl) (.inl rfl) (by simp)
  | wait =>
    simp only [taskStep] at moved
    split at moved
    · rename_i free
      obtain rfl := Option.some.inj moved
      exact waitEvents_moves free.1
    · cases moved
  | handle inputs =>
    obtain ⟨event, next, result, bits⟩ := handle_moves moved
    exact .handles next result bits
  | response request idTokenInfo =>
    simp only [taskStep] at moved
    split at moved
    · cases moved
    · obtain ⟨sent, found, rfl⟩ := Option.map_eq_some_iff.mp moved
      rw [handleTransactionEventResponse_eq]
      -- Only a response with a judgement sets an event.
      cases idTokenInfo with
      | none => exact .of_quiet rfl rfl (.of_same rfl rfl rfl rfl) (by simp)
      | some status =>
        exact .of_setEvent rfl rfl (.of_same rfl rfl rfl rfl) (.inr (by simp [FromStack])) (by simp)
  | meterValue context =>
    obtain rfl := Option.some.inj moved
    have calls := (grows_transactionMeterValueCallback t.session.chargePoint context).2
    exact .of_quiet rfl rfl ⟨rfl, rfl, rfl, [], by simpa using calls, by simp⟩ (by simp)
  | getAuthResponse timeoutMs unixTime =>
    obtain rfl := Option.some.inj moved
    unfold OcppTask.getAuthResponse
    dsimp only
    split_ifs <;> exact .of_quiet rfl rfl (.of_same rfl rfl rfl rfl) (by simp)
  | stopTransaction evse stopReason =>
    obtain rfl := Option.some.inj moved
    unfold OcppTask.stopTransactionCb
    split_ifs
    · exact .of_quiet rfl rfl (.of_same rfl rfl rfl rfl) (by simp)
    · exact .of_setEvent rfl rfl (.of_same rfl rfl rfl rfl) (.inr (by simp [FromStack]))
        (by simp)
    · exact .of_quiet rfl rfl (.of_same rfl rfl rfl rfl) (by simp)
  | remoteStartTransaction evse authorizeRemoteStart =>
    obtain rfl := Option.some.inj moved
    unfold OcppTask.remoteStartTransactionCb
    split_ifs
    · exact .of_quiet rfl rfl (.of_same rfl rfl rfl rfl) (by simp)
    · exact .of_quiet rfl rfl (.of_same rfl rfl rfl rfl) (by simp)
    · exact .of_quiet rfl rfl (.of_same rfl rfl rfl rfl) (by simp)
    · exact .of_setEvent rfl rfl (.of_same rfl rfl rfl rfl) (.inr (by simp [FromStack]))
        (by simp)
  | connectionStateChanged isConnected =>
    obtain rfl := Option.some.inj moved
    unfold OcppTask.connectionStateChangedCb
    split_ifs <;> exact .of_quiet rfl rfl (.of_same rfl rfl rfl rfl) (by simp)

/-- Only a report of a lost connection ends one. -/
theorem taskStep_connected (moved : taskStep t op = some v)
    (connected : t.connectionState = .connected) (stays : op ≠ .connectionStateChanged false) :
    v.connectionState = .connected := by
  -- The callback of the connection is the only place that writes its state.
  cases op with
  | setEvent event =>
    obtain rfl := Option.some.inj moved
    exact connected
  | wait =>
    simp only [taskStep] at moved
    split at moved
    · obtain rfl := Option.some.inj moved
      simp [OcppTask.waitEvents, connected]
    · cases moved
  | handle inputs =>
    simp only [taskStep] at moved
    split at moved
    · cases moved
    · obtain ⟨session, -, rfl⟩ := Option.map_eq_some_iff.mp moved
      exact connected
  | response request idTokenInfo =>
    simp only [taskStep] at moved
    split at moved
    · cases moved
    · obtain ⟨sent, found, rfl⟩ := Option.map_eq_some_iff.mp moved
      rw [handleTransactionEventResponse_eq]
      cases idTokenInfo <;> exact connected
  | meterValue context =>
    obtain rfl := Option.some.inj moved
    exact connected
  | getAuthResponse timeoutMs unixTime =>
    obtain rfl := Option.some.inj moved
    unfold OcppTask.getAuthResponse
    dsimp only
    split_ifs <;> exact connected
  | stopTransaction evse stopReason =>
    obtain rfl := Option.some.inj moved
    unfold OcppTask.stopTransactionCb
    split_ifs <;> exact connected
  | remoteStartTransaction evse authorizeRemoteStart =>
    obtain rfl := Option.some.inj moved
    unfold OcppTask.remoteStartTransactionCb
    split_ifs <;> exact connected
  | connectionStateChanged isConnected =>
    obtain rfl := Option.some.inj moved
    have online : isConnected = true := by
      by_contra lost
      exact stays (by simp [lost])
    simp [OcppTask.connectionStateChangedCb, online]

/-- A session that idles stays sound. -/
theorem Session.Idles.sound (idles : s.Idles u) (sound : s.Sound) : u.Sound := by
  obtain ⟨handler, plugged, started, added, calls, neutral⟩ := idles
  refine ⟨by rw [plugged, handler]; exact sound.plugged,
    by rw [plugged, started]; exact sound.charging, fun idle => ?_, fun h running => ?_⟩
  · -- Calls that neither start nor finish a transaction leave open what was open.
    rw [calls]
    exact (sound.idle (handler ▸ idle)).others neutral
  · have session := sound.inSession h (handler ▸ running)
    refine { session with kept := ?_ }
    rw [calls]
    exact session.kept.others neutral

/-- Handling an event keeps a session sound, and follows the outline. -/
theorem handle_sound (sound : s.Sound) (handled : s.handle i event = .ok u) :
    u.Sound ∧ u.outline = s.outline.handle event := by
  have follows := s.handle_follows i sound event
  rw [handled] at follows
  exact ⟨follows.1, follows.2.1⟩

/-- The session is sound, and its batch is in the order that batches are handled in. -/
structure TaskSound (t : OcppTask) : Prop where
  session : t.session.Sound
  ordered : t.batch.Sublist handlingOrder

theorem taskSound_init : TaskSound {} := ⟨Session.sound_init, List.nil_sublist _⟩

/-- Every step keeps the session sound and its batch in order. -/
theorem TaskMove.sound (move : TaskMove t v op) (sound : TaskSound t) : TaskSound v := by
  cases move with
  | handles next result =>
    refine ⟨(handle_sound sound.session result).1, ?_⟩
    -- What is left of a batch is in the order of the whole batch.
    have ordered := sound.ordered
    rw [next] at ordered
    exact (List.sublist_cons_self ..).trans ordered
  | fetches done bits batch idles =>
    refine ⟨idles.sound sound.session, ?_⟩
    rw [batch]
    split
    · exact List.filter_sublist
    · exact List.nil_sublist _
  | notes batch bits pending posted idles =>
    exact ⟨idles.sound sound.session, by rw [batch]; exact sound.ordered⟩

/-- No step takes back a call. -/
theorem TaskMove.calls (move : TaskMove t v op) :
    t.session.chargePoint.calls <+: v.session.chargePoint.calls := by
  cases move with
  | handles next result => exact (handle_grows result).1.calls
  | fetches done bits batch idles =>
    obtain ⟨added, calls, -⟩ := idles.calls
    exact ⟨added, calls.symm⟩
  | notes batch bits pending posted idles =>
    obtain ⟨added, calls, -⟩ := idles.calls
    exact ⟨added, calls.symm⟩

/-- A batch that begins with an event does not contain it again, nor an earlier one. -/
theorem TaskSound.rest {batch : List OcppEvent} (sound : TaskSound t)
    (next : t.batch = event :: batch) {earlier : OcppEvent}
    (before : ¬ [event, earlier].Sublist handlingOrder) : earlier ∉ batch := by
  -- Otherwise the two would stand in the handling order one after the other.
  intro member
  have ordered := sound.ordered
  rw [next] at ordered
  exact before (((List.singleton_sublist.mpr member).cons_cons event).trans ordered)

end EasyEvse.Ocpp
