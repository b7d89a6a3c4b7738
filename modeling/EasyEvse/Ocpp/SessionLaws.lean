import EasyEvse.Ocpp.Outline

/-! The session task follows its outline: each handler moves the flags as the outline says. -/

namespace EasyEvse.Ocpp

open ChargePointCall Transition

variable {c : ChargePoint} {h : TransactionHandler}

/-- Whether a request is sent or not, a report of a charging state is one more call. -/
theorem onChargingStateChanged_calls (c : ChargePoint) (chargingState : ChargingState) :
    (c.onChargingStateChanged chargingState).calls =
      c.calls ++ [.onChargingStateChanged chargingState] := by
  unfold ChargePoint.onChargingStateChanged
  dsimp only [ChargePoint.record, ChargePoint.transactionEventReq]
  split
  · rfl
  · split <;> rfl

/-- Whether a request is sent or not, asking for an authorization is one more call. -/
theorem onAuthorized_calls (c : ChargePoint) :
    c.onAuthorized.calls = c.calls ++ [.onAuthorized] := by
  unfold ChargePoint.onAuthorized
  dsimp only [ChargePoint.record, ChargePoint.transactionEventReq]
  split
  · rfl
  · split <;> rfl

/-- Reporting a charging state neither starts nor finishes a transaction. -/
theorem kept_onChargingStateChanged {isOpen : Bool} {chargingState : ChargingState}
    (kept : Kept Starts Finishes c.calls isOpen) :
    Kept Starts Finishes (c.onChargingStateChanged chargingState).calls isOpen := by
  rw [onChargingStateChanged_calls]
  exact kept.other (by simp [Starts]) (by simp [Finishes])

/-- Asking for an authorization neither starts nor finishes a transaction. -/
theorem kept_onAuthorized {isOpen : Bool} (kept : Kept Starts Finishes c.calls isOpen) :
    Kept Starts Finishes c.onAuthorized.calls isOpen := by
  rw [onAuthorized_calls]
  exact kept.other (by simp [Starts]) (by simp [Finishes])

/-- Starting a transaction opens a span. -/
theorem kept_onTransactionStarted {connector : ℤ} {uuid : String} {triggerReason : TriggerReason}
    {chargingState : ChargingState} (kept : Kept Starts Finishes c.calls false) :
    Kept Starts Finishes
      (c.onTransactionStarted connector uuid triggerReason chargingState).calls true :=
  kept.opening (by simp [Starts])

/-- Finishing a transaction closes it. -/
theorem kept_onTransactionFinished {reason : Reason} {triggerReason : TriggerReason}
    {chargingState : ChargingState} (kept : Kept Starts Finishes c.calls true) :
    Kept Starts Finishes
      (c.onTransactionFinished reason triggerReason chargingState).calls false := by
  -- The call is recorded even when the stack has no transaction.
  have appended : (c.onTransactionFinished reason triggerReason chargingState).calls =
      c.calls ++ [.onTransactionFinished reason triggerReason chargingState] := by
    unfold ChargePoint.onTransactionFinished
    dsimp only [ChargePoint.record, ChargePoint.transactionEventReq]
    split <;> rfl
  rw [appended]
  exact kept.closing (by simp [Starts]) (by simp [Finishes])

/-- Stopping a transaction reports its end and drops its data. -/
theorem processTxEventEffect_stop {data : TransactionData}
    (slot : h.evseIdTransactionDataMap.lookup evseId = some (some data)) :
    processTxEventEffect .stopTransaction c h =
      .ok (c.onTransactionFinished data.stopReason data.triggerReason data.chargingState,
        h.setData evseId none) := by
  -- The data is looked up before it is dropped, so its reasons are the ones that are reported.
  simp [processTxEventEffect, TransactionHandler.getTransactionData,
    TransactionHandler.resetTransactionData, slot, bind, Except.bind, pure, Except.pure]

/-- Starting a transaction marks its data as started and reports its beginning. -/
theorem processTxEventEffect_start {data : TransactionData}
    (slot : h.evseIdTransactionDataMap.lookup evseId = some (some data)) :
    processTxEventEffect .startTransaction c h =
      .ok (c.onTransactionStarted data.connectorId data.sessionId data.triggerReason
        data.chargingState, h.setData evseId (some { data with started := true })) := by
  -- The pointer is the one in the map, so the mark is seen there.
  simp [processTxEventEffect, TransactionHandler.getTransactionData,
    TransactionHandler.modifyTransactionData, slot, bind, Except.bind, pure, Except.pure]

namespace InSession

/-- Changing the transaction data in place keeps everything, as long as it stays started. -/
theorem modify (session : InSession c h) (change : TransactionData → TransactionData)
    (stays : ∀ data, (change data).started = data.started) :
    InSession c (h.modifyTransactionData change) ∧
      (h.modifyTransactionData change).transactionData = h.transactionData.map change ∧
      (h.modifyTransactionData change).conditions evseId = h.conditions evseId := by
  -- A null pointer is not followed, and then nothing changes at all.
  cases present : h.transactionData with
  | none =>
    have slot : h.evseIdTransactionDataMap.lookup evseId = some none := by
      rw [session.slot, present]
    have same : h.modifyTransactionData change = h := by
      simp [TransactionHandler.modifyTransactionData, slot]
    rw [same, present]
    exact ⟨session, rfl, rfl⟩
  | some data =>
    have slot : h.evseIdTransactionDataMap.lookup evseId = some (some data) := by
      rw [session.slot, present]
    have moved : h.modifyTransactionData change = h.setData evseId (some (change data)) := by
      simp [TransactionHandler.modifyTransactionData, slot]
    have found : (h.setData evseId (some (change data))).transactionData = some (change data) := by
      simp [TransactionHandler.transactionData]
    rw [moved]
    refine ⟨⟨by simp [session.startPoints], by simp [session.stopPoints],
      by simp [session.connected], by simp [session.unreset], by simp [found], ?_, ?_⟩,
      by simp [found], by simp⟩
    · intro data' member
      rw [found] at member
      rw [← Option.some.inj member, stays]
      exact session.started data present
    · rw [found]; simpa [present] using session.kept

/-- In a session an event stops the transaction exactly when the vehicle is not authorized. -/
theorem submit_effect (session : InSession c h) (event : TxEvent)
    (connected : ((h.conditions evseId).submitEvent event).isEvConnected = true)
    (unreset : ((h.conditions evseId).submitEvent event).isImmediateReset = false) :
    h.submitEvent evseId event = (h.recordEvent evseId event, .ok
      (if h.transactionData.isSome ∧ ((h.conditions evseId).submitEvent event).isAuthorized = false
      then .stopTransaction else .none)) := by
  -- The only stop point is that the power path is open: not authorized, or not connected.
  cases present : h.transactionData with
  | none =>
    rw [TransactionHandler.submitEvent_null event (by rw [session.slot, present])]
    simp
  | some data =>
    -- The vehicle is connected and not reset, which leaves the authorization.
    rw [TransactionHandler.submitEvent_started event (by rw [session.slot, present])
      (session.started data present)]
    simp [session.stopPoints, Ocpp.stopPoints, TxStartStopConditions.isStopConditionFullfilled,
      connected, unreset]

/-- Recording an event that keeps the vehicle connected keeps the session. -/
theorem record (session : InSession c h) (event : TxEvent)
    (connected : ((h.conditions evseId).submitEvent event).isEvConnected = true)
    (unreset : ((h.conditions evseId).submitEvent event).isImmediateReset = false) :
    InSession c (h.recordEvent evseId event) where
  startPoints := session.startPoints
  stopPoints := session.stopPoints
  connected := by simpa using connected
  unreset := by simpa using unreset
  slot := session.slot
  started := session.started
  kept := session.kept

/-- A session goes on after its transaction was finished. -/
theorem stop (session : InSession c h) {data : TransactionData}
    (present : h.transactionData = some data) :
    (h.setData evseId none).transactionData = none ∧
      InSession (c.onTransactionFinished data.stopReason data.triggerReason data.chargingState)
        (h.setData evseId none) := by
  -- Dropping the data closes the transaction at the stack at the same time.
  have dropped : (h.setData evseId none).transactionData = none := by
    simp [TransactionHandler.transactionData]
  refine ⟨dropped, by simp [session.startPoints], by simp [session.stopPoints],
    by simp [session.connected], by simp [session.unreset], by simp [dropped],
    by simp [dropped], ?_⟩
  rw [dropped]
  exact kept_onTransactionFinished (by simpa [present] using session.kept)

/-- Looking up the transaction data never fails in a session. -/
theorem getTransactionData (session : InSession c h) :
    h.getTransactionData evseId = .ok h.transactionData := by
  simp [TransactionHandler.getTransactionData, session.slot]

/--
A report on charging keeps the session, and ends the transaction of an unauthorized one.

The change is what the report writes into the data before it submits its event.
-/
theorem report (session : InSession c h) (event : TxEvent)
    (change : TransactionData → TransactionData)
    (stays : ∀ data, (change data).started = data.started)
    (energy : event = .energyTransferStarted ∨ event = .energyTransferStopped) :
    ∃ h₂ txEventEffect c' h',
      (h.modifyTransactionData change).submitEvent evseId event = (h₂, .ok txEventEffect) ∧
      processTxEventEffect txEventEffect c h₂ = .ok (c', h') ∧ InSession c' h' ∧
      (h'.conditions evseId).isAuthorized = (h.conditions evseId).isAuthorized ∧
      h'.transactionData.isSome =
        (h.transactionData.isSome && (h.conditions evseId).isAuthorized) := by
  obtain ⟨modified, data, conditions⟩ := session.modify change stays
  -- The event itself is only about the energy.
  have unmoved : ((h.conditions evseId).submitEvent event).isEvConnected = true ∧
      ((h.conditions evseId).submitEvent event).isImmediateReset = false ∧
      ((h.conditions evseId).submitEvent event).isAuthorized =
        (h.conditions evseId).isAuthorized := by
    rcases energy with rfl | rfl <;>
      exact ⟨session.connected, session.unreset, rfl⟩
  obtain ⟨connected, unreset, authorized⟩ := unmoved
  have effect := modified.submit_effect event (by rw [conditions]; exact connected)
    (by rw [conditions]; exact unreset)
  have recorded := modified.record event (by rw [conditions]; exact connected)
    (by rw [conditions]; exact unreset)
  rw [conditions, authorized, data, Option.isSome_map] at effect
  by_cases stops : h.transactionData.isSome ∧ (h.conditions evseId).isAuthorized = false
  · rw [if_pos stops] at effect
    obtain ⟨present, refused⟩ := stops
    obtain ⟨found, present⟩ := Option.isSome_iff_exists.mp present
    have here : ((h.modifyTransactionData change).recordEvent evseId event).transactionData =
        some (change found) := by
      have same : ((h.modifyTransactionData change).recordEvent evseId event).transactionData =
          (h.modifyTransactionData change).transactionData := rfl
      rw [same, data, present]; rfl
    obtain ⟨dropped, session'⟩ := recorded.stop here
    refine ⟨_, _, _, _, effect, processTxEventEffect_stop (by rw [recorded.slot, here]), session',
      ?_, by simp [dropped, refused]⟩
    simp [conditions, authorized]
  · rw [if_neg stops] at effect
    refine ⟨_, _, c, _, effect, by simp [processTxEventEffect], recorded, ?_, ?_⟩
    · simp [conditions, authorized]
    · have same : ((h.modifyTransactionData change).recordEvent evseId event).transactionData =
          (h.modifyTransactionData change).transactionData := rfl
      rw [same, data, Option.isSome_map]
      cases present : h.transactionData.isSome <;> simp_all

/-- Reporting that charging started never fails in a session. -/
theorem processChargingStarted (session : InSession c h) (remoteStart : Bool) :
    ∃ c' h', processChargingStarted remoteStart c h = .ok (c', h') ∧ InSession c' h' ∧
      (h'.conditions evseId).isAuthorized = (h.conditions evseId).isAuthorized ∧
      h'.transactionData.isSome =
        (h.transactionData.isSome && (h.conditions evseId).isAuthorized) := by
  -- The first lookup cannot fail, and after that it is a report like the others.
  obtain ⟨h₂, effect, c', h', submitted, processed, session', authorized, data⟩ :=
    session.report .energyTransferStarted (fun data => { data with
      chargingState := .charging
      triggerReason := if remoteStart then .remoteStart else .chargingStateChanged })
      (fun _ => rfl) (.inl rfl)
  refine ⟨c'.onChargingStateChanged .charging, h', ?_, ?_, authorized, data⟩
  · simp [Ocpp.processChargingStarted, session.getTransactionData, submitted, processed, bind,
      Except.bind, pure, Except.pure]
  · exact { session' with kept := kept_onChargingStateChanged session'.kept }

/-- Reporting that charging ended fails in a session exactly when the data is gone already. -/
theorem processChargingEnded (session : InSession c h) (remoteStop : Bool) :
    if h.transactionData.isSome then
      ∃ c' h', processChargingEnded remoteStop c h = .ok (c', h') ∧ InSession c' h' ∧
        (h'.conditions evseId).isAuthorized = (h.conditions evseId).isAuthorized ∧
        h'.transactionData.isSome =
          (h.transactionData.isSome && (h.conditions evseId).isAuthorized)
    else processChargingEnded remoteStop c h = .error .nullTransactionData := by
  -- The pointer is followed once more at the end, after the effect may have dropped the data.
  obtain ⟨h₂, effect, c', h', submitted, processed, session', authorized, data⟩ :=
    session.report .energyTransferStopped (fun data => { data with
      triggerReason := if remoteStop then .remoteStop else .stopAuthorized
      chargingState := .evConnected })
      (fun _ => rfl) (.inr rfl)
  cases present : h.transactionData with
  | none =>
    simp [Ocpp.processChargingEnded, session.getTransactionData, present, submitted, processed,
      bind, Except.bind, throw, throwThe, MonadExceptOf.throw]
  | some found =>
    rw [if_pos (show (some found).isSome = true from rfl)]
    rw [present] at data
    refine ⟨c'.onChargingStateChanged .evConnected, h', ?_, ?_, authorized, data⟩
    · simp [Ocpp.processChargingEnded, session.getTransactionData, present, submitted, processed,
        bind, Except.bind, pure, Except.pure]
    · exact { session' with kept := kept_onChargingStateChanged session'.kept }

/-- The end of a session finishes a transaction that is still open. -/
theorem disconnect (session : InSession c h) :
    ∃ h₁ h₂ effect₁ effect₂ c' h',
      h.submitEvent evseId .deauthorized = (h₁, .ok effect₁) ∧
      h₁.submitEvent evseId .evDisconnected = (h₂, .ok effect₂) ∧
      processTxEventEffect effect₂ c h₂ = .ok (c', h') ∧
      Kept Starts Finishes c'.calls false := by
  -- The first event takes the authorization, and the second has the effect that is carried out.
  have refused : InSession c (h.recordEvent evseId .deauthorized) :=
    session.record .deauthorized session.connected session.unreset
  have first := session.submit_effect .deauthorized session.connected session.unreset
  cases present : (h.recordEvent evseId .deauthorized).transactionData with
  | none =>
    have slot : (h.recordEvent evseId .deauthorized).evseIdTransactionDataMap.lookup evseId =
        some none := by
      rw [refused.slot, present]
    refine ⟨_, _, _, _, c, _, first, TransactionHandler.submitEvent_null _ slot,
      by simp [processTxEventEffect]; rfl, ?_⟩
    simpa [present] using refused.kept
  | some data =>
    have slot : (h.recordEvent evseId .deauthorized).evseIdTransactionDataMap.lookup evseId =
        some (some data) := by
      rw [refused.slot, present]
    have second := TransactionHandler.submitEvent_started .evDisconnected slot
      (refused.started data present)
    -- The vehicle is neither authorized nor connected any more, so the transaction stops.
    rw [if_pos] at second
    · refine ⟨_, _, _, _, _, _, first, second, processTxEventEffect_stop slot, ?_⟩
      exact kept_onTransactionFinished (by simpa [present] using refused.kept)
    · refine ⟨.powerPathClosed, by simp [session.stopPoints, Ocpp.stopPoints], ?_⟩
      simp [TxStartStopConditions.isStopConditionFullfilled, TxStartStopConditions.submitEvent]

end InSession

/--
The result of handling an event, when it follows the outline.

A fault can only be the null pointer, and comes exactly where the outline has it.
-/
def Follows (s : Session) (event : OcppEvent) : Except Fault Session → Prop
  | .ok t => t.Sound ∧ t.outline = s.outline.handle event ∧ ¬ s.outline.Faults event
  | .error fault => fault = .nullTransactionData ∧ s.outline.Faults event

/-- What the handler of a new session starts from. -/
theorem newHandler : ∃ h, TransactionHandler.new 1 startPoints stopPoints = .ok h ∧
    h.txStartPoints = startPoints ∧ h.txStopPoints = stopPoints ∧
    h.conditions evseId = {} ∧ h.txStartStopConditions.keys.card = 1 := by
  refine ⟨_, rfl, rfl, rfl, ?_, ?_⟩ <;> decide

namespace Session

variable (i : HandlerInputs) {s : Session}

/-- Plugged in and with a handler in its session, the flags agree. -/
theorem Sound.of_inSession {h : TransactionHandler} (running : s.transactionHandler = some h)
    (plugged : s.evPluggedIn = true) (session : InSession s.chargePoint h) : s.Sound where
  plugged := by simp [plugged, running]
  charging _ := plugged
  idle none := by simp [running] at none
  inSession := by
  -- All four facts are about the handler that is there.
    intro h' member
    rw [running] at member
    obtain rfl := Option.some.inj member
    exact session

/-- A connection that finds no session starts one, with a transaction under the new identifier. -/
theorem handleEvConnected_new (sound : s.Sound) (idle : s.transactionHandler = none) :
    ∃ h, s.handleEvConnected i = .ok { s with
        transactionHandler := some h
        chargePoint := (s.chargePoint.onTransactionStarted connectorId i.uuid .cablePluggedIn
          .evConnected).record .onSessionStarted
        evPluggedIn := true } ∧
      InSession ((s.chargePoint.onTransactionStarted connectorId i.uuid .cablePluggedIn
        .evConnected).record .onSessionStarted) h ∧
      (h.conditions evseId).isAuthorized = false ∧ h.transactionData.isSome = true := by
  -- A new handler, new data, and the event that starts it.
  obtain ⟨h, created, starts, stops, conditions, size⟩ := newHandler
  obtain ⟨data, named⟩ : ∃ data, data = newTransactionData i.uuid := ⟨_, rfl⟩
  have added : h.addTransactionData evseId (some data) = .ok (h.setData evseId (some data)) := by
    simp [TransactionHandler.addTransactionData, evseId, size]
  -- The new data is not started, so the connection starts it.
  have slot : (h.setData evseId (some data)).evseIdTransactionDataMap.lookup evseId =
      some (some data) := by simp
  have submitted := TransactionHandler.submitEvent_idle .evConnected slot (by rw [named]; rfl)
  rw [if_pos ⟨.evConnected, by simp [starts, startPoints], rfl⟩] at submitted
  obtain ⟨h₁, recorded⟩ : ∃ h₁, h₁ = (h.setData evseId (some data)).recordEvent evseId
      .evConnected := ⟨_, rfl⟩
  rw [← recorded] at submitted
  have processed : processTxEventEffect .startTransaction s.chargePoint h₁ =
      .ok (s.chargePoint.onTransactionStarted connectorId i.uuid .cablePluggedIn .evConnected,
        h₁.setData evseId (some { data with started := true })) := by
    rw [processTxEventEffect_start (by rw [recorded]; exact slot), named]
    rfl
  have present : (h₁.setData evseId (some { data with started := true })).transactionData =
      some { data with started := true } := by
    simp [TransactionHandler.transactionData]
  refine ⟨h₁.setData evseId (some { data with started := true }), ?_, ?_, ?_, by simp [present]⟩
  · simp only [handleEvConnected, idle, created, ← named, added, submitted, processed, bind,
      Except.bind, pure, Except.pure]
  · refine ⟨by simp [recorded, starts], by simp [recorded, stops], ?_, ?_, by simp [present],
      by simp [present], ?_⟩
    · simp [recorded, TxStartStopConditions.submitEvent]
    · simp [recorded, TxStartStopConditions.submitEvent, conditions]
    · rw [present]
      exact (kept_onTransactionStarted (sound.idle idle)).other (by simp [Starts])
        (by simp [Finishes])
  · simp [recorded, TxStartStopConditions.submitEvent, conditions]

/-- A connection starts a session with an open transaction, unless one is running. -/
theorem handleEvConnected_follows (sound : s.Sound) :
    Follows s .evConnected (s.handleEvConnected i) := by
  -- A running session ignores the event, and its outline does.
  cases running : s.transactionHandler with
  | some h =>
    simp only [handleEvConnected, running, Follows]
    exact ⟨sound, by simp [Outline.handle, outline, running], id⟩
  | none =>
    obtain ⟨h, handled, session, unauthorized, present⟩ := handleEvConnected_new i sound running
    rw [handled]
    refine ⟨.of_inSession rfl rfl session, ?_, id⟩
    simp [Outline.handle, outline, running, unauthorized, present]

/-- An answer moves the authorization of a running session. -/
theorem handleEvAuthorized_follows (sound : s.Sound) :
    Follows s .evAuthorized s.handleEvAuthorized := by
  cases running : s.transactionHandler with
  | none =>
    simp only [handleEvAuthorized, running, Follows]
    exact ⟨sound, by simp [Outline.handle, outline, running], id⟩
  | some h =>
    have session := sound.inSession h running
    have plugged : s.evPluggedIn = true := by simp [sound.plugged, running]
    -- Either answer leaves the vehicle connected.
    have unmoved : ∀ event, event = TxEvent.authorized ∨ event = .deauthorized →
        ((h.conditions evseId).submitEvent event).isEvConnected = true ∧
          ((h.conditions evseId).submitEvent event).isImmediateReset = false := by
      intro event answer
      rcases answer with rfl | rfl <;> exact ⟨session.connected, session.unreset⟩
    cases accepted : s.isEvAuthorized with
    | false =>
      obtain ⟨connected, unreset⟩ := unmoved .deauthorized (.inr rfl)
      have recorded := session.record .deauthorized connected unreset
      simp only [handleEvAuthorized, running, accepted, Bool.false_eq_true, if_false,
        session.submit_effect .deauthorized connected unreset, bind, Except.bind, pure, Except.pure,
        Follows]
      refine ⟨.of_inSession rfl plugged recorded, ?_, id⟩
      simp only [Outline.handle, outline, running]
      simp [TxStartStopConditions.submitEvent, accepted, TransactionHandler.transactionData]
    | true =>
      obtain ⟨connected, unreset⟩ := unmoved .authorized (.inl rfl)
      have recorded := session.record .authorized connected unreset
      simp only [handleEvAuthorized, running, accepted, if_true,
        session.submit_effect .authorized connected unreset, bind, Except.bind, pure, Except.pure,
        Follows]
      refine ⟨.of_inSession rfl plugged recorded, ?_, id⟩
      simp only [Outline.handle, outline, running]
      simp [TxStartStopConditions.submitEvent, accepted, TransactionHandler.transactionData]

/-- A report that charging started is one that the outline knows. -/
theorem handleChargingStarted_follows (sound : s.Sound) :
    Follows s .chargingStarted s.handleChargingStarted := by
  -- Without a session there is only a warning, and with one it is a report.
  cases running : s.transactionHandler with
  | none =>
    have plugged : s.evPluggedIn = false := by simp [sound.plugged, running]
    simp only [handleChargingStarted, running, plugged, Follows]
    exact ⟨sound, by simp [Outline.handle, outline, running], id⟩
  | some h =>
    have plugged : s.evPluggedIn = true := by simp [sound.plugged, running]
    obtain ⟨c', h', done, session, authorized, data⟩ :=
      (sound.inSession h running).processChargingStarted false
    simp only [handleChargingStarted, running, plugged, done, bind, Except.bind, pure, Except.pure,
      Follows]
    refine ⟨.of_inSession rfl rfl session, ?_, id⟩
    simp [Outline.handle, Outline.report, outline, running, authorized, data]

/-- A start from remote is reported in the same way, and does not count as charging. -/
theorem handleChargingStartRemote_follows (sound : s.Sound) :
    Follows s .chargingStartRemote s.handleChargingStartRemote := by
  -- The handler decides here, and the flag of the vehicle is not looked at.
  cases running : s.transactionHandler with
  | none =>
    simp only [handleChargingStartRemote, running, Follows]
    exact ⟨sound, by simp [Outline.handle, outline, running], id⟩
  | some h =>
    have plugged : s.evPluggedIn = true := by simp [sound.plugged, running]
    obtain ⟨c', h', done, session, authorized, data⟩ :=
      (sound.inSession h running).processChargingStarted true
    simp only [handleChargingStartRemote, running, done, bind, Except.bind, pure, Except.pure,
      Follows]
    refine ⟨.of_inSession rfl plugged session, ?_, id⟩
    simp [Outline.handle, Outline.report, outline, running, authorized, data]

/-- A report that charging stopped follows a null pointer where the outline says so. -/
theorem handleChargingStopped_follows (sound : s.Sound) :
    Follows s .chargingStopped s.handleChargingStopped := by
  -- The three conditions of the handler are looked at one after the other.
  cases running : s.transactionHandler with
  | none =>
    have plugged : s.evPluggedIn = false := by simp [sound.plugged, running]
    simp only [handleChargingStopped, running, plugged, Follows]
    exact ⟨sound, by simp [Outline.handle, outline, running],
      by simp [Outline.Faults, outline, running]⟩
  | some h =>
    have plugged : s.evPluggedIn = true := by simp [sound.plugged, running]
    cases started : s.sessionStarted with
    | false =>
      simp only [handleChargingStopped, running, plugged, started, Follows]
      exact ⟨sound, by simp [Outline.handle, outline, started],
        by simp [Outline.Faults, outline, started]⟩
    | true =>
      have ended := (sound.inSession h running).processChargingEnded false
      simp only [handleChargingStopped, running, plugged, started]
      split at ended
      · rename_i present
        obtain ⟨c', h', done, session, authorized, data⟩ := ended
        simp only [done, bind, Except.bind, pure, Except.pure, Follows]
        refine ⟨.of_inSession rfl rfl session, ?_, ?_⟩
        · simp [Outline.handle, Outline.report, outline, running, started, authorized, data]
        · simp [Outline.Faults, outline, running, present]
      · rename_i gone
        simp only [ended, bind, Except.bind, Follows]
        exact ⟨trivial, by simpa [Outline.Faults, outline, running, started] using gone⟩

/-- A stop from remote follows a null pointer where the outline says so. -/
theorem handleChargingStopRemote_follows (sound : s.Sound) :
    Follows s .chargingStopRemote s.handleChargingStopRemote := by
  -- No flag protects this report, only the handler.
  cases running : s.transactionHandler with
  | none =>
    simp only [handleChargingStopRemote, running, Follows]
    exact ⟨sound, by simp [Outline.handle, outline, running],
      by simp [Outline.Faults, outline, running]⟩
  | some h =>
    have plugged : s.evPluggedIn = true := by simp [sound.plugged, running]
    have ended := (sound.inSession h running).processChargingEnded true
    simp only [handleChargingStopRemote, running]
    split at ended
    · rename_i present
      obtain ⟨c', h', done, session, authorized, data⟩ := ended
      simp only [done, bind, Except.bind, pure, Except.pure, Follows]
      refine ⟨.of_inSession rfl plugged session, ?_, ?_⟩
      · simp [Outline.handle, Outline.report, outline, running, authorized, data]
      · simp [Outline.Faults, outline, running, present]
    · rename_i gone
      simp only [ended, bind, Except.bind, Follows]
      exact ⟨trivial, by simpa [Outline.Faults, outline, running] using gone⟩

/-- The end of a session clears every flag. -/
theorem handleEvDisconnected_follows (sound : s.Sound) :
    Follows s .evDisconnected s.handleEvDisconnected := by
  -- A session that ends leaves nothing that the next one could start from.
  cases running : s.transactionHandler with
  | none =>
    simp only [handleEvDisconnected, running, Follows]
    refine ⟨⟨by simp [resetSessionState, running], by simp [resetSessionState],
      fun _ => sound.idle running, by simp [resetSessionState, running]⟩, ?_, id⟩
    simp [Outline.handle, outline, resetSessionState, running]
  | some h =>
    have plugged : s.evPluggedIn = true := by simp [sound.plugged, running]
    have session := sound.inSession h running
    obtain ⟨modified, -, -⟩ := session.modify (fun data => { data with
      chargingState := .idle, stopReason := .evDisconnected
      triggerReason := .evCommunicationLost }) fun _ => rfl
    obtain ⟨h₁, h₂, effect₁, effect₂, c', h', refused, disconnected, processed, kept⟩ :=
      modified.disconnect
    simp only [handleEvDisconnected, running, plugged, session.getTransactionData, refused,
      disconnected, processed, bind, Except.bind, pure, Except.pure, Follows]
    refine ⟨⟨rfl, by simp [resetSessionState], fun _ => ?_, by simp [resetSessionState]⟩, ?_, id⟩
    · exact kept.other (by simp [Starts]) (by simp [Finishes])
    · simp [Outline.handle, outline, resetSessionState]

/-- Asking for an authorization changes nothing the outline knows. -/
theorem handleEvAuthNeeded_follows (sound : s.Sound) :
    Follows s .evAuthNeeded (.ok (s.handleEvAuthNeeded i)) := by
  -- Sending a token is a call that neither starts nor finishes a transaction.
  unfold handleEvAuthNeeded
  split
  · refine ⟨⟨sound.plugged, sound.charging, fun none => kept_onAuthorized (sound.idle none), ?_⟩,
      rfl, id⟩
    intro h running
    have session := sound.inSession h running
    exact { session with kept := kept_onAuthorized session.kept }
  · exact ⟨sound, rfl, id⟩

/-- Calls that neither start nor finish a transaction leave a session sound. -/
theorem Sound.record (sound : s.Sound) (call : ChargePointCall) (never : ¬ call.Starts)
    (neither : ¬ call.Finishes) : { s with chargePoint := s.chargePoint.record call }.Sound where
  plugged := sound.plugged
  charging := sound.charging
  idle none := (sound.idle none).other never neither
  inSession := by
  -- The call is added to the log, and the flag for an open transaction stays.
    intro h running
    have session := sound.inSession h running
    exact { session with kept := session.kept.other never neither }

/-- Whatever the event, the session follows its outline. -/
theorem handle_follows (sound : s.Sound) (event : OcppEvent) :
    Follows s event (s.handle i event) := by
  -- One case for each event, in the terms of its own handler.
  cases event with
  | evConnected => exact handleEvConnected_follows i sound
  | evAuthNeeded => exact handleEvAuthNeeded_follows i sound
  | evAuthorized => exact handleEvAuthorized_follows sound
  | chargingStarted => exact handleChargingStarted_follows sound
  | chargingStartRemote => exact handleChargingStartRemote_follows sound
  | chargingStopped => exact handleChargingStopped_follows sound
  | chargingStopRemote => exact handleChargingStopRemote_follows sound
  | evDisconnected => exact handleEvDisconnected_follows sound
  | telemetryReady =>
    simp only [handle, handleTelemetryReady]
    split
    · exact ⟨sound.record .onMeterValue (by simp [Starts]) (by simp [Finishes]), rfl, id⟩
    · exact ⟨sound, rfl, id⟩
  | networkDown =>
    simp only [handle, handleNetworkDown]
    split
    · exact ⟨sound, rfl, id⟩
    · have recorded := sound.record .onNetworkDisconnected (by simp [Starts])
        (by simp [Finishes])
      exact ⟨⟨recorded.plugged, recorded.charging, recorded.idle, recorded.inSession⟩, rfl, id⟩
  | reconnect => exact ⟨sound, rfl, id⟩

end Session

end EasyEvse.Ocpp
