import EasyEvse.Connectivity.Reconnection
import EasyEvse.Ocpp.TaskLaws

/-! What the steps of the session task have to do with the connection. -/

namespace EasyEvse.Connectivity

open Ocpp Transition

variable {c c' : ChargePoint} {h h' : TransactionHandler} {t u : OcppTask} {op : TaskOp}

/-- The calls that were added neither connect nor stop the station. -/
def Reports (c c' : ChargePoint) : Prop :=
  ∃ added, c'.calls = c.calls ++ added ∧ ∀ call ∈ added, call ≠ .connectWebsocket ∧ call ≠ .stop

theorem Reports.refl (c : ChargePoint) : Reports c c := ⟨[], by simp, by simp⟩

theorem Reports.trans {d : ChargePoint} (first : Reports c c') (second : Reports c' d) :
    Reports c d := by
  obtain ⟨added, calls, allowed⟩ := first
  obtain ⟨more, calls', allowed'⟩ := second
  -- The calls of the second are behind those of the first.
  refine ⟨added ++ more, by simp [calls, calls'], fun call member => ?_⟩
  rcases List.mem_append.mp member with member | member
  · exact allowed call member
  · exact allowed' call member

/-- One call more that is not about the connection of the station. -/
theorem Reports.of_call {call : ChargePointCall} (calls : c'.calls = c.calls ++ [call])
    (other : call ≠ .connectWebsocket ∧ call ≠ .stop) : Reports c c' :=
  ⟨[call], calls, by simpa using other⟩

theorem reports_onTransactionFinished (c : ChargePoint) (reason : Reason)
    (triggerReason : TriggerReason) (chargingState : ChargingState) :
    Reports c (c.onTransactionFinished reason triggerReason chargingState) := by
  -- The call is recorded even when the stack has no transaction.
  have calls : (c.onTransactionFinished reason triggerReason chargingState).calls =
      c.calls ++ [.onTransactionFinished reason triggerReason chargingState] := by
    unfold ChargePoint.onTransactionFinished
    dsimp only
    split <;> rfl
  exact .of_call calls (by simp)

theorem reports_processTxEventEffect {effect : TxEventEffect}
    (done : processTxEventEffect effect c h = .ok (c', h')) : Reports c c' := by
  -- An effect ends in one of the two calls, or in the error that excludes this result.
  unfold processTxEventEffect at done
  split at done
  · cases done
    exact .refl c
  · obtain ⟨data, -, done⟩ := returns_of_bind done
    cases data with
    | none => simp [throw, throwThe, MonadExceptOf.throw] at done
    | some data =>
      simp only at done
      split at done
      · cases done
        exact .of_call rfl (by simp)
      · obtain ⟨h₁, -, done⟩ := returns_of_bind done
        cases done
        exact reports_onTransactionFinished ..

theorem reports_processChargingStarted {remoteStart : Bool}
    (done : processChargingStarted remoteStart c h = .ok (c', h')) : Reports c c' := by
  -- The charging state is reported after the effect.
  obtain ⟨-, -, done⟩ := returns_of_bind done
  obtain ⟨effect, -, done⟩ := returns_of_bind done
  obtain ⟨⟨c₁, h₁⟩, processed, done⟩ := returns_of_bind done
  cases done
  exact (reports_processTxEventEffect processed).trans
    (.of_call (onChargingStateChanged_calls ..) (by simp))

theorem reports_processChargingEnded {remoteStop : Bool}
    (done : processChargingEnded remoteStop c h = .ok (c', h')) : Reports c c' := by
  -- The effect comes first here too, and without transaction data there is no result.
  obtain ⟨data, -, done⟩ := returns_of_bind done
  obtain ⟨effect, -, done⟩ := returns_of_bind done
  obtain ⟨⟨c₁, h₁⟩, processed, done⟩ := returns_of_bind done
  have first := reports_processTxEventEffect processed
  cases data with
  | none => simp [throw, throwThe, MonadExceptOf.throw] at done
  | some data =>
    cases done
    exact first.trans (.of_call (onChargingStateChanged_calls ..) (by simp))

/-- No event of a batch makes the session task connect or stop the station. -/
theorem handle_reports {i : HandlerInputs} {event : OcppEvent} {s s' : Session}
    (handled : s.handle i event = .ok s') : Reports s.chargePoint s'.chargePoint := by
  -- One case for each event that the session can handle.
  cases handle_handles handled with
  | ignores _ _ => exact .refl _
  | connects gone processed =>
    exact (reports_processTxEventEffect processed).trans (.of_call rfl (by simp))
  | asks => exact .of_call (onAuthorized_calls _) (by simp)
  | judges h₁ => exact .refl _
  | starts plugged processed => exact reports_processChargingStarted processed
  | startsRemote there processed => exact reports_processChargingStarted processed
  | measures => exact .of_call rfl (by simp)
  | stops plugged started processed => exact reports_processChargingEnded processed
  | stopsRemote there processed => exact reports_processChargingEnded processed
  | disconnects plugged processed =>
    exact (reports_processTxEventEffect processed).trans (.of_call rfl (by simp))
  | forgets gone => exact .refl _
  | takesDown => exact .of_call rfl (by simp)

/-- What a step of the session task does as far as the connection is concerned. -/
inductive TaskTurns (t u : OcppTask) : TaskOp → Prop
  /-- The task connects again. -/
  | connects (runs : t.stopped = false) (asked : .reconnect ∈ t.eventBits)
      (offline : t.connectionState ≠ .connected)
      (left : t.reconnectionAttempts < evseOcppMaxReconnects)
      (fetched : u.eventBits = ∅) (same : u.connectionState = t.connectionState)
      (counted : u.reconnectionAttempts = t.reconnectionAttempts + 1) (goesOn : u.stopped = false)
      (calls : u.session.chargePoint.calls = t.session.chargePoint.calls ++ [.connectWebsocket]) :
      TaskTurns t u .wait
  /-- The task has connected too often, and stops. -/
  | stops (runs : t.stopped = false) (asked : .reconnect ∈ t.eventBits)
      (offline : t.connectionState ≠ .connected)
      (spent : t.reconnectionAttempts = evseOcppMaxReconnects)
      (fetched : u.eventBits = ∅) (same : u.connectionState = t.connectionState)
      (counted : u.reconnectionAttempts = t.reconnectionAttempts) (ends : u.stopped = true)
      (calls : u.session.chargePoint.calls = t.session.chargePoint.calls ++ [.stop]) :
      TaskTurns t u .wait
  /-- The task fetches its events, and a reconnection is not among them or does not count. -/
  | fetches (runs : t.stopped = false)
      (unasked : .reconnect ∈ t.eventBits → t.connectionState = .connected ∨
        evseOcppMaxReconnects < t.reconnectionAttempts)
      (fetched : u.eventBits = ∅) (same : u.connectionState = t.connectionState)
      (counted : u.reconnectionAttempts = t.reconnectionAttempts) (goesOn : u.stopped = false)
      (calls : u.session.chargePoint.calls = t.session.chargePoint.calls) : TaskTurns t u .wait
  /-- Any other step. Only an event that is handled makes calls. -/
  | reports {op : TaskOp} (other : op ≠ .wait)
      (asked : .reconnect ∈ u.eventBits ↔ .reconnect ∈ t.eventBits)
      (same : u.connectionState = t.connectionState)
      (counted : u.reconnectionAttempts = t.reconnectionAttempts) (goesOn : u.stopped = t.stopped)
      (calls : Reports t.session.chargePoint u.session.chargePoint)
      (silent : (∀ i, op ≠ .handle i) →
        u.session.chargePoint.calls = t.session.chargePoint.calls) : TaskTurns t u op

/-- Waiting for events is one of the first three turns. -/
theorem waitEvents_turns (runs : t.stopped = false) : TaskTurns t t.waitEvents .wait := by
  unfold OcppTask.waitEvents
  dsimp only
  -- Without a connection the attempts decide, in the order of the source.
  split_ifs with online asked spent
  · exact .fetches runs (fun _ => .inl online) rfl rfl rfl runs rfl
  · exact .stops runs asked.1 online spent rfl rfl rfl rfl rfl
  · have left : t.reconnectionAttempts < evseOcppMaxReconnects :=
      UInt8.lt_of_le_of_ne asked.2 spent
    exact .connects runs asked.1 online left rfl rfl rfl runs rfl
  · refine .fetches runs (fun member => .inr ?_) rfl rfl rfl runs rfl
    exact UInt8.not_le.mp fun within => asked ⟨member, within⟩

/-- An event that is not a reconnection leaves that bit as it is. -/
theorem setEvent_reconnect {event : OcppEvent} (other : event ≠ .reconnect) :
    .reconnect ∈ (t.setEvent event).eventBits ↔ .reconnect ∈ t.eventBits := by
  simp [OcppTask.setEvent, Ne.symm other]

/-- A step without calls is a turn that reports nothing. -/
theorem TaskTurns.quiet (other : op ≠ .wait)
    (asked : .reconnect ∈ u.eventBits ↔ .reconnect ∈ t.eventBits)
    (same : u.connectionState = t.connectionState)
    (counted : u.reconnectionAttempts = t.reconnectionAttempts) (goesOn : u.stopped = t.stopped)
    (calls : u.session.chargePoint.calls = t.session.chargePoint.calls) : TaskTurns t u op :=
  .reports other asked same counted goesOn ⟨[], by simpa using calls, by simp⟩ fun _ => calls

/-- An answer is about the session alone. -/
theorem response_turns {idTokenInfo : Option AuthorizationStatus} (other : op ≠ .wait)
    (calls : u.session = (t.transactionEventResponseCb idTokenInfo).session)
    (bits : u.eventBits = (t.transactionEventResponseCb idTokenInfo).eventBits)
    (same : u.connectionState = (t.transactionEventResponseCb idTokenInfo).connectionState)
    (counted : u.reconnectionAttempts =
      (t.transactionEventResponseCb idTokenInfo).reconnectionAttempts)
    (goesOn : u.stopped = (t.transactionEventResponseCb idTokenInfo).stopped) :
    TaskTurns t u op := by
  -- Only an answer about the token sets an event.
  cases idTokenInfo with
  | none => exact .quiet other (by rw [bits]; rfl) same counted goesOn (by rw [calls]; rfl)
  | some status =>
    refine .quiet other ?_ same counted goesOn (by rw [calls]; rfl)
    rw [bits]
    exact setEvent_reconnect (by simp)

/-- Every step that does not ask for a reconnection or tell of a connection is one of these. -/
theorem taskStep_turns (moved : Ocpp.taskStep t op = some u) (unasked : op ≠ .setEvent .reconnect)
    (untold : ∀ isConnected, op ≠ .connectionStateChanged isConnected) : TaskTurns t u op := by
  -- One case for each operation of the task.
  cases op with
  | setEvent event =>
    obtain rfl := Option.some.inj moved
    exact .quiet (by simp) (setEvent_reconnect (by simpa using unasked)) rfl rfl rfl rfl
  | wait =>
    -- A task that has stopped, or has events left, does not wait.
    simp only [Ocpp.taskStep] at moved
    split_ifs at moved with free
    obtain rfl := Option.some.inj moved
    exact waitEvents_turns free.2
  | handle inputs =>
    simp only [Ocpp.taskStep] at moved
    split at moved
    · cases moved
    -- The event is the first one of the batch.
    · rename_i event batch fetched
      obtain ⟨session, handled, rfl⟩ := Option.map_eq_some_iff.mp moved
      have result : t.session.handle inputs event = .ok session := by
        cases outcome : t.session.handle inputs event <;>
          simp_all [Except.toOption]
      exact .reports (by simp) .rfl rfl rfl rfl (handle_reports result)
        fun none => absurd rfl (none inputs)
  | response request idTokenInfo =>
    simp only [Ocpp.taskStep] at moved
    split_ifs at moved
    obtain ⟨sent, -, rfl⟩ := Option.map_eq_some_iff.mp moved
    rw [handleTransactionEventResponse_eq]
    exact response_turns (by simp) rfl rfl rfl rfl rfl
  | meterValue context =>
    obtain rfl := Option.some.inj moved
    have same := (grows_transactionMeterValueCallback t.session.chargePoint context).2
    exact .quiet (by simp) .rfl rfl rfl rfl same
  | getAuthResponse timeoutMs unixTime =>
    obtain rfl := Option.some.inj moved
    unfold OcppTask.getAuthResponse
    dsimp only
    split_ifs <;> exact .quiet (by simp) .rfl rfl rfl rfl rfl
  | stopTransaction evse stopReason =>
    obtain rfl := Option.some.inj moved
    -- Only a remote stop sets an event.
    unfold OcppTask.stopTransactionCb
    split_ifs
    · exact .quiet (by simp) .rfl rfl rfl rfl rfl
    · exact .quiet (by simp) (setEvent_reconnect (by simp)) rfl rfl rfl rfl
    · exact .quiet (by simp) .rfl rfl rfl rfl rfl
  | remoteStartTransaction evse authorizeRemoteStart =>
    obtain rfl := Option.some.inj moved
    -- Only a start that is accepted sets an event.
    unfold OcppTask.remoteStartTransactionCb
    split_ifs
    · exact .quiet (by simp) .rfl rfl rfl rfl rfl
    · exact .quiet (by simp) .rfl rfl rfl rfl rfl
    · exact .quiet (by simp) .rfl rfl rfl rfl rfl
    · exact .quiet (by simp) (setEvent_reconnect (by simp)) rfl rfl rfl rfl
  | connectionStateChanged isConnected => exact absurd rfl (untold isConnected)

end EasyEvse.Connectivity
