import EasyEvse.Delivery.Limits

/-! When nothing is sent: during a pause, and forever if what waits for the registration fills the
queue, as a boot notification is then dropped at once. -/

namespace EasyEvse.Delivery

open Clock Csms Transition

/-- The call that was sent, if one was. -/
def Event.sent? : Event → Option Call
  | .sent call => some call
  | .dropped _ | .settled _ => none

namespace MessageQueue

variable {q r : MessageQueue} {message : QueuedMessage} {op : Op} {ops : List Op}

/-- All calls that were sent so far. -/
def sent (q : MessageQueue) : List Call := q.events.filterMap Event.sent?

/-- Telling of dropped messages tells of none that was sent. -/
theorem KeepsRest.sent (keeps : KeepsRest q r) : r.sent = q.sent := by
  obtain ⟨dropped, told⟩ := keeps.events
  have none : (dropped.map fun m => Event.dropped m.call).filterMap Event.sent? = [] := by
    rw [List.filterMap_map]
    exact List.filterMap_eq_nil_iff.mpr fun message _ => rfl
  rw [MessageQueue.sent, told, List.filterMap_append, none, List.append_nil, MessageQueue.sent]

/-- Messages that wait for the registration fill the queue, and nothing else waits. -/
structure Starved (q : MessageQueue) : Prop where
  refused : q.isRegistrationStatusAccepted = false
  idle : q.inFlight = none
  normal : q.normalMessageQueue = []
  full : q.config.queuesTotalSizeThreshold ≤ (q.transactionMessageQueue.filter spared).length
  front : ∃ message rest, q.transactionMessageQueue = message :: rest ∧
    message.stallUntilAccepted = true ∧ spared message = true

/-- A spared message stays in front when others are dropped. -/
theorem front_of_sublist {fewer rest : List QueuedMessage}
    (sublist : fewer.Sublist (message :: rest)) (kept : spared message = true)
    (same : fewer.filter spared = (message :: rest).filter spared) :
    ∃ later, fewer = message :: later := by
  cases sublist with
  | cons _ dropped =>
    -- Without the front there would be one message less that is spared.
    have less := (dropped.filter spared).length_le
    rw [same, List.filter_cons_of_pos kept, List.length_cons] at less
    omega
  | cons_cons _ inner => exact ⟨_, rfl⟩

/-- There is no room for anything that need not be kept. -/
theorem Starved.checked (checked : Checked q r) (refused : q.isRegistrationStatusAccepted = false)
    (idle : q.inFlight = none)
    (full : q.config.queuesTotalSizeThreshold ≤ (q.transactionMessageQueue.filter spared).length)
    (front : ∃ message rest, q.transactionMessageQueue = message :: rest ∧
      message.stallUntilAccepted = true ∧ spared message = true) : Starved r := by
  have still : r.config.queuesTotalSizeThreshold ≤
      (r.transactionMessageQueue.filter spared).length := by
    rw [checked.rest.config, checked.same]
    exact full
  -- Either there is room, which the spared messages take up, or nothing else is left.
  refine ⟨checked.rest.accepted.trans refused, checked.rest.inFlight.trans idle, ?_, still, ?_⟩
  · rcases checked.enough with room | ⟨empty, _⟩
    · have some := (List.filter_sublist (p := spared) (l := r.transactionMessageQueue)).length_le
      unfold size at room
      exact List.length_eq_zero_iff.mp (by omega)
    · exact empty
  -- The front is among the spared messages, which stay in their order.
  · obtain ⟨message, rest, same, stalls, kept⟩ := front
    obtain ⟨later, first⟩ := front_of_sublist (same ▸ checked.sublist) kept (same ▸ checked.same)
    exact ⟨message, later, first, stalls, kept⟩

/-- No call makes room for itself, not even a boot notification. -/
theorem Starved.pushCall (starved : q.Starved) :
    (q.pushCall message).Starved ∧ (q.pushCall message).sent = q.sent := by
  unfold MessageQueue.pushCall
  split
  · have checked := checkQueueSizes_checked { q with
      transactionMessageQueue := q.transactionMessageQueue ++ [message], newMessage := true }
    refine ⟨.checked checked starved.refused starved.idle ?_ ?_, checked.rest.sent⟩
    -- One message more makes no room.
    · rw [List.filter_append, List.length_append]
      exact starved.full.trans (Nat.le_add_right _ _)
    · obtain ⟨first, rest, same, stalls, kept⟩ := starved.front
      exact ⟨first, rest ++ [message], by rw [same]; rfl, stalls, kept⟩
  -- A normal message is in the queue for the time of the check only, or was not taken at all.
  · split
    · have checked := checkQueueSizes_checked { q with
        normalMessageQueue :=
          if message.messageType = .bootNotification then message :: q.normalMessageQueue
          else q.normalMessageQueue ++ [message]
        newMessage := true }
      exact ⟨.checked checked starved.refused starved.idle starved.full starved.front,
        checked.rest.sent⟩
    · exact ⟨starved, rfl⟩

/-- The worker finds nothing that it may send. -/
theorem Starved.work (starved : q.Starved) (now : UInt32) (sent : Bool) :
    (q.work now sent).Starved ∧ (q.work now sent).sent = q.sent := by
  -- The front of the transaction queue may not be sent, and nothing else waits.
  obtain ⟨message, rest, same, stalls, _⟩ := starved.front
  have none : q.selectMessage (DateTime.now now) = none := by
    have stalled : q.isAllowed (DateTime.now now) message = false := by
      unfold isAllowed allowedToSendMessage
      rw [if_pos ⟨stalls, starved.refused⟩]
    simp [selectMessage, same, isTransactionMessageAvailable, stalled, selectedNormalMessage,
      starved.normal]
  unfold MessageQueue.work
  split
  · exact ⟨starved, rfl⟩
  · rw [none]
    exact ⟨⟨starved.refused, starved.idle, starved.normal, starved.full, starved.front⟩, rfl⟩

/-- A station that is not registered yet cannot leave this state. -/
theorem Starved.step (starved : q.Starved) (other : op ≠ .setRegistrationStatusAccepted)
    (moved : step q op = some r) : r.Starved ∧ r.sent = q.sent := by
  -- A call, a round of the worker and an answer are the three kinds of steps.
  rcases step_cases moved with ⟨call, now, triggered, accepted, queueAll, rfl, rfl⟩ |
    ⟨now, sent, rfl, _, _, rfl⟩ | ⟨_, p, same, answers, accepted⟩
  · unfold dispatchCall
    split
    · exact starved.pushCall
    · exact starved.pushCall
    · exact ⟨starved, rfl⟩
  · exact starved.work now sent
  · have before : p.Starved := by
      refine ⟨(accepted other).trans starved.refused, same.inFlight.trans starved.idle,
        same.normal.trans starved.normal, ?_, ?_⟩
      · rw [same.threshold, same.transaction]
        exact starved.full
      · rw [same.transaction]
        exact starved.front
    -- Whatever else the operation changes, the queues are as they were.
    -- There is nothing in flight that could be answered or given up.
    cases answers with
    | nothing own =>
      subst own
      exact ⟨before, by rw [MessageQueue.sent, same.events, MessageQueue.sent]⟩
    | settle some _ => exact absurd before.idle some
    | again now beyond freshId handled =>
      rw [handleTimeoutOrCallerror, before.idle] at handled
      cases handled

/-- Once calls that wait for the registration fill the queue, nothing is ever sent again before the
station is registered, and no boot notification that could achieve that. -/
theorem starves (starved : q.Starved) (never : ∀ op ∈ ops, op ≠ .setRegistrationStatusAccepted)
    (ran : run step q ops = some r) : r.Starved ∧ r.sent = q.sent := by
  -- Every step keeps the state, and adds nothing to what was sent.
  refine @run_guarded_invariant _ _ _ _ _ _ (fun p => p.Starved ∧ p.sent = q.sent) _ ?_
    ⟨starved, rfl⟩ (meets_of_forall never) ran
  rintro p op p' ⟨before, same⟩ other moved
  obtain ⟨after, still⟩ := before.step other moved
  exact ⟨after, still.trans same⟩

/-- A station whose first boot notification was not accepted, with three calls that wait. -/
def unregistered : MessageQueue :=
  { created with
    transactionMessageQueue := [
      .ofCall ⟨"2", .securityEventNotification, false⟩ true 11,
      .ofCall ⟨"3", .transactionEvent, false⟩ true 12,
      .ofCall ⟨"4", .transactionEvent, false⟩ true 13]
    paused := false
    newMessage := true
    pauseResumeCtr := 1
    events := [.sent ⟨"1", .bootNotification, false⟩, .settled ⟨"1", .bootNotification, false⟩] }

/-- The station gets into this state, and its second boot notification is never sent. -/
theorem starves_unregistered :
    run step created [.resume 0, .dispatchCall ⟨"1", .bootNotification, false⟩ 10 false false false,
      .work 10 true, .receiveCallResult "1",
      .dispatchCall ⟨"2", .securityEventNotification, false⟩ 11 false false false,
      .dispatchCall ⟨"3", .transactionEvent, false⟩ 12 false false false,
      .dispatchCall ⟨"4", .transactionEvent, false⟩ 13 false false false] = some unregistered ∧
    ∃ r, run step unregistered [.dispatchCall ⟨"5", .bootNotification, false⟩ 70 false false false,
      .work 70 true] = some r ∧ r.Starved ∧ r.sent = unregistered.sent := by
  have never : ∀ op ∈ [Op.dispatchCall ⟨"5", .bootNotification, false⟩ 70 false false false,
      .work 70 true], op ≠ .setRegistrationStatusAccepted := by decide
  have starved : unregistered.Starved :=
    ⟨rfl, rfl, rfl, by decide +kernel, _, _, rfl, rfl, rfl⟩
  have runs : (run step unregistered [.dispatchCall ⟨"5", .bootNotification, false⟩ 70 false false
      false, .work 70 true]).isSome := by decide +kernel
  obtain ⟨r, ran⟩ := Option.isSome_iff_exists.mp runs
  exact ⟨by decide +kernel, r, ran, starves starved never ran⟩

/-- A pause is as it was, and nothing more was sent. -/
structure SamePause (q r : MessageQueue) : Prop where
  paused : r.paused = q.paused
  pauseResumeCtr : r.pauseResumeCtr = q.pauseResumeCtr
  resumeTimer : r.resumeTimer = q.resumeTimer
  sent : r.sent = q.sent

theorem SamePause.refl (q : MessageQueue) : SamePause q q := ⟨rfl, rfl, rfl, rfl⟩

/-- A call that arrives does not change the pause. -/
theorem pushCall_samePause (message : QueuedMessage) (q : MessageQueue) :
    SamePause q (q.pushCall message) := by
  -- What is dropped is told of, but was not sent.
  have checked {p : MessageQueue} (same : SamePause q p) : SamePause q p.checkQueueSizes := by
    have keeps := (checkQueueSizes_checked p).rest
    exact ⟨keeps.paused.trans same.paused, keeps.pauseResumeCtr.trans same.pauseResumeCtr,
      keeps.resumeTimer.trans same.resumeTimer, keeps.sent.trans same.sent⟩
  unfold pushCall
  split
  · exact checked ⟨rfl, rfl, rfl, rfl⟩
  · split
    · exact checked ⟨rfl, rfl, rfl, rfl⟩
    · exact .refl q

/-- What is answered, given up or sent again does not change the pause. -/
theorem handleTimeoutOrCallerror_samePause {now : UInt32} {beyond : ℕ} {freshId : String}
    (handled : q.handleTimeoutOrCallerror now beyond freshId = some r) : SamePause q r := by
  obtain ⟨message, flight, rfl⟩ := Option.map_eq_some_iff.mp handled
  -- The message is put back in its queue, or given up, which is told as settled.
  split
  · unfold requeue
    split <;> exact ⟨rfl, rfl, rfl, rfl⟩
  · exact ⟨rfl, rfl, rfl, by simp [sent, settle, flight, List.filterMap_append, Event.sent?]⟩

/-- The operations that begin or end a pause, or that may find the connection lost. -/
def Op.changesPause : Op → Bool
  | .work .. | .pause | .resume _ | .resumeTimer => true
  | _ => false

/-- Nothing else changes the pause. -/
theorem step_samePause (other : Op.changesPause op = false) (moved : step q op = some r) :
    SamePause q r := by
  -- Only the worker and the operations on pauses touch what is compared here.
  cases op with
  | dispatchCall call now triggered accepted queueAll =>
    cases moved
    unfold dispatchCall
    split
    · exact pushCall_samePause _ q
    · exact pushCall_samePause _ q
    · exact .refl q
  | receiveCallResult uniqueId =>
    cases moved
    unfold receiveCallResult
    dsimp only
    split
    · refine ⟨rfl, rfl, rfl, ?_⟩
      have none : q.inFlight.toList.filterMap
          (Event.sent? ∘ fun message => Event.settled message.call) = [] :=
        List.filterMap_eq_nil_iff.mpr fun message _ => rfl
      simp only [sent, settle, List.filterMap_append, List.filterMap_map, none, List.append_nil]
    · exact ⟨rfl, rfl, rfl, rfl⟩
  | receiveCallError uniqueId now beyond freshId =>
    simp only [step, receiveCallError] at moved
    split at moved
    · have same := handleTimeoutOrCallerror_samePause moved
      exact ⟨same.paused, same.pauseResumeCtr, same.resumeTimer, same.sent⟩
    · cases moved
      exact ⟨rfl, rfl, rfl, rfl⟩
  | messageTimeout now beyond freshId => exact handleTimeoutOrCallerror_samePause moved
  | pushCallResult uniqueId =>
    cases moved
    unfold pushCallResult
    split <;> exact ⟨rfl, rfl, rfl, rfl⟩
  | work | pause | resume | resumeTimer => cases other
  | receiveCall | resetNextMessageToSend | notifyQueueTimer | setRegistrationStatusAccepted
  | updateTransactionMessageAttempts | updateTransactionMessageRetryInterval =>
    cases moved
    exact ⟨rfl, rfl, rfl, rfl⟩

/-- No callback of the resume timer expects a pause that is still to come. -/
def Timely (q : MessageQueue) : Prop := ∀ expected ∈ q.resumeTimer, expected ≤ q.pauseResumeCtr

/-- The worker changes nothing about the resume timer. -/
theorem work_timer (now : UInt32) (sent : Bool) (q : MessageQueue) :
    (q.work now sent).pauseResumeCtr = q.pauseResumeCtr ∧
      (q.work now sent).resumeTimer = q.resumeTimer := by
  -- The flag of something new is all that the end of a round changes.
  have empty (p : MessageQueue) : p.checkEmpty.pauseResumeCtr = p.pauseResumeCtr ∧
      p.checkEmpty.resumeTimer = p.resumeTimer := by
    unfold checkEmpty
    split <;> exact ⟨rfl, rfl⟩
  unfold work
  split
  · exact ⟨rfl, rfl⟩
  · split
    · exact ⟨rfl, rfl⟩
    · split
      · exact ⟨rfl, rfl⟩
      · split
        · exact empty _
        · obtain ⟨ctr, timer⟩ := empty (q.couldNotSend (q.isAllowed (DateTime.now now)) _ _)
          rw [ctr, timer]
          unfold couldNotSend
          split
          · exact ⟨rfl, rfl⟩
          · split <;> exact ⟨rfl, rfl⟩

/-- The end of a pause is either the one that is expected, or nothing. -/
theorem resumeNow_timer (expected : ℕ) (q : MessageQueue) :
    (q.resumeNow expected).pauseResumeCtr = q.pauseResumeCtr ∧
      (q.resumeNow expected).resumeTimer = q.resumeTimer := by
  unfold resumeNow
  split <;> exact ⟨rfl, rfl⟩

/-- The counter never falls behind what a callback expects. -/
theorem Timely.step (timely : q.Timely) (moved : step q op = some r) : r.Timely := by
  -- An operation that is not about pauses changes neither side of the comparison.
  cases kind : Op.changesPause op with
  | false =>
    have same := step_samePause kind moved
    unfold Timely
    rw [same.resumeTimer, same.pauseResumeCtr]
    exact timely
  | true =>
    cases op with
    | work now sent =>
      obtain ⟨_, same⟩ := Option.ite_none_right_eq_some.mp moved
      cases same
      unfold Timely
      rw [(work_timer now sent q).1, (work_timer now sent q).2]
      exact timely
    | pause =>
      -- A pause makes the counter larger, and leaves what the callback expects.
      cases moved
      exact fun expected armed => (timely expected armed).trans (Nat.le_succ _)
    | resume delayOnReconnect =>
      cases moved
      -- A connection arms the timer for the new count, or ends the pause at once.
      unfold resume
      split
      · exact timely
      · dsimp only
        split
        · exact fun expected armed => (Option.some.inj armed).ge
        · unfold Timely
          rw [(resumeNow_timer _ _).1, (resumeNow_timer _ _).2]
          exact fun expected armed => (timely expected armed).trans (Nat.le_succ _)
    | resumeTimer =>
      obtain ⟨expected, _, rfl⟩ := Option.map_eq_some_iff.mp moved
      unfold Timely
      rw [(resumeNow_timer _ _).1, (resumeNow_timer _ _).2]
      exact timely
    | _ => cases kind

/-- The queue is paused, and no callback of the resume timer expects this pause. -/
structure Paused (q : MessageQueue) : Prop where
  paused : q.paused = true
  late : ∀ expected ∈ q.resumeTimer, expected < q.pauseResumeCtr

/-- Only a new connection ends a pause, and not a callback that was left from an old one. -/
theorem Paused.step (pausing : q.Paused) (other : ∀ delay, op ≠ .resume delay)
    (moved : step q op = some r) : r.Paused ∧ r.sent = q.sent := by
  cases kind : Op.changesPause op with
  | false =>
    have same := step_samePause kind moved
    refine ⟨⟨same.paused.trans pausing.paused, ?_⟩, same.sent⟩
    rw [same.resumeTimer, same.pauseResumeCtr]
    exact pausing.late
  | true =>
    cases op with
    | work now sent =>
      -- The worker waits for the end of the pause before it does anything.
      obtain ⟨ready, _⟩ := Option.ite_none_right_eq_some.mp moved
      rw [pausing.paused] at ready
      cases ready.1
    | pause =>
      cases moved
      exact ⟨⟨rfl, fun expected armed => (pausing.late expected armed).trans (Nat.lt_succ_self _)⟩,
        rfl⟩
    | resume delayOnReconnect => exact absurd rfl (other delayOnReconnect)
    | resumeTimer =>
      -- A callback that comes late expects an older count, and does nothing.
      obtain ⟨expected, armed, rfl⟩ := Option.map_eq_some_iff.mp moved
      have late := pausing.late expected armed
      rw [resumeNow, if_neg (by omega)]
      exact ⟨pausing, rfl⟩
    | _ => cases kind

/-- In every run the queue is paused from the loss of the connection to the next connection, and
nothing is sent, whenever the timers run. -/
theorem pause_lasts {config : Config} {before : List Op}
    (reached : run step { config } before = some q)
    (never : ∀ op ∈ ops, ∀ delay, op ≠ .resume delay)
    (ran : run step q (.pause :: ops) = some r) : r.paused = true ∧ r.sent = q.sent := by
  have timely : q.Timely := run_invariant Timely.step (by simp [Timely]) reached
  -- The pause begins with a count that no armed callback expects.
  have start : q.pause.Paused :=
    ⟨rfl, fun expected armed => Nat.lt_succ_of_le (timely expected armed)⟩
  have rest : run step q.pause ops = some r := ran
  have ends := @run_guarded_invariant _ _ _ _ _ _ (fun p => p.Paused ∧ p.sent = q.sent) _ (by
    rintro p op p' ⟨pausing, same⟩ other moved
    obtain ⟨after, still⟩ := pausing.step other moved
    exact ⟨after, still.trans same⟩) ⟨start, rfl⟩ (meets_of_forall never) rest
  exact ⟨ends.1.paused, ends.2⟩

/-- The connection is lost again before the delay is over, and the timer runs all the same. -/
theorem pause_lasts_timer : ∃ q r,
    run step created [.resume 0, .pause, .resume 5,
      .dispatchCall ⟨"1", .heartbeat, false⟩ 10 false true false] = some q ∧
    run step q [.pause, .resumeTimer] = some r ∧ r.paused = true ∧ r.sent = q.sent := by
  have before : run step created [.resume 0, .pause, .resume 5,
      .dispatchCall ⟨"1", .heartbeat, false⟩ 10 false true false] = some _ := rfl
  have never : ∀ op ∈ [Op.resumeTimer], ∀ delay, op ≠ .resume delay := by simp
  exact ⟨_, _, before, rfl, pause_lasts before never rfl⟩

end MessageQueue

end EasyEvse.Delivery
