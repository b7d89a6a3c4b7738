import EasyEvse.Delivery.Dropping

/-! Without what is dropped, the queue does what the plain outgoing queues do. -/

namespace EasyEvse.Delivery

open Clock Csms Transition

namespace MessageQueue

variable {q : MessageQueue} {message : QueuedMessage}

/-- The plain queues, without first identifiers, payloads and what was told. -/
def forget (q : MessageQueue) : OutgoingQueue where
  config := q.config.toMessageQueueConfig
  transactionMessageQueue := q.transactionMessageQueue.map QueuedMessage.toControlMessage
  normalMessageQueue := q.normalMessageQueue.map QueuedMessage.toControlMessage
  inFlight := q.inFlight.map QueuedMessage.toControlMessage
  paused := q.paused
  resuming := q.resuming
  newMessage := q.newMessage
  isRegistrationStatusAccepted := q.isRegistrationStatusAccepted
  nextMessageToSend := q.nextMessageToSend
  notifyQueueTimer := q.notifyQueueTimer

/-- The same message is chosen. -/
theorem forget_selectMessage (time : DateTime) (q : MessageQueue) :
    (q.selectMessage time).map (Prod.map QueuedMessage.toControlMessage id) =
      Csms.selectMessage time q.forget.isRegistrationStatusAccepted q.forget.normalMessageQueue
        q.forget.transactionMessageQueue := by
  -- A message is allowed by what the plain one has as well.
  have normal : q.forget.normalMessageQueue.find? (fun message =>
      allowedToSendMessage message time q.forget.isRegistrationStatusAccepted) =
        (q.selectedNormalMessage time).map QueuedMessage.toControlMessage := by
    rw [forget, List.find?_map]
    rfl
  unfold MessageQueue.selectMessage Csms.selectMessage
  dsimp only
  rw [normal]
  -- The front of the transaction queue is compared with the normal message that was found.
  cases front : q.transactionMessageQueue with
  | nil =>
    simp only [forget, front, List.map_nil]
    cases q.selectedNormalMessage time <;> rfl
  | cons msg rest =>
    rcases chosen : q.selectedNormalMessage time with _ | message
    · simp only [forget, front, List.map_cons, isTransactionMessageAvailable, isAllowed, chosen,
        Option.map_none]
      split <;> rfl
    · simp only [forget, front, List.map_cons, isTransactionMessageAvailable, isAllowed, chosen,
        Option.map_some]
      split <;> rfl

/-- Without room for more, or with it, an empty queue is empty. -/
theorem forget_checkEmpty (q : MessageQueue) : q.checkEmpty.forget = q.forget.checkEmpty := by
  unfold checkEmpty OutgoingQueue.checkEmpty
  simp only [forget, List.map_eq_nil_iff]
  split <;> rfl

/-- A failed attempt counts in the same way. -/
theorem map_failedAttempt (l : List QueuedMessage) (i : ℕ) :
    (l.modify i QueuedMessage.failedAttempt).map QueuedMessage.toControlMessage =
      (l.map QueuedMessage.toControlMessage).modify i ControlMessage.attempt := by
  refine List.ext_getElem? fun j => ?_
  -- Both lists are changed at the same index, by what becomes the same attempt.
  simp only [List.getElem?_map, List.getElem?_modify]
  cases l[j]? with
  | none => rfl
  | some m => split <;> rfl

/-- What is sent is taken out of the same queue. -/
theorem forget_takeOut (time : DateTime) (message : QueuedMessage) (queueType : QueueType)
    (q : MessageQueue) :
    (q.takeOut (q.isAllowed time) message queueType).forget =
      q.forget.takeOut (fun m => allowedToSendMessage m time q.isRegistrationStatusAccepted)
        message.toControlMessage queueType := by
  cases queueType with
  | normal =>
    -- The message that is taken out is the first one allowed, before and after forgetting.
    have same :
        (q.normalMessageQueue.eraseP (q.isAllowed time)).map QueuedMessage.toControlMessage =
        (q.normalMessageQueue.map QueuedMessage.toControlMessage).eraseP fun m =>
          allowedToSendMessage m time q.isRegistrationStatusAccepted := by
      rw [List.eraseP_map]
      rfl
    simp only [takeOut, forget, OutgoingQueue.takeOut, reduceCtorEq, if_false, if_true, same]
    rfl
  | transaction =>
    simp only [takeOut, forget, OutgoingQueue.takeOut, reduceCtorEq, if_false, if_true,
      List.map_tail]
    rfl

/-- What could not be sent stays in the same place, or the same message is dropped. -/
theorem forget_couldNotSend (time : DateTime) (message : QueuedMessage) (queueType : QueueType)
    (q : MessageQueue) :
    (q.couldNotSend (q.isAllowed time) message queueType).forget =
      q.forget.couldNotSend (fun m => allowedToSendMessage m time q.isRegistrationStatusAccepted)
        message.toControlMessage queueType := by
  cases queueType with
  | normal =>
    -- The attempt is counted at the place of the first message allowed.
    have place : (q.normalMessageQueue.map QueuedMessage.toControlMessage).findIdx (fun m =>
        allowedToSendMessage m time q.isRegistrationStatusAccepted) =
          q.normalMessageQueue.findIdx (q.isAllowed time) := by
      rw [List.findIdx_map]
      rfl
    by_cases queued : isTransactionMessage message.messageType ∨
        q.config.checkQueue message.messageType
    -- Either the message is kept and counted, or the front of its queue is dropped.
    · simp only [couldNotSend, OutgoingQueue.couldNotSend, queued, if_true, forget,
        map_failedAttempt, place]
    · simp only [couldNotSend, OutgoingQueue.couldNotSend, queued, if_false, forget, List.map_tail]
  | transaction => simp only [couldNotSend, forget, OutgoingQueue.couldNotSend, map_failedAttempt]

/-- The worker does the same. -/
theorem forget_work (now : UInt32) (sent : Bool) (q : MessageQueue) :
    (q.work now sent).forget = (q.forget.work now sent).1 := by
  have chosen := forget_selectMessage (DateTime.now now) q
  unfold work OutgoingQueue.work
  dsimp only
  -- A queue is empty exactly if what is left of it is.
  have empty : (q.forget.transactionMessageQueue = [] ∧ q.forget.normalMessageQueue = []) ↔
      q.transactionMessageQueue = [] ∧ q.normalMessageQueue = [] := by
    simp only [forget, List.map_eq_nil_iff]
  simp only [empty]
  split
  · rfl
  · rw [← chosen]
    cases q.selectMessage (DateTime.now now) with
    | none => rfl
    | some selected =>
      obtain ⟨message, queueType⟩ := selected
      simp only [Option.map_some, Prod.map, id]
      -- What waits for its answer holds the same messages back.
      by_cases held : q.nextMessageToSend ≠ none ∧ q.nextMessageToSend ≠ some message.uniqueId
      · have same : q.forget.nextMessageToSend ≠ none ∧
            q.forget.nextMessageToSend ≠ some message.uniqueId := held
        rw [if_pos held, if_pos same]
      · have same : ¬ (q.forget.nextMessageToSend ≠ none ∧
            q.forget.nextMessageToSend ≠ some message.uniqueId) := held
        rw [if_neg held, if_neg same]
        -- What was sent is taken out, and what was not is counted or dropped.
        cases sent with
        | true =>
          simp only [if_true, forget_checkEmpty, forget_takeOut]
          rfl
        | false =>
          simp only [Bool.false_eq_true, if_false, forget_checkEmpty, forget_couldNotSend]
          rfl

/-- A timeout or an error is handled in the same way. -/
theorem forget_handleTimeoutOrCallerror (now : UInt32) (beyond : ℕ) (freshId : String)
    (q : MessageQueue) :
    (q.handleTimeoutOrCallerror now beyond freshId).map forget =
      q.forget.handleTimeoutOrCallerror now beyond freshId := by
  unfold handleTimeoutOrCallerror OutgoingQueue.handleTimeoutOrCallerror
  cases flight : q.inFlight with
  | none => simp [forget, flight]
  | some message =>
    have inFlight : q.forget.inFlight = some message.toControlMessage := by
      simp only [forget, flight, Option.map_some]
    rw [inFlight]
    simp only [Option.map_some]
    have config : q.forget.config = q.config.toMessageQueueConfig := rfl
    -- A message that is kept may be tried again, and any other only if it is for booting.
    by_cases kept : isTransactionMessage message.messageType ∨
        q.config.checkQueue message.messageType
    -- The limit on the attempts is part of the plain configuration.
    · by_cases again : message.messageAttempts < q.config.transactionMessageAttempts
      · simp only [isRetried, retryTimestamp, config, kept, again, decide_true, if_true, requeue,
          OutgoingQueue.requeue]
        split_ifs <;> rfl
      · simp only [isRetried, config, kept, again, decide_false, Bool.false_eq_true, if_true,
          if_false]
        rfl
    · have transaction : ¬ isTransactionMessage message.messageType = true :=
        fun kind => kept (.inl kind)
      by_cases boot : isBootNotificationMessage message.messageType
      · simp only [isRetried, retryTimestamp, config, kept, boot, if_true, if_false]
        simp only [requeue, OutgoingQueue.requeue, transaction, Bool.false_eq_true, if_false]
        rfl
      · simp only [isRetried, config, kept, boot, Bool.false_eq_true, if_false]
        rfl

/-- A call is taken in the same way, as long as there is room for one more. -/
theorem forget_pushCall (room : q.size < q.config.queuesTotalSizeThreshold) :
    (q.pushCall message).forget = q.forget.pushCall message.toControlMessage := by
  -- With room for one more, the check of the sizes drops nothing.
  have fits {p : MessageQueue} (config : p.config = q.config) (more : p.size = q.size + 1) :
      p.checkQueueSizes = p := by
    refine (checkQueueSizes_checked p).needed ?_
    rw [config, more]
    exact room
  -- The type decides between the queues, and a normal message may be refused.
  by_cases kind : isTransactionMessage message.messageType
  · rw [pushCall, if_pos kind, OutgoingQueue.pushCall, if_pos kind, addToTransactionMessageQueue,
      fits]
    · simp only [forget, List.map_append, List.map_cons, List.map_nil]
    · rfl
    · simp only [size, List.length_append, List.length_singleton]
      omega
  · rw [pushCall, if_neg kind, OutgoingQueue.pushCall, if_neg kind]
    by_cases queued : q.paused = false ∨ q.resuming ∨ q.config.checkQueue message.messageType ∨
        message.messageType = .bootNotification
    · have same : q.forget.paused = false ∨ q.forget.resuming ∨
          q.forget.config.checkQueue message.messageType ∨
          message.messageType = .bootNotification := queued
      rw [if_pos queued, if_pos same, addToNormalMessageQueue]
      -- A boot notification is put in front, and any other message at the end.
      by_cases boot : message.messageType = .bootNotification
      · rw [fits]
        · simp only [forget, boot, if_true, List.map_cons]
        · rfl
        · simp only [size, boot, if_true, List.length_cons]
          omega
      · rw [fits]
        · simp only [forget, boot, if_false, List.map_append, List.map_cons, List.map_nil]
        · rfl
        · simp only [size, boot, if_false, List.length_append, List.length_singleton]
          omega
    · have same : ¬ (q.forget.paused = false ∨ q.forget.resuming ∨
          q.forget.config.checkQueue message.messageType ∨
          message.messageType = .bootNotification) := queued
      rw [if_neg queued, if_neg same]

/-- What an operation does to the plain queues, which leave open when a pause ends. -/
def Plain (p p' : OutgoingQueue) : Op → Prop
  | .dispatchCall call now _ _ _ =>
    p' = p ∨ ∃ stall, p' = p.pushCall (QueuedMessage.ofCall call stall now).toControlMessage
  | .work now sent =>
    p.paused = false ∧ p.newMessage ∧ p.inFlight = none ∧ p' = (p.work now sent).1
  | .receiveCall uniqueId => p' = { p with nextMessageToSend := some uniqueId }
  | .receiveCallResult uniqueId =>
    p' = { p with
      nextMessageToSend := none
      inFlight := if p.inFlight.map (·.uniqueId) = some uniqueId then none else p.inFlight }
  | .receiveCallError uniqueId now beyond freshId =>
    if p.inFlight.map (·.uniqueId) = some uniqueId then
      { p with nextMessageToSend := none }.handleTimeoutOrCallerror now beyond freshId = some p'
    else p' = { p with nextMessageToSend := none }
  | .messageTimeout now beyond freshId => p.handleTimeoutOrCallerror now beyond freshId = some p'
  | .pushCallResult uniqueId =>
    p' = if p.nextMessageToSend = some uniqueId then { p with nextMessageToSend := none } else p
  | .resetNextMessageToSend => p' = { p with nextMessageToSend := none }
  | .notifyQueueTimer => p' = { p with newMessage := true }
  | .pause => p' = { p with paused := true, resuming := false }
  | .resume _ =>
    p' = p ∨ p' = { p with resuming := true } ∨ p' = { p with paused := false, resuming := false }
  | .resumeTimer => p' = p ∨ p' = { p with paused := false, resuming := false }
  | .setRegistrationStatusAccepted => p' = { p with isRegistrationStatusAccepted := true }
  | .updateTransactionMessageAttempts attempts =>
    p' = { p with config.transactionMessageAttempts := attempts }
  | .updateTransactionMessageRetryInterval interval =>
    p' = { p with config.transactionMessageRetryInterval := interval }

/-- A call finds room for one more message. -/
def HasRoom (q : MessageQueue) : Op → Prop
  | .dispatchCall .. => q.size < q.config.queuesTotalSizeThreshold
  | _ => True

/-- A pause that ends, ends for the plain queues. -/
theorem forget_resumeNow (expected : ℕ) (q : MessageQueue) :
    (q.resumeNow expected).forget = q.forget ∨ (q.resumeNow expected).forget =
      { q.forget with paused := false, resuming := false } := by
  -- The pause ends for the count that is expected, and goes on for any other.
  unfold resumeNow
  split
  · exact .inr rfl
  · exact .inl rfl

/-- What is in flight has the same identifier. -/
theorem forget_inFlight (q : MessageQueue) :
    q.forget.inFlight.map (·.uniqueId) = q.inFlight.map (·.uniqueId) := by
  cases flight : q.inFlight <;> simp [forget, flight]

/-- A step with room for its call is one of the plain queues. -/
theorem forget_step {r : MessageQueue} {op : Op} (room : q.HasRoom op)
    (moved : step q op = some r) : Plain q.forget r.forget op := by
  -- Each operation was followed above, and those that are left change a flag or the configuration.
  cases op with
  | dispatchCall call now triggered accepted queueAll =>
    obtain rfl := Option.some.inj moved
    unfold dispatchCall
    -- A call is taken at once, taken to wait for the registration, or discarded.
    split
    · exact .inr ⟨false, forget_pushCall room⟩
    · exact .inr ⟨true, forget_pushCall room⟩
    · exact .inl rfl
  | work now sent =>
    obtain ⟨⟨running, some, idle⟩, same⟩ := Option.ite_none_right_eq_some.mp moved
    obtain rfl := Option.some.inj same
    exact ⟨running, some, by simp [forget, idle], forget_work now sent q⟩
  | receiveCallResult uniqueId =>
    obtain rfl := Option.some.inj moved
    simp only [Plain, forget_inFlight, receiveCallResult]
    -- The answer is for the call in flight, or for one that was given up.
    split
    · rfl
    · rfl
  | receiveCallError uniqueId now beyond freshId =>
    simp only [step, receiveCallError] at moved
    simp only [Plain, forget_inFlight]
    split_ifs at moved ⊢
    · -- The error is handled after the answer is no longer waited for.
      have handled := forget_handleTimeoutOrCallerror now beyond freshId
        { q with nextMessageToSend := none }
      rw [moved] at handled
      exact handled.symm
    · obtain rfl := Option.some.inj moved
      rfl
  | messageTimeout now beyond freshId =>
    have handled := forget_handleTimeoutOrCallerror now beyond freshId q
    rw [show q.handleTimeoutOrCallerror now beyond freshId = some r from moved] at handled
    exact handled.symm
  | pushCallResult uniqueId =>
    obtain rfl := Option.some.inj moved
    unfold pushCallResult
    split
    · rename_i same
      exact (if_pos same).symm
    · rename_i other
      exact (if_neg other).symm
  | resume delayOnReconnect =>
    obtain rfl := Option.some.inj moved
    unfold resume
    -- A connection may end the pause at once, or after a delay.
    split
    · exact .inl rfl
    · dsimp only
      split
      · exact .inr (.inl rfl)
      · exact (forget_resumeNow _ _).imp_right .inr
  | resumeTimer =>
    obtain ⟨expected, _, rfl⟩ := Option.map_eq_some_iff.mp moved
    exact forget_resumeNow expected q
  | receiveCall | resetNextMessageToSend | notifyQueueTimer | pause | setRegistrationStatusAccepted
  | updateTransactionMessageAttempts | updateTransactionMessageRetryInterval =>
    obtain rfl := Option.some.inj moved
    rfl

/-- One operation after the other is done to the plain queues. -/
inductive PlainRun : OutgoingQueue → List Op → OutgoingQueue → Prop
  | nil (p : OutgoingQueue) : PlainRun p [] p
  | cons {p p' p'' : OutgoingQueue} {op : Op} {ops : List Op} (first : Plain p p' op)
    (rest : PlainRun p' ops p'') : PlainRun p (op :: ops) p''

/-- As long as every call finds room, a run of the queue is one of the plain queues. -/
theorem forget_run {r : MessageQueue} {ops : List Op} (room : Meets HasRoom step q ops)
    (ran : run step q ops = some r) : PlainRun q.forget ops r.forget := by
  -- Each step is followed by one of the plain queues, and so is the rest of the run.
  induction ops generalizing q with
  | nil =>
    obtain rfl := Option.some.inj ran
    exact .nil _
  | cons op ops ih =>
    obtain ⟨next, moved, rest⟩ := Option.bind_eq_some_iff.mp ran
    obtain ⟨fits, later⟩ := room next moved
    exact .cons (forget_step fits moved) (ih later rest)

end MessageQueue

end EasyEvse.Delivery
