import EasyEvse.Delivery.Dropping
import EasyEvse.Transition.Fifo

/-! What has to be delivered is delivered in its order, and only updates may be missing. -/

namespace EasyEvse.Delivery

open Clock Csms Transition

/-- What is not dropped even if there is no room for it. -/
def Call.isSpared (call : Call) : Bool := !call.isTransactionUpdate

/-- The call that was settled, if one was. -/
def Event.settled? : Event → Option Call
  | .settled call => some call
  | .sent _ | .dropped _ => none

/-- The calls that arrive by an operation and have to be delivered. -/
def Op.arrives : Op → List Call
  | .dispatchCall call .. => if call.isTransaction then [call] else []
  | _ => []

namespace MessageQueue

variable {q r : MessageQueue} {message : QueuedMessage} {queueType : QueueType}
  {allowed : QueuedMessage → Bool} {now : UInt32} {beyond : ℕ} {freshId : String}

/-- The calls that are to be delivered, as a line that is served from its front. -/
def line (q : MessageQueue) : Fifo Call where
  settled := (q.events.filterMap Event.settled?).filter Call.isTransaction
  taken := (q.inFlight.map QueuedMessage.call).filter Call.isTransaction
  waiting := q.transactionMessageQueue.map QueuedMessage.call

/-- Every message is in the queue for its type. -/
structure Sorted (q : MessageQueue) : Prop where
  transaction : ∀ message ∈ q.transactionMessageQueue, message.call.isTransaction = true
  normal : ∀ message ∈ q.normalMessageQueue, message.call.isTransaction = false

/-- One operation moves the line, and puts messages where they belong. -/
structure Advances (q : MessageQueue) (arrived : List Call) (r : MessageQueue) : Prop where
  moves : Fifo.Moves Call.isSpared q.line arrived r.line
  sorted : r.Sorted

/-- What does not touch the queues does not move the line. -/
theorem Advances.of_line (sorted : q.Sorted) (same : r.line = q.line)
    (transaction : r.transactionMessageQueue = q.transactionMessageQueue)
    (normal : ∀ message ∈ r.normalMessageQueue, message ∈ q.normalMessageQueue) :
    Advances q [] r :=
  ⟨by rw [same]; exact .refl q.line, transaction ▸ sorted.transaction,
    fun message member => sorted.normal message (normal message member)⟩

/-- What was told of dropped messages settles nothing. -/
theorem settled_dropped (dropped : List QueuedMessage) :
    (dropped.map fun m => Event.dropped m.call).filterMap Event.settled? = [] := by
  -- Being told of a dropped message is not being told of a settled one.
  rw [List.filterMap_map]
  exact List.filterMap_eq_nil_iff.mpr fun message _ => rfl

/-- When the sizes were checked, the line may have become thinner. -/
theorem Checked.advances (checked : Checked q r) (sorted : q.Sorted) : Advances q [] r := by
  obtain ⟨dropped, told⟩ := checked.rest.events
  -- The check drops messages that wait, and touches neither end of the line.
  have same : r.line = { q.line with
      waiting := r.transactionMessageQueue.map QueuedMessage.call } := by
    simp only [line, told, checked.rest.inFlight, List.filterMap_append, settled_dropped,
      List.append_nil]
  refine ⟨same ▸ .thin q.line (checked.sublist.map _) ?_, ?_, ?_⟩
  · -- What is spared as a message is spared as a call.
    simp only [line, List.filter_map]
    exact congrArg (List.map QueuedMessage.call) checked.same
  · exact fun message member => sorted.transaction message (checked.sublist.subset member)
  · exact fun message member => sorted.normal message (checked.suffix.subset member)

/-- A message of the right type is put at the end of the line. -/
theorem addToTransactionMessageQueue_advances (sorted : q.Sorted)
    (kind : message.call.isTransaction = true) :
    Advances q [message.call] (q.addToTransactionMessageQueue message) := by
  have added : Sorted { q with
      transactionMessageQueue := q.transactionMessageQueue ++ [message], newMessage := true } := by
    refine ⟨fun m member => ?_, sorted.normal⟩
    rcases List.mem_append.mp member with old | new
    · exact sorted.transaction m old
    · exact List.mem_singleton.mp new ▸ kind
  -- The message arrives first, and the check of the sizes makes room afterwards.
  obtain ⟨thinned, still⟩ := (checkQueueSizes_checked _).advances added
  refine ⟨.trans (q := { q.line with waiting := q.line.waiting ++ [message.call] })
    (.arrive q.line message.call) ?_, still⟩
  have longer : line { q with
      transactionMessageQueue := q.transactionMessageQueue ++ [message], newMessage := true } =
      { q.line with waiting := q.line.waiting ++ [message.call] } := by
    simp only [line, List.map_append, List.map_cons, List.map_nil]
  exact longer ▸ thinned

/-- A message of another type does not move the line, but updates may be dropped for it. -/
theorem addToNormalMessageQueue_advances (sorted : q.Sorted)
    (kind : message.call.isTransaction = false) :
    Advances q [] (q.addToNormalMessageQueue message) := by
  -- A boot notification goes to the front of the normal queue, which is not the line.
  have moved : Advances { q with
      normalMessageQueue :=
        if message.messageType = .bootNotification then message :: q.normalMessageQueue
        else q.normalMessageQueue ++ [message]
      newMessage := true } [] (q.addToNormalMessageQueue message) := by
    refine (checkQueueSizes_checked _).advances ⟨sorted.transaction, fun m member => ?_⟩
    have old (inside : m = message ∨ m ∈ q.normalMessageQueue) : m.call.isTransaction = false := by
      rcases inside with rfl | inside
      · exact kind
      · exact sorted.normal m inside
    simp only at member
    split at member
    · exact old (List.mem_cons.mp member)
    · exact old ((List.mem_append.mp member).symm.imp_left List.mem_singleton.mp)
  exact ⟨moved.moves, moved.sorted⟩

/-- A message is taken into the queue for its type. -/
theorem pushCall_advances (sorted : q.Sorted) :
    Advances q (if message.call.isTransaction then [message.call] else [])
      (q.pushCall message) := by
  -- The type of the message decides which queue takes it.
  cases kind : message.call.isTransaction with
  | true =>
    have related : isTransactionMessage message.messageType = true := kind
    rw [pushCall, if_pos related, if_pos rfl]
    exact addToTransactionMessageQueue_advances sorted kind
  | false =>
    have other : isTransactionMessage message.messageType = false := kind
    rw [pushCall, if_neg Bool.false_ne_true, if_neg (by rw [other]; exact Bool.false_ne_true)]
    -- A message that is not queued while the link is down is refused.
    split
    · exact addToNormalMessageQueue_advances sorted kind
    · exact ⟨.refl q.line, sorted⟩

/-- A call that has to be delivered goes to the queue, whatever the state of the station. -/
theorem dispatchCall_advances {call : Call} {triggered accepted queueAll : Bool}
    (sorted : q.Sorted) :
    Advances q (if call.isTransaction then [call] else [])
      (q.dispatchCall call now triggered accepted queueAll) := by
  have pushed (stall : Bool) : Advances q (if call.isTransaction then [call] else [])
      (q.pushCall (.ofCall call stall now)) :=
    @pushCall_advances q (.ofCall call stall now) sorted
  unfold dispatchCall
  -- The priority depends on the type of the message and the state of the station.
  cases priority : getMessageTransmissionPriority (isBootNotificationMessage call.messageType)
    triggered accepted (isTransactionMessage call.messageType) queueAll with
  | sendImmediately => exact pushed false
  | sendAfterRegistrationStatusAccepted => exact pushed true
  | discard =>
    -- Only what does not have to be delivered is discarded.
    have other : call.isTransaction = false := by
      unfold getMessageTransmissionPriority at priority
      unfold Call.isTransaction
      cases related : isTransactionMessage call.messageType with
      | false => rfl
      | true => rw [related] at priority; split at priority <;> simp at priority
    rw [if_neg (by simp [other])]
    exact ⟨.refl q.line, sorted⟩

/-- What was chosen is the front of the transaction queue, or an allowed normal message. -/
theorem selectMessage_cases {time : DateTime}
    (selected : q.selectMessage time = some (message, queueType)) :
    (queueType = .transaction ∧ ∃ rest, q.transactionMessageQueue = message :: rest) ∨
    (queueType = .normal ∧ q.selectedNormalMessage time = some message) := by
  -- The front of the transaction queue is looked at first, and may have to wait.
  simp only [selectMessage] at selected
  split at selected
  · rename_i msg rest front
    split at selected
    · obtain ⟨rfl, rfl⟩ := Prod.mk.inj (Option.some.inj selected)
      exact .inl ⟨rfl, rest, front⟩
    · obtain ⟨m, found, same⟩ := Option.map_eq_some_iff.mp selected
      obtain ⟨rfl, rfl⟩ := Prod.mk.inj same
      exact .inr ⟨rfl, found⟩
  · obtain ⟨m, found, same⟩ := Option.map_eq_some_iff.mp selected
    obtain ⟨rfl, rfl⟩ := Prod.mk.inj same
    exact .inr ⟨rfl, found⟩

/-- That the worker waits for a new message does not move the line. -/
theorem Advances.checkEmpty {arrived : List Call} (advances : Advances q arrived r) :
    Advances q arrived r.checkEmpty := by
  unfold MessageQueue.checkEmpty
  split
  · exact ⟨advances.moves, advances.sorted.transaction, advances.sorted.normal⟩
  · exact advances

/-- What is sent is taken from the front of the line, if it is in line. -/
theorem takeOut_advances (sorted : q.Sorted) (idle : q.inFlight = none)
    (place : (queueType = .transaction ∧ ∃ rest, q.transactionMessageQueue = message :: rest) ∨
      (queueType = .normal ∧ message ∈ q.normalMessageQueue)) :
    Advances q [] (q.takeOut allowed message queueType) := by
  -- That a message is sent settles none.
  have settled : (q.events ++ [Event.sent message.call]).filterMap Event.settled? =
      q.events.filterMap Event.settled? := by
    simp [List.filterMap_append, Event.settled?]
  -- The worker takes it out of the queue that it was chosen from.
  rcases place with ⟨rfl, rest, front⟩ | ⟨rfl, member⟩
  · have kind := sorted.transaction message (by rw [front]; exact List.mem_cons_self)
    refine ⟨?_, fun m inside => ?_, sorted.normal⟩
    -- The front of the line is in flight from now on.
    · have before : q.line = ⟨q.line.settled, none, message.call :: rest.map (·.call)⟩ := by
        simp [line, idle, front]
      have after : (q.takeOut allowed message .transaction).line =
          ⟨q.line.settled, some message.call, rest.map (·.call)⟩ := by
        have same : message.attempt.call = message.call := rfl
        simp [line, takeOut, settled, front, same, kind]
      rw [before, after]
      exact .take _ _ _
    · refine sorted.transaction m ?_
      rw [takeOut, if_pos rfl] at inside
      exact List.mem_of_mem_tail inside
  · have kind := sorted.normal message member
    -- A normal message was not in line, and is not in line now.
    refine .of_line sorted ?_ rfl fun m inside => ?_
    · have same : message.attempt.call = message.call := rfl
      simp [line, takeOut, settled, idle, same, kind]
    · exact List.mem_of_mem_eraseP inside

/-- An attempt does not make a message one for another call. -/
theorem calls_failedAttempt (l : List QueuedMessage) (i : ℕ) :
    (l.modify i QueuedMessage.failedAttempt).map QueuedMessage.call =
      l.map QueuedMessage.call := by
  -- The attempt is counted in the message, which stays where it is.
  refine List.ext_getElem? fun j => ?_
  rw [List.getElem?_map, List.getElem?_map, List.getElem?_modify]
  cases l[j]? with
  | none => rfl
  | some m => split <;> rfl

/-- What could not be sent stays in line. -/
theorem couldNotSend_advances (sorted : q.Sorted) :
    Advances q [] (q.couldNotSend allowed message queueType) := by
  have kinds {l : List QueuedMessage} {i : ℕ} {m : QueuedMessage}
      (member : m ∈ l.modify i QueuedMessage.failedAttempt) : ∃ old ∈ l, old.call = m.call := by
    have called := List.mem_map_of_mem (f := QueuedMessage.call) member
    rw [calls_failedAttempt] at called
    exact List.mem_map.mp called
  unfold couldNotSend
  -- A message that could not be sent is kept for a later attempt, or taken from its queue.
  split
  · refine ⟨?_, fun m member => ?_, sorted.normal⟩
    · have same : line { q with
          paused := true
          transactionMessageQueue :=
            q.transactionMessageQueue.modify 0 QueuedMessage.failedAttempt } = q.line := by
        simp only [line, calls_failedAttempt]
      rw [same]
      exact .refl q.line
    · obtain ⟨old, inside, same⟩ := kinds member
      exact same ▸ sorted.transaction old inside
  · split
    · refine ⟨.refl q.line, sorted.transaction, fun m member => ?_⟩
      obtain ⟨old, inside, same⟩ := kinds member
      exact same ▸ sorted.normal old inside
    -- Only the normal queue loses a message in this way.
    · exact ⟨.refl q.line, sorted.transaction,
        fun m member => sorted.normal m (List.mem_of_mem_tail member)⟩

/-- The worker moves the line when nothing is in flight. -/
theorem work_advances {sent : Bool} (sorted : q.Sorted) (idle : q.inFlight = none) :
    Advances q [] (q.work now sent) := by
  -- The branches in which nothing is chosen or sent change no queue.
  unfold work
  split
  · exact ⟨.refl q.line, sorted⟩
  · split
    · exact ⟨.refl q.line, sorted.transaction, sorted.normal⟩
    · rename_i chosen
      split
      · exact ⟨.refl q.line, sorted⟩
      · split
        · refine (takeOut_advances sorted idle ?_).checkEmpty
          exact (selectMessage_cases chosen).imp_right
            fun place => ⟨place.1, List.mem_of_find?_eq_some place.2⟩
        · exact (couldNotSend_advances sorted).checkEmpty

/-- What does not have to be delivered is not in line. -/
theorem filter_other {call : Call} (kind : call.isTransaction = false) :
    Option.filter Call.isTransaction (some call) = none :=
  if_neg (by rw [kind]; exact Bool.false_ne_true)

/-- What is answered or given up leaves the line. -/
theorem settle_advances (sorted : q.Sorted) : Advances q [] q.settle := by
  refine ⟨?_, sorted.transaction, sorted.normal⟩
  -- A message is settled as what it is in line for, if it is in line.
  cases flight : q.inFlight with
  | none =>
    have same : q.settle.line = q.line := by simp [line, settle, flight]
    rw [same]
    exact .refl q.line
  | some message =>
    cases kind : message.call.isTransaction with
    | true =>
      have before : q.line = ⟨q.line.settled, some message.call, q.line.waiting⟩ := by
        simp [line, flight, kind]
      have after : q.settle.line =
          ⟨q.line.settled ++ [message.call], none, q.line.waiting⟩ := by
        simp [line, settle, flight, List.filterMap_append, Event.settled?, kind]
      rw [before, after]
      exact .settle _ _ _
    -- A message that does not have to be delivered was not counted as taken.
    | false =>
      have same : q.settle.line = q.line := by
        simp [line, settle, flight, List.filterMap_append, Event.settled?, kind,
          filter_other kind]
      rw [same]
      exact .refl q.line

/-- What is put back stands at the front of the line again. -/
theorem requeue_advances {retried : QueuedMessage} (sorted : q.Sorted)
    (flight : q.inFlight = some message) (same : retried.call = message.call) :
    Advances q [] (q.requeue retried) := by
  -- The queue that a message goes back to is that of its type.
  cases kind : retried.call.isTransaction with
  | true =>
    have related : isTransactionMessage retried.messageType = true := kind
    rw [requeue, if_pos related]
    refine ⟨?_, fun m member => ?_, sorted.normal⟩
    · have before : q.line = ⟨q.line.settled, some retried.call, q.line.waiting⟩ := by
        simp [line, flight, ← same, kind]
      rw [before]
      exact .giveBack _ _ _
    · rcases List.mem_cons.mp member with rfl | old
      · exact kind
      · exact sorted.transaction m old
  | false =>
    have other : isTransactionMessage retried.messageType = false := kind
    rw [requeue, if_neg (by rw [other]; exact Bool.false_ne_true)]
    refine ⟨?_, sorted.transaction, fun m member => ?_⟩
    -- A normal message comes to wait again without being in line.
    · have same : line { q with
          normalMessageQueue := retried :: q.normalMessageQueue
          inFlight := none
          notifyQueueTimer := some retried.timestamp.toTimePointS } = q.line := by
        simp [line, flight, ← same, filter_other kind]
      rw [same]
      exact .refl q.line
    · rcases List.mem_cons.mp member with rfl | old
      · exact kind
      · exact sorted.normal m old

/-- A timeout or an error puts the message back, or ends the attempts to send it. -/
theorem handleTimeoutOrCallerror_advances (sorted : q.Sorted)
    (handled : q.handleTimeoutOrCallerror now beyond freshId = some r) : Advances q [] r := by
  obtain ⟨message, flight, rfl⟩ := Option.map_eq_some_iff.mp handled
  split
  · exact requeue_advances sorted flight rfl
  · exact settle_advances sorted

/-- The messages and what was told of them stay as they are. -/
structure SameQueues (q r : MessageQueue) : Prop where
  threshold : r.config.queuesTotalSizeThreshold = q.config.queuesTotalSizeThreshold
  transaction : r.transactionMessageQueue = q.transactionMessageQueue
  normal : r.normalMessageQueue = q.normalMessageQueue
  inFlight : r.inFlight = q.inFlight
  events : r.events = q.events

/-- What is done without a call that arrives and without the worker. -/
inductive Answers (q r : MessageQueue) : Prop
  | nothing (same : r = q)
  | settle (some : q.inFlight ≠ none) (same : r = q.settle)
  | again (now : UInt32) (beyond : ℕ) (freshId : String)
    (handled : q.handleTimeoutOrCallerror now beyond freshId = some r)

/-- A step is a call, a round of the worker, or something about the message in flight at most. -/
theorem step_cases {op : Op} (moved : step q op = some r) :
    (∃ call now triggered accepted queueAll,
      op = .dispatchCall call now triggered accepted queueAll ∧
        r = q.dispatchCall call now triggered accepted queueAll) ∨
    (∃ now sent, op = .work now sent ∧ q.inFlight = none ∧ q.paused = false ∧
      r = q.work now sent) ∨
    (op.arrives = [] ∧ ∃ p, SameQueues q p ∧ Answers p r ∧
      (op ≠ .setRegistrationStatusAccepted →
        p.isRegistrationStatusAccepted = q.isRegistrationStatusAccepted)) := by
  have still {p : MessageQueue} (same : SameQueues q p)
      (accepted : p.isRegistrationStatusAccepted = q.isRegistrationStatusAccepted) :
      ∃ p', SameQueues q p' ∧ Answers p' p ∧ (op ≠ .setRegistrationStatusAccepted →
        p'.isRegistrationStatusAccepted = q.isRegistrationStatusAccepted) :=
    ⟨p, same, .nothing rfl, fun _ => accepted⟩
  -- The end of a pause changes flags of the queue at most.
  have resumed (expected : ℕ) (p : MessageQueue) (same : SameQueues q p)
      (accepted : p.isRegistrationStatusAccepted = q.isRegistrationStatusAccepted) :
      SameQueues q (p.resumeNow expected) ∧
        (p.resumeNow expected).isRegistrationStatusAccepted = q.isRegistrationStatusAccepted := by
    unfold resumeNow
    split
    · exact ⟨⟨same.1, same.2, same.3, same.4, same.5⟩, accepted⟩
    · exact ⟨same, accepted⟩
  -- The message in flight is what answers, errors and timeouts are about.
  cases op with
  | dispatchCall call now triggered accepted queueAll =>
    cases moved
    exact .inl ⟨call, now, triggered, accepted, queueAll, rfl, rfl⟩
  | work now sent =>
    obtain ⟨ready, same⟩ := Option.ite_none_right_eq_some.mp moved
    exact .inr (.inl ⟨now, sent, rfl, ready.2.2, ready.1, (Option.some.inj same).symm⟩)
  | receiveCallResult uniqueId =>
    cases moved
    refine .inr (.inr ⟨rfl, { q with nextMessageToSend := none }, ⟨rfl, rfl, rfl, rfl, rfl⟩, ?_,
      fun _ => rfl⟩)
    unfold receiveCallResult
    dsimp only
    split
    · rename_i own
      have none : q.inFlight ≠ none := fun none => by simp [none] at own
      exact .settle none rfl
    · exact .nothing rfl
  -- An error is handled like a timeout, if it is about the message in flight.
  | receiveCallError uniqueId now beyond freshId =>
    refine .inr (.inr ⟨rfl, { q with nextMessageToSend := none }, ⟨rfl, rfl, rfl, rfl, rfl⟩, ?_,
      fun _ => rfl⟩)
    simp only [step, receiveCallError] at moved
    split at moved
    · exact .again now beyond freshId moved
    · exact .nothing (Option.some.inj moved).symm
  | messageTimeout now beyond freshId =>
    exact .inr (.inr ⟨rfl, q, ⟨rfl, rfl, rfl, rfl, rfl⟩, .again now beyond freshId moved,
      fun _ => rfl⟩)
  | pushCallResult uniqueId =>
    cases moved
    refine .inr (.inr ⟨rfl, ?_⟩)
    unfold pushCallResult
    split <;> exact still ⟨rfl, rfl, rfl, rfl, rfl⟩ rfl
  -- A connection changes the pause, and leaves messages alone.
  | resume delayOnReconnect =>
    cases moved
    refine .inr (.inr ⟨rfl, ?_⟩)
    unfold resume
    split
    · exact still ⟨rfl, rfl, rfl, rfl, rfl⟩ rfl
    · dsimp only
      split
      · exact still ⟨rfl, rfl, rfl, rfl, rfl⟩ rfl
      · obtain ⟨same, accepted⟩ := resumed (q.pauseResumeCtr + 1)
          { q with pauseResumeCtr := q.pauseResumeCtr + 1 } ⟨rfl, rfl, rfl, rfl, rfl⟩ rfl
        exact still same accepted
  | resumeTimer =>
    obtain ⟨expected, _, rfl⟩ := Option.map_eq_some_iff.mp moved
    obtain ⟨same, accepted⟩ := resumed expected q ⟨rfl, rfl, rfl, rfl, rfl⟩ rfl
    exact .inr (.inr ⟨rfl, still same accepted⟩)
  | setRegistrationStatusAccepted =>
    exact .inr (.inr ⟨rfl, r, (Option.some.inj moved) ▸ ⟨rfl, rfl, rfl, rfl, rfl⟩, .nothing rfl,
      fun other => absurd rfl other⟩)
  | receiveCall | resetNextMessageToSend | notifyQueueTimer | pause
  | updateTransactionMessageAttempts | updateTransactionMessageRetryInterval =>
    cases moved
    exact .inr (.inr ⟨rfl, still ⟨rfl, rfl, rfl, rfl, rfl⟩ rfl⟩)

/-- Whatever happens moves the line, by no more than what arrives. -/
theorem step_advances {op : Op} (sorted : q.Sorted) (moved : step q op = some r) :
    Advances q op.arrives r := by
  -- Each of the three kinds of steps moves the line in its own way.
  rcases step_cases moved with ⟨call, now, triggered, accepted, queueAll, rfl, rfl⟩ |
    ⟨now, sent, rfl, idle, _, rfl⟩ | ⟨nothing, p, same, answers, _⟩
  · exact dispatchCall_advances sorted
  · exact work_advances sorted idle
  · have before : p.Sorted := ⟨same.transaction ▸ sorted.transaction, same.normal ▸ sorted.normal⟩
    have line : p.line = q.line := by
      simp only [MessageQueue.line, same.transaction, same.inFlight, same.events]
    have after : Advances p [] r := by
      cases answers with
      | nothing same =>
        subst same
        exact ⟨.refl r.line, before⟩
      | settle some same =>
        subst same
        exact settle_advances before
      | again now beyond freshId handled => exact handleTimeoutOrCallerror_advances before handled
    rw [nothing]
    exact ⟨line ▸ after.moves, after.sorted⟩

/-- A run moves the line, by what arrives in it. -/
theorem run_advances {ops : List Op} (sorted : q.Sorted) (ran : run step q ops = some r) :
    Advances q (ops.flatMap Op.arrives) r := by
  -- The line moves step by step, and so does what has arrived.
  induction ops generalizing q with
  | nil =>
    cases ran
    exact ⟨.refl _, sorted⟩
  | cons op ops ih =>
    obtain ⟨next, moved, rest⟩ := Option.bind_eq_some_iff.mp ran
    have first := step_advances sorted moved
    have second := ih first.sorted rest
    exact ⟨.trans first.moves second.moves, second.sorted⟩

/-- In every run what was settled, what is in flight and what waits are the calls that had to be
delivered, in the order in which they were made. Only updates may be missing. -/
theorem delivered_in_order {config : Config} {ops : List Op}
    (ran : run step { config } ops = some q) :
    Fifo.Accounts Call.isSpared (ops.flatMap Op.arrives) q.line := by
  have sorted : Sorted { config } := ⟨by simp, by simp⟩
  -- The line begins empty, and what it accounts for is what arrived in the run.
  exact (run_advances sorted ran).moves.accounts .start

/-- An update is dropped for the calls that come after it, and the first call is in flight. -/
theorem delivered_in_order_dropped : ∃ q,
    run step created [.resume 0, .dispatchCall ⟨"1", .transactionEvent, false⟩ 10 false true false,
      .work 10 true, .dispatchCall ⟨"2", .transactionEvent, true⟩ 11 false true false,
      .dispatchCall ⟨"3", .transactionEvent, false⟩ 12 false true false,
      .dispatchCall ⟨"4", .transactionEvent, true⟩ 13 false true false,
      .dispatchCall ⟨"5", .transactionEvent, false⟩ 14 false true false] = some q ∧
    q.line.taken = some ⟨"1", .transactionEvent, false⟩ ∧
    q.line.waiting = [⟨"3", .transactionEvent, false⟩, ⟨"4", .transactionEvent, true⟩,
      ⟨"5", .transactionEvent, false⟩] ∧
    Fifo.Accounts Call.isSpared [⟨"1", .transactionEvent, false⟩, ⟨"2", .transactionEvent, true⟩,
      ⟨"3", .transactionEvent, false⟩, ⟨"4", .transactionEvent, true⟩,
      ⟨"5", .transactionEvent, false⟩] q.line := by
  have ran : run step created [.resume 0,
      .dispatchCall ⟨"1", .transactionEvent, false⟩ 10 false true false,
      .work 10 true, .dispatchCall ⟨"2", .transactionEvent, true⟩ 11 false true false,
      .dispatchCall ⟨"3", .transactionEvent, false⟩ 12 false true false,
      .dispatchCall ⟨"4", .transactionEvent, true⟩ 13 false true false,
      .dispatchCall ⟨"5", .transactionEvent, false⟩ 14 false true false] = some _ := rfl
  refine ⟨_, ran, ?_, ?_, delivered_in_order ran⟩
  · decide +kernel
  · decide +kernel

end MessageQueue

end EasyEvse.Delivery
