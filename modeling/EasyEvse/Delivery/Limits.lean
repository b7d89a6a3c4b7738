import EasyEvse.Delivery.Order

/-! How many messages can pile up, and when the queue is so full that nothing is sent any more. -/

namespace EasyEvse.Delivery

open Clock Csms Transition

/-- The call is about the start or the end of a transaction, or about security. -/
def Call.mustKeep (call : Call) : Bool := call.isTransaction && call.isSpared

namespace MessageQueue

variable {q r : MessageQueue} {message : QueuedMessage} {queueType : QueueType} {threshold : ℕ}
  {allowed : QueuedMessage → Bool} {now : UInt32} {beyond : ℕ} {freshId : String}

/-- What waits or is in flight. -/
def load (q : MessageQueue) : ℕ := q.size + q.inFlight.toList.length

/-- How much of what waits or is in flight must be kept. -/
def kept (q : MessageQueue) : ℕ :=
  ((q.inFlight.toList ++ q.transactionMessageQueue).map QueuedMessage.call).countP Call.mustKeep

/-- There is not much more than there is room for, unless it must be kept. -/
structure Bounded (threshold : ℕ) (q : MessageQueue) : Prop where
  sorted : q.Sorted
  config : q.config.queuesTotalSizeThreshold = threshold
  small : q.load ≤ max (threshold + 1) (q.kept + 3)

/-- In a sorted queue, what is spared must be kept. -/
theorem Sorted.length_spared_le (sorted : q.Sorted) :
    (q.transactionMessageQueue.filter spared).length ≤ q.kept := by
  -- In its queue a message is about transactions or security, so being spared decides.
  have same : q.transactionMessageQueue.countP spared =
      (q.transactionMessageQueue.map QueuedMessage.call).countP Call.mustKeep := by
    rw [List.countP_map]
    refine List.countP_congr fun message member => ?_
    simp only [Call.mustKeep, Function.comp_apply, sorted.transaction message member,
      Bool.true_and]
    exact Iff.rfl
  rw [← List.countP_eq_length_filter, same, kept, List.map_append, List.countP_append]
  exact Nat.le_add_left _ _

/-- After the sizes were checked there are not too many messages, whatever there was before. -/
theorem Checked.bounded (checked : Checked q r) (sorted : r.Sorted)
    (config : q.config.queuesTotalSizeThreshold = threshold) : Bounded threshold r := by
  have limit : r.config.queuesTotalSizeThreshold = threshold := checked.rest.config ▸ config
  refine ⟨sorted, limit, ?_⟩
  -- The message in flight is the one above the threshold.
  have flight : r.inFlight.toList.length ≤ 1 := Option.length_toList_le
  unfold load
  rcases checked.enough with room | ⟨empty, none⟩
  · exact le_max_of_le_left (by omega)
  · -- Without normal messages, what waits must be kept, or stands at the very end.
    have few := none.length_le
    have size : r.size = r.transactionMessageQueue.length := by simp [size, empty]
    have some := sorted.length_spared_le
    exact le_max_of_le_right (by omega)

/-- A queue with no more messages, of which no less must be kept, stays bounded. -/
theorem Bounded.of_le (bounded : q.Bounded threshold) (sorted : r.Sorted)
    (config : r.config.queuesTotalSizeThreshold = q.config.queuesTotalSizeThreshold)
    (fewer : r.load + (q.kept - r.kept) ≤ q.load) : Bounded threshold r := by
  refine ⟨sorted, config.trans bounded.config, ?_⟩
  -- A message less that must be kept is made up for by one that is gone.
  rcases le_max_iff.mp bounded.small with room | must
  · exact le_max_of_le_left (by omega)
  · exact le_max_of_le_right (by omega)

/-- A call that is taken is followed by a check of the sizes. -/
theorem pushCall_bounded (bounded : q.Bounded threshold) :
    Bounded threshold (q.pushCall message) := by
  have sorted : (q.pushCall message).Sorted := (pushCall_advances bounded.sorted).sorted
  unfold pushCall at sorted ⊢
  -- Each queue is checked as soon as something was put in it.
  split
  · rename_i kind
    rw [if_pos kind] at sorted
    exact (checkQueueSizes_checked _).bounded sorted bounded.config
  · rename_i kind
    rw [if_neg kind] at sorted
    split
    · rename_i queued
      rw [if_pos queued] at sorted
      exact (checkQueueSizes_checked _).bounded sorted bounded.config
    · exact bounded

/-- What the worker takes out of its queue is in flight. -/
theorem takeOut_bounded (bounded : q.Bounded threshold) (idle : q.inFlight = none)
    (place : (queueType = .transaction ∧ ∃ rest, q.transactionMessageQueue = message :: rest) ∨
      (queueType = .normal ∧ q.normalMessageQueue.find? allowed = some message)) :
    Bounded threshold (q.takeOut allowed message queueType) := by
  refine bounded.of_le (takeOut_advances bounded.sorted idle ?_).sorted rfl ?_
  · exact place.imp_right fun found => ⟨found.1, List.mem_of_find?_eq_some found.2⟩
  -- The message is counted where it waited before, and where it is in flight now.
  · have same : message.attempt.call = message.call := rfl
    rcases place with ⟨rfl, rest, front⟩ | ⟨rfl, found⟩
    · have kept : (q.takeOut allowed message .transaction).kept = q.kept := by
        simp [kept, takeOut, idle, front, same]
      have load : (q.takeOut allowed message .transaction).load = q.load := by
        simp [load, size, takeOut, idle, front]
        omega
      omega
    · -- A normal message is not one that must be kept.
      have member := List.mem_of_find?_eq_some found
      have other : message.call.mustKeep = false := by
        simp [Call.mustKeep, bounded.sorted.normal message member]
      have kept : (q.takeOut allowed message .normal).kept = q.kept := by
        simp [kept, takeOut, idle, same, other]
      have load : (q.takeOut allowed message .normal).load = q.load := by
        have less := List.length_eraseP_of_mem member (List.find?_some found)
        have positive := List.length_pos_of_mem member
        simp [load, size, takeOut, idle, less]
        omega
      omega

/-- What could not be sent is no more than there was, and as much of it must be kept. -/
theorem couldNotSend_load (allowed : QueuedMessage → Bool) (message : QueuedMessage)
    (queueType : QueueType) (q : MessageQueue) :
    (q.couldNotSend allowed message queueType).config = q.config ∧
      (q.couldNotSend allowed message queueType).load ≤ q.load ∧
      (q.couldNotSend allowed message queueType).kept = q.kept := by
  unfold couldNotSend
  -- A failed attempt is counted, or the first of the other messages is given up.
  split
  · simp [load, size, kept, calls_failedAttempt]
  · split
    · simp [load, size, kept]
    · refine ⟨rfl, ?_, rfl⟩
      simp only [load, size, List.length_tail]
      omega

/-- The worker takes nothing into the queues. -/
theorem work_bounded {sent : Bool} (bounded : q.Bounded threshold) (idle : q.inFlight = none) :
    Bounded threshold (q.work now sent) := by
  -- Only a message that is taken out or could not be sent changes the sizes.
  have empty {r : MessageQueue} (still : Bounded threshold r) :
      Bounded threshold r.checkEmpty := by
    unfold checkEmpty
    split
    · exact ⟨⟨still.sorted.1, still.sorted.2⟩, still.config, still.small⟩
    · exact still
  unfold work
  split
  · exact bounded
  · split
    · exact ⟨⟨bounded.sorted.1, bounded.sorted.2⟩, bounded.config, bounded.small⟩
    · rename_i message queueType chosen
      split
      · exact bounded
      · split
        · exact empty (takeOut_bounded bounded idle (selectMessage_cases chosen))
        · obtain ⟨config, load, kept⟩ :=
            couldNotSend_load (q.isAllowed (DateTime.now now)) message queueType q
          have sorted :
              (couldNotSend (q.isAllowed (DateTime.now now)) message queueType q).Sorted :=
            (couldNotSend_advances bounded.sorted).sorted
          refine empty (bounded.of_le sorted (by rw [config]) ?_)
          rw [kept]
          omega

/-- What is settled is no longer in flight. -/
theorem settle_bounded (bounded : q.Bounded threshold) : Bounded threshold q.settle := by
  refine bounded.of_le (settle_advances bounded.sorted).sorted rfl ?_
  -- With nothing in flight there is nothing to settle.
  cases flight : q.inFlight with
  | none => simp [load, size, kept, settle, flight]
  | some message =>
    -- One message less has to be kept, if at all.
    have one : q.kept ≤ q.settle.kept + 1 := by
      simp only [kept, settle, flight, Option.toList_some, Option.toList_none, List.nil_append,
        List.cons_append, List.map_cons, List.countP_cons]
      split <;> omega
    have load : q.load = q.settle.load + 1 := by simp [load, size, settle, flight]
    omega

/-- A message that is put back waits instead of being in flight. -/
theorem requeue_bounded {retried : QueuedMessage} (bounded : q.Bounded threshold)
    (flight : q.inFlight = some message) (same : retried.call = message.call) :
    Bounded threshold (q.requeue retried) := by
  have sorted := (requeue_advances bounded.sorted flight same).sorted
  -- A message goes back to the queue for its type, and counts as it did in flight.
  cases kind : retried.call.isTransaction with
  | true =>
    have related : isTransactionMessage retried.messageType = true := kind
    rw [requeue, if_pos related] at sorted ⊢
    refine bounded.of_le sorted rfl ?_
    simp [load, size, kept, flight, same]
    omega
  | false =>
    have other : ¬ isTransactionMessage retried.messageType = true :=
      Bool.eq_false_iff.mp kind
    have light : message.call.mustKeep = false := by simp [Call.mustKeep, ← same, kind]
    rw [requeue, if_neg other] at sorted ⊢
    refine bounded.of_le sorted rfl ?_
    simp [load, size, kept, flight, light]
    omega

/-- A timeout or an error adds no message. -/
theorem handleTimeoutOrCallerror_bounded (bounded : q.Bounded threshold)
    (handled : q.handleTimeoutOrCallerror now beyond freshId = some r) : Bounded threshold r := by
  obtain ⟨message, flight, rfl⟩ := Option.map_eq_some_iff.mp handled
  -- A message that may be tried again goes back, and any other is settled.
  split
  · exact requeue_bounded bounded flight rfl
  · exact settle_bounded bounded

/-- A call adds no more than there is room for. -/
theorem dispatchCall_bounded {call : Call} {triggered accepted queueAll : Bool}
    (bounded : q.Bounded threshold) :
    Bounded threshold (q.dispatchCall call now triggered accepted queueAll) := by
  unfold dispatchCall
  split
  · exact pushCall_bounded bounded
  · exact pushCall_bounded bounded
  · exact bounded

/-- Whatever happens, there are not too many messages. -/
theorem step_bounded {op : Op} (bounded : q.Bounded threshold) (moved : step q op = some r) :
    Bounded threshold r := by
  -- Only a call adds a message, and it is followed by a check of the sizes.
  rcases step_cases moved with ⟨call, now, triggered, accepted, queueAll, rfl, rfl⟩ |
    ⟨now, sent, rfl, idle, _, rfl⟩ | ⟨_, p, same, answers, _⟩
  · exact dispatchCall_bounded bounded
  · exact work_bounded bounded idle
  · have sorted : p.Sorted := ⟨same.transaction ▸ bounded.sorted.transaction,
      same.normal ▸ bounded.sorted.normal⟩
    have before : Bounded threshold p := by
      refine bounded.of_le sorted same.threshold ?_
      simp only [load, size, kept, same.transaction, same.normal, same.inFlight]
      omega
    cases answers with
    | nothing same => exact same ▸ before
    | settle some same => exact same ▸ settle_bounded before
    | again now beyond freshId handled => exact handleTimeoutOrCallerror_bounded before handled

/-- In every run at most one message more waits or is in flight than there is room for, unless all
but three of those that wait or are in flight must be kept. -/
theorem size_le {config : Config} {ops : List Op} (ran : run step { config } ops = some q) :
    q.load ≤ max (config.queuesTotalSizeThreshold + 1) (q.kept + 3) := by
  -- The run begins with nothing in the queues or in flight.
  have start : Bounded config.queuesTotalSizeThreshold { config } :=
    ⟨⟨by simp, by simp⟩, rfl, by simp [load, size]⟩
  exact (run_invariant step_bounded start ran).small

/-- Four updates and a call for something else, of which there is room for three. -/
theorem size_le_updates : ∃ q,
    run step created [.dispatchCall ⟨"1", .transactionEvent, true⟩ 10 false true false,
      .dispatchCall ⟨"2", .transactionEvent, true⟩ 10 false true false,
      .dispatchCall ⟨"3", .transactionEvent, true⟩ 10 false true false,
      .dispatchCall ⟨"4", .transactionEvent, true⟩ 10 false true false,
      .dispatchCall ⟨"5", .bootNotification, false⟩ 10 false true false] = some q ∧
    q.kept = 0 ∧ q.load ≤ max 4 (q.kept + 3) := by
  have ran : run step created [.dispatchCall ⟨"1", .transactionEvent, true⟩ 10 false true false,
      .dispatchCall ⟨"2", .transactionEvent, true⟩ 10 false true false,
      .dispatchCall ⟨"3", .transactionEvent, true⟩ 10 false true false,
      .dispatchCall ⟨"4", .transactionEvent, true⟩ 10 false true false,
      .dispatchCall ⟨"5", .bootNotification, false⟩ 10 false true false] = some _ := rfl
  exact ⟨_, ran, by decide +kernel, size_le ran⟩

end MessageQueue

end EasyEvse.Delivery
