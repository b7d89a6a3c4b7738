import EasyEvse.Delivery.MessageQueue

/-! What is dropped when there are too many messages, and what is not. -/

namespace EasyEvse.Delivery

open Csms

namespace MessageQueue

variable {q : MessageQueue} {l : List QueuedMessage} {remove : Bool}

/-- What is never dropped from the transaction queue. -/
def spared (message : QueuedMessage) : Bool := !message.isTransactionUpdateMessage

/-- What a queue keeps is in the order it was. -/
theorem thin_sublist (remove : Bool) (l : List QueuedMessage) : (thin remove l).1.Sublist l := by
  -- The list is gone through once, with or without the next update being dropped.
  induction l generalizing remove with
  | nil => exact .slnil
  | cons element rest ih =>
    unfold thin
    split
    · exact (ih false).cons element
    · exact (ih true).cons_cons element

/-- The start and the end of a transaction are kept. -/
theorem filter_spared_thin (remove : Bool) (l : List QueuedMessage) :
    (thin remove l).1.filter spared = l.filter spared := by
  -- Only updates are dropped, which are not spared.
  induction l generalizing remove with
  | nil => rfl
  | cons element rest ih =>
    unfold thin
    split
    · rename_i removed
      have update : element.isTransactionUpdateMessage = true := by
        simp only [Bool.and_eq_true] at removed
        exact removed.1.2
      rw [ih false, List.filter_cons_of_neg (by simp [spared, update])]
    · rw [List.filter_cons, List.filter_cons, ih true]

/-- There is no update among what does not stand at the very end. -/
def NoneToDrop (l : List QueuedMessage) : Prop :=
  ∀ message ∈ l.take (l.length - 2), message.isTransactionUpdateMessage = false

/-- Nothing is dropped exactly if there is no update to drop. -/
theorem thin_eq_nil_iff : (thin true l).2 = [] ↔ NoneToDrop l := by
  -- An element that is not one of the last two is dropped if it is an update.
  induction l with
  | nil => simp [thin, NoneToDrop]
  | cons element rest ih =>
    have taken : (element :: rest).take (rest.length + 1 - 2) =
        if 1 < rest.length then element :: rest.take (rest.length - 2) else [] := by
      split
      · rw [show rest.length + 1 - 2 = (rest.length - 2) + 1 by omega, List.take_succ_cons]
      · rw [show rest.length + 1 - 2 = 0 by omega, List.take_zero]
    have short (few : ¬ 1 < rest.length) : rest.take (rest.length - 2) = [] := by
      rw [show rest.length - 2 = 0 by omega, List.take_zero]
    unfold thin NoneToDrop
    rw [List.length_cons, taken]
    unfold NoneToDrop at ih
    by_cases long : 1 < rest.length
    -- An update that stands far enough from the end is dropped here.
    · cases update : element.isTransactionUpdateMessage with
      | true => simp [long, update]
      | false => simp [long, update, ih]
    · simp only [long, decide_false, Bool.and_false, Bool.false_eq_true, if_false]
      rw [ih, short long]

/-- A queue in which nothing can be dropped has few updates. -/
theorem NoneToDrop.length_le (none : NoneToDrop l) : l.length ≤ (l.filter spared).length + 2 := by
  -- What stands before the last two messages is all spared.
  have front : (l.take (l.length - 2)).filter spared = l.take (l.length - 2) :=
    List.filter_eq_self.mpr fun message member => by simp [spared, none message member]
  calc l.length ≤ (l.take (l.length - 2)).length + 2 := by rw [List.length_take]; omega
    _ = ((l.take (l.length - 2)).filter spared).length + 2 := by rw [front]
    _ ≤ (l.filter spared).length + 2 :=
      Nat.add_le_add_right ((List.take_sublist _ l).filter spared).length_le 2

/-- Everything but the queues and what is told of them stays as it is. -/
structure KeepsRest (q r : MessageQueue) : Prop where
  config : r.config = q.config
  inFlight : r.inFlight = q.inFlight
  paused : r.paused = q.paused
  resuming : r.resuming = q.resuming
  newMessage : r.newMessage = q.newMessage
  accepted : r.isRegistrationStatusAccepted = q.isRegistrationStatusAccepted
  nextMessageToSend : r.nextMessageToSend = q.nextMessageToSend
  notifyQueueTimer : r.notifyQueueTimer = q.notifyQueueTimer
  pauseResumeCtr : r.pauseResumeCtr = q.pauseResumeCtr
  resumeTimer : r.resumeTimer = q.resumeTimer
  events : ∃ dropped : List QueuedMessage,
    r.events = q.events ++ dropped.map fun m => Event.dropped m.call

theorem KeepsRest.refl (q : MessageQueue) : KeepsRest q q :=
  ⟨rfl, rfl, rfl, rfl, rfl, rfl, rfl, rfl, rfl, rfl, [], by simp⟩

theorem KeepsRest.trans {q r t : MessageQueue} (first : KeepsRest q r) (second : KeepsRest r t) :
    KeepsRest q t := by
  obtain ⟨dropped, told⟩ := first.events
  obtain ⟨more, tells⟩ := second.events
  exact ⟨second.config.trans first.config, second.inFlight.trans first.inFlight,
    second.paused.trans first.paused, second.resuming.trans first.resuming,
    second.newMessage.trans first.newMessage, second.accepted.trans first.accepted,
    second.nextMessageToSend.trans first.nextMessageToSend,
    second.notifyQueueTimer.trans first.notifyQueueTimer,
    second.pauseResumeCtr.trans first.pauseResumeCtr, second.resumeTimer.trans first.resumeTimer,
    dropped ++ more, by rw [tells, told, List.map_append, List.append_assoc]⟩

/-- What the first loop leaves: a part of the normal queue, and none of it if there is too much. -/
structure ShrunkNormal (q r : MessageQueue) : Prop where
  rest : KeepsRest q r
  transaction : r.transactionMessageQueue = q.transactionMessageQueue
  suffix : r.normalMessageQueue <:+ q.normalMessageQueue
  enough : r.size ≤ r.config.queuesTotalSizeThreshold ∨ r.normalMessageQueue = []

/-- The first loop drops the oldest normal messages. -/
theorem shrinkNormal_shrinks (q : MessageQueue) : ShrunkNormal q q.shrinkNormal := by
  -- One round after the other, each of which drops something.
  induction q using shrinkNormal.induct with
  | case1 q exceeds ih =>
    rw [shrinkNormal, if_pos exceeds]
    have one : KeepsRest q q.dropMessagesFromNormalMessageQueue :=
      ⟨rfl, rfl, rfl, rfl, rfl, rfl, rfl, rfl, rfl, rfl, _, rfl⟩
    exact ⟨one.trans ih.rest, ih.transaction, ih.suffix.trans (List.drop_suffix _ _), ih.enough⟩
  | case2 q ends =>
    rw [shrinkNormal, if_neg ends]
    refine ⟨.refl q, rfl, List.suffix_rfl, ?_⟩
    by_cases exceeds : q.config.queuesTotalSizeThreshold < q.size
    · exact .inr (not_not.mp fun some => ends ⟨exceeds, some⟩)
    · exact .inl (not_lt.mp exceeds)

/-- What the second loop leaves: the normal queue, and updates only as far as there is room. -/
structure ShrunkTransaction (q r : MessageQueue) : Prop where
  rest : KeepsRest q r
  normal : r.normalMessageQueue = q.normalMessageQueue
  sublist : r.transactionMessageQueue.Sublist q.transactionMessageQueue
  same : r.transactionMessageQueue.filter spared = q.transactionMessageQueue.filter spared
  enough : r.size ≤ r.config.queuesTotalSizeThreshold ∨ NoneToDrop r.transactionMessageQueue
  needed : q.size ≤ q.config.queuesTotalSizeThreshold → r = q

/-- The second loop drops updates. -/
theorem shrinkTransaction_shrinks (q : MessageQueue) :
    ShrunkTransaction q q.shrinkTransaction := by
  -- Each round drops updates, until there is room or a round finds none.
  induction q using shrinkTransaction.induct with
  | case1 q exceeds ih =>
    rw [shrinkTransaction, if_pos exceeds]
    have one : KeepsRest q q.dropUpdateMessagesFromTransactionalMessageQueue.1 :=
      ⟨rfl, rfl, rfl, rfl, rfl, rfl, rfl, rfl, rfl, rfl, _, rfl⟩
    exact ⟨one.trans ih.rest, ih.normal, ih.sublist.trans (thin_sublist _ _),
      ih.same.trans (filter_spared_thin _ _), ih.enough,
      fun few => absurd few (not_le.mpr exceeds.1)⟩
  | case2 q ends =>
    rw [shrinkTransaction, if_neg ends]
    refine ⟨.refl q, rfl, .refl _, rfl, ?_, fun _ => rfl⟩
    -- The loop ended either for there being room or for want of updates.
    by_cases exceeds : q.config.queuesTotalSizeThreshold < q.size
    · refine .inr (thin_eq_nil_iff.mp (not_not.mp fun some => ends ⟨exceeds, ?_⟩))
      exact decide_eq_true some
    · exact .inl (not_lt.mp exceeds)

/-- What is left when the sizes were checked. -/
structure Checked (q r : MessageQueue) : Prop where
  rest : KeepsRest q r
  /-- Of the normal messages the oldest are dropped first. -/
  suffix : r.normalMessageQueue <:+ q.normalMessageQueue
  /-- Of the transaction messages only updates are dropped. -/
  sublist : r.transactionMessageQueue.Sublist q.transactionMessageQueue
  same : r.transactionMessageQueue.filter spared = q.transactionMessageQueue.filter spared
  /-- There is room again, or nothing is left that may be dropped. -/
  enough : r.size ≤ r.config.queuesTotalSizeThreshold ∨
    r.normalMessageQueue = [] ∧ NoneToDrop r.transactionMessageQueue
  /-- An update is dropped only after all normal messages were. -/
  last : r.transactionMessageQueue ≠ q.transactionMessageQueue → r.normalMessageQueue = []
  /-- Nothing is dropped as long as there is room. -/
  needed : q.size ≤ q.config.queuesTotalSizeThreshold → r = q

/-- Checking the sizes drops normal messages before updates, and no other transaction messages. -/
theorem checkQueueSizes_checked (q : MessageQueue) : Checked q q.checkQueueSizes := by
  unfold checkQueueSizes
  split
  · rename_i few
    exact ⟨.refl q, List.suffix_rfl, .refl _, rfl, .inl few, fun changed => absurd rfl changed,
      fun _ => rfl⟩
  · rename_i many
    have first := shrinkNormal_shrinks q
    have second := shrinkTransaction_shrinks q.shrinkNormal
    refine ⟨first.rest.trans second.rest, second.normal ▸ first.suffix,
      first.transaction ▸ second.sublist, first.transaction ▸ second.same, ?_, ?_,
      fun few => absurd few many⟩
    · -- The second loop changes nothing if the first one has made room.
      rcases first.enough with room | empty
      · rw [second.needed room]
        exact .inl room
      · exact second.enough.imp_right fun none => ⟨second.normal.trans empty, none⟩
    · intro changed
      rcases first.enough with room | empty
      · rw [second.needed room, first.transaction] at changed
        exact absurd rfl changed
      · exact second.normal.trans empty

end MessageQueue

end EasyEvse.Delivery
