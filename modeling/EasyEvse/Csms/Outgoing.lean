import EasyEvse.Clock.Order
import EasyEvse.Csms.MessageQueue

/-! The outgoing side of the message queue: what is sent next, and what an error does with it. -/

namespace EasyEvse.Csms

open Clock

/-- Messages that have to be delivered, and in their order. -/
def isTransactionMessage (messageType : MessageType) : Bool :=
  messageType = .transactionEvent ∨ messageType = .securityEventNotification

def isBootNotificationMessage (messageType : MessageType) : Bool :=
  messageType = .bootNotification

/-- The configuration of the queue, with all times in seconds. -/
structure MessageQueueConfig where
  transactionMessageAttempts : ℕ
  transactionMessageRetryInterval : ℕ
  queueAllMessages : Bool := false
  messageTypesDiscardForQueueing : List MessageType := []
  bootNotificationRetryIntervalSeconds : ℕ := 5
  deriving DecidableEq, Repr

/-- Whether messages of a type are kept like transaction messages. -/
def MessageQueueConfig.checkQueue (config : MessageQueueConfig) (messageType : MessageType) :
    Bool :=
  config.queueAllMessages ∧ messageType ∉ config.messageTypesDiscardForQueueing

/-- A message of the station that has to be sent. -/
structure ControlMessage where
  uniqueId : String
  messageType : MessageType
  messageAttempts : ℕ := 0
  /-- From when on the message can be sent. -/
  timestamp : DateTime
  stallUntilAccepted : Bool := false
  deriving DecidableEq

/-- Whether a message can be sent at a time, from which on its own time counts. -/
def allowedToSendMessage (message : ControlMessage) (time : DateTime)
    (isRegistrationStatusAccepted : Bool) : Bool :=
  if message.stallUntilAccepted ∧ isRegistrationStatusAccepted = false then false
  else if message.timestamp.gt time.toDateTimeImpl then false
  else true

/-- The queue that a message is taken from. -/
inductive QueueType
  | normal | transaction
  deriving DecidableEq, Repr

/-- The outgoing queues, and what decides whether and what the worker sends. -/
structure OutgoingQueue where
  config : MessageQueueConfig
  transactionMessageQueue : List ControlMessage := []
  normalMessageQueue : List ControlMessage := []
  inFlight : Option ControlMessage := none
  paused : Bool := true
  /-- The queue is paused, and waits for the end of the pause. -/
  resuming : Bool := false
  newMessage : Bool := false
  isRegistrationStatusAccepted : Bool := false
  /-- The call that must be answered before anything else is sent. -/
  nextMessageToSend : Option String := none
  /-- For when the worker was last asked to look at the queues again. -/
  notifyQueueTimer : Option UInt32 := none
  deriving DecidableEq

/-- The message that the worker chooses, and the queue it is in. -/
def selectMessage (now : DateTime) (isRegistrationStatusAccepted : Bool)
    (normalMessageQueue transactionMessageQueue : List ControlMessage) :
    Option (ControlMessage × QueueType) :=
  let allowed := fun message => allowedToSendMessage message now isRegistrationStatusAccepted
  let message := normalMessageQueue.find? allowed
  let isTransactionMessageAvailable := fun msg : ControlMessage =>
    allowed msg && match message with
      | none => true
      -- A boot notification is prioritized, and else the message with the oldest timestamp.
      | some message => message.messageType ≠ .bootNotification &&
          msg.timestamp.le message.timestamp.toDateTimeImpl
  match transactionMessageQueue with
  | msg :: _ =>
    -- Transaction messages keep their order, so that only the first one can be sent.
    if isTransactionMessageAvailable msg then some (msg, .transaction)
    else message.map fun message => (message, .normal)
  | [] => message.map fun message => (message, .normal)

/-- Put a message back in front of its queue, and have it looked at when it can be sent. -/
def OutgoingQueue.requeue (q : OutgoingQueue) (message : ControlMessage) : OutgoingQueue :=
  let q :=
    if isTransactionMessage message.messageType then
      { q with transactionMessageQueue := message :: q.transactionMessageQueue }
    else { q with normalMessageQueue := message :: q.normalMessageQueue }
  { q with notifyQueueTimer := some message.timestamp.toTimePointS }

/--
A timeout or an error for the message in flight, which is looked up without a check.

The clock is read anew, and a message that is sent again gets a fresh identifier.
-/
def OutgoingQueue.handleTimeoutOrCallerror (now : UInt32) (beyond : ℕ) (freshId : String)
    (q : OutgoingQueue) : Option OutgoingQueue :=
  q.inFlight.map fun message =>
    let interval := q.config.transactionMessageRetryInterval
    let q :=
      if isTransactionMessage message.messageType ∨ q.config.checkQueue message.messageType then
        if message.messageAttempts < q.config.transactionMessageAttempts then
          let timestamp :=
            -- The sum is handed to the constructor that leaves it aside.
            if interval > 0 then
              DateTime.ofTimepoint now
                (message.timestamp.timepoint.add beyond (interval * message.messageAttempts))
            else DateTime.now now
          q.requeue { message with uniqueId := freshId, timestamp }
        else q
      else if isBootNotificationMessage message.messageType then
        let timestamp := DateTime.ofTimepoint now
          (message.timestamp.timepoint.add beyond q.config.bootNotificationRetryIntervalSeconds)
        q.requeue { message with uniqueId := freshId, timestamp }
      else q
    { q with inFlight := none }

/-- Take a new call of the station, unless the queue is paused and does not keep such calls. -/
def OutgoingQueue.pushCall (message : ControlMessage) (q : OutgoingQueue) : OutgoingQueue :=
  if isTransactionMessage message.messageType then
    { q with
      transactionMessageQueue := q.transactionMessageQueue ++ [message], newMessage := true }
  else if q.paused = false ∨ q.resuming ∨ q.config.checkQueue message.messageType ∨
      message.messageType = .bootNotification then
    -- A boot notification jumps the queue.
    { q with
      normalMessageQueue :=
        if message.messageType = .bootNotification then message :: q.normalMessageQueue
        else q.normalMessageQueue ++ [message]
      newMessage := true }
  else q

/-- What became of a look at the queues. -/
inductive Attempt
  | nothing
  | failed
  | sent (message : ControlMessage)
  deriving DecidableEq

/-- One attempt more to send a message. -/
def ControlMessage.attempt (message : ControlMessage) : ControlMessage :=
  { message with messageAttempts := message.messageAttempts + 1 }

/-- What was sent is in flight, and no longer in its queue. -/
def OutgoingQueue.takeOut (allowed : ControlMessage → Bool) (message : ControlMessage)
    (queueType : QueueType) (q : OutgoingQueue) : OutgoingQueue :=
  match queueType with
  | .normal =>
    { q with
      normalMessageQueue := q.normalMessageQueue.eraseP allowed, inFlight := some message.attempt }
  | .transaction =>
    { q with
      transactionMessageQueue := q.transactionMessageQueue.tail, inFlight := some message.attempt }

/-- What could not be sent stays where it is or is dropped, and nothing is sent for now. -/
def OutgoingQueue.couldNotSend (allowed : ControlMessage → Bool) (message : ControlMessage)
    (queueType : QueueType) (q : OutgoingQueue) : OutgoingQueue :=
  match queueType with
  | .transaction =>
    { q with
      paused := true
      transactionMessageQueue := q.transactionMessageQueue.modify 0 ControlMessage.attempt }
  | .normal =>
    { q with
      paused := true
      normalMessageQueue :=
        if isTransactionMessage message.messageType ∨ q.config.checkQueue message.messageType then
          q.normalMessageQueue.modify (q.normalMessageQueue.findIdx allowed) ControlMessage.attempt
        -- What is dropped is the front of the queue, whichever message that is.
        else q.normalMessageQueue.tail }

/-- Without anything left to send, the worker waits for a new message. -/
def OutgoingQueue.checkEmpty (q : OutgoingQueue) : OutgoingQueue :=
  if q.transactionMessageQueue = [] ∧ q.normalMessageQueue = [] then { q with newMessage := false }
  else q

/-- The worker looks at the queues when nothing is in flight, and sends what it finds. -/
def OutgoingQueue.work (now : UInt32) (sent : Bool) (q : OutgoingQueue) :
    OutgoingQueue × Attempt :=
  let allowed := fun message =>
    allowedToSendMessage message (DateTime.now now) q.isRegistrationStatusAccepted
  if q.transactionMessageQueue = [] ∧ q.normalMessageQueue = [] then (q, .nothing)
  else match selectMessage (DateTime.now now) q.isRegistrationStatusAccepted q.normalMessageQueue
      q.transactionMessageQueue with
  | none => ({ q with newMessage := false }, .nothing)
  | some (message, queueType) =>
    -- A call that waits for its answer holds everything else back.
    if q.nextMessageToSend ≠ none ∧ q.nextMessageToSend ≠ some message.uniqueId then (q, .nothing)
    else if sent then ((q.takeOut allowed message queueType).checkEmpty, .sent message.attempt)
    else ((q.couldNotSend allowed message queueType).checkEmpty, .failed)

namespace OutgoingQueue

variable {allowed : ControlMessage → Bool} {message : ControlMessage} {queueType : QueueType}
  {q : OutgoingQueue}

@[simp] theorem takeOut_inFlight :
    (q.takeOut allowed message queueType).inFlight = some message.attempt := by
  cases queueType <;> rfl

@[simp] theorem couldNotSend_inFlight :
    (q.couldNotSend allowed message queueType).inFlight = q.inFlight := by
  cases queueType <;> rfl

@[simp] theorem checkEmpty_inFlight : q.checkEmpty.inFlight = q.inFlight := by
  unfold checkEmpty
  split_ifs <;> rfl

/-- A call that is taken is not in flight yet. -/
@[simp] theorem pushCall_inFlight : (q.pushCall message).inFlight = q.inFlight := by
  unfold pushCall
  split_ifs <;> rfl

/-- A message is in flight from when the worker has sent it. -/
theorem work_inFlight (now : UInt32) (sent : Bool) (q : OutgoingQueue) :
    (q.work now sent).1.inFlight = match (q.work now sent).2 with
      | .sent message => some message
      | .nothing | .failed => q.inFlight := by
  -- The worker finds nothing, is held back, or tries to send what it has chosen.
  by_cases empty : q.transactionMessageQueue = [] ∧ q.normalMessageQueue = []
  · simp [work, empty]
  · rcases selected : selectMessage (DateTime.now now) q.isRegistrationStatusAccepted
        q.normalMessageQueue q.transactionMessageQueue with _ | ⟨message, queueType⟩
    · simp [work, empty, selected]
    · simp only [work, empty, selected, if_false]
      split_ifs <;> simp

end OutgoingQueue

section Selection

variable {now : DateTime} {accepted : Bool} {normal transaction : List ControlMessage}
  {message msg : ControlMessage}

/-- Against a normal message, an allowed transaction message is always chosen. -/
theorem selectMessage_transaction
    (found : normal.find? (fun m => allowedToSendMessage m now accepted) = some message)
    (other : message.messageType ≠ .bootNotification)
    (allowed : allowedToSendMessage msg now accepted = true) :
    selectMessage now accepted normal (msg :: transaction) = some (msg, .transaction) := by
  simp [selectMessage, found, other, allowed, DateTimeImpl.le]

/-- Of two messages, the worker chooses the transaction message exactly if it is not later. -/
def OldestFirst (now : DateTime) (accepted : Bool) (normal transaction : List ControlMessage)
    (message msg : ControlMessage) : Prop :=
  selectMessage now accepted normal transaction = some (msg, .transaction) ↔
    msg.timestamp.toTimePointS ≤ message.timestamp.toTimePointS

/--
The five comparisons are those of the timestamps exactly for equal timestamps, and the choice among
two messages is the one by their timestamps exactly if the transaction message is not the later one.
-/
theorem comparisons_and_selection_iff (t₁ t₂ : UInt32) (now : DateTime) (accepted : Bool)
    (normal transaction : List ControlMessage) (message msg : ControlMessage) :
    ((DateTime.now t₁).Agree (DateTime.now t₂) ↔ t₁ = t₂) ∧
    (normal.find? (fun m => allowedToSendMessage m now accepted) = some message →
      message.messageType ≠ .bootNotification →
      transaction.head? = some msg → allowedToSendMessage msg now accepted = true →
      (OldestFirst now accepted normal transaction message msg ↔
        msg.timestamp.toTimePointS ≤ message.timestamp.toTimePointS)) := by
  refine ⟨DateTime.agree_iff, fun found other first allowed => ?_⟩
  -- The transaction message is chosen in any case, so the timestamps alone decide.
  obtain ⟨later, rfl⟩ := List.head?_eq_some_iff.mp first
  rw [OldestFirst, iff_true_left (selectMessage_transaction found other allowed)]

/-- A message with nothing but a type and a time. -/
def messageAt (messageType : MessageType) (unixTime : UInt32) : ControlMessage :=
  { uniqueId := "", messageType, timestamp := DateTime.now unixTime }

/-- A transaction message that is older than a heartbeat is sent before it. -/
theorem comparisons_and_selection_iff_older :
    OldestFirst (DateTime.now 30) true [messageAt .heartbeat 20] [messageAt .transactionEvent 10]
      (messageAt .heartbeat 20) (messageAt .transactionEvent 10) :=
  ((comparisons_and_selection_iff 10 20 (DateTime.now 30) true [messageAt .heartbeat 20]
    [messageAt .transactionEvent 10] (messageAt .heartbeat 20) (messageAt .transactionEvent 10)).2
    (by decide +kernel) (by decide) rfl (by decide +kernel)).mpr (by decide)

/-- A transaction message that is later than a heartbeat is sent before it as well. -/
theorem later_message_first :
    (DateTime.now 20).le (DateTime.now 10).toDateTimeImpl = true ∧
    ¬ (DateTime.now 20).Agree (DateTime.now 10) ∧
    selectMessage (DateTime.now 30) true [messageAt .heartbeat 10]
      [messageAt .transactionEvent 20] = some (messageAt .transactionEvent 20, .transaction) ∧
    ¬ OldestFirst (DateTime.now 30) true [messageAt .heartbeat 10] [messageAt .transactionEvent 20]
      (messageAt .heartbeat 10) (messageAt .transactionEvent 20) := by
  have chosen : selectMessage (DateTime.now 30) true [messageAt .heartbeat 10]
      [messageAt .transactionEvent 20] = some (messageAt .transactionEvent 20, .transaction) := by
    decide +kernel
  exact ⟨rfl, fun agree => absurd agree.2.2.1 (by decide), chosen,
    fun oldest => absurd (oldest.mp chosen) (by decide)⟩

end Selection

end EasyEvse.Csms
