import EasyEvse.Csms.Outgoing
import EasyEvse.Transition.Run

/-! The message queue with its limit on the sizes, its pauses, and what becomes of every call. -/

namespace EasyEvse.Delivery

open Clock Csms Transition

/-- The configuration of the queue, with the size from which on it drops messages. -/
structure Config extends MessageQueueConfig where
  queuesTotalSizeThreshold : ℕ
  deriving DecidableEq

/-- A call of the station. That of a transaction event may be for an update. -/
structure Call where
  uniqueId : String
  messageType : MessageType
  isUpdated : Bool := false
  deriving DecidableEq

/-- Calls that are about a transaction or about security, and have to be delivered. -/
def Call.isTransaction (call : Call) : Bool := isTransactionMessage call.messageType

/-- A call about a transaction that is neither its start nor its end. -/
def Call.isTransactionUpdate (call : Call) : Bool :=
  call.messageType = .transactionEvent && call.isUpdated

/-- A queued message, with its first identifier and what its payload says. -/
structure QueuedMessage extends ControlMessage where
  initialUniqueId : String
  isUpdated : Bool := false
  offline : Bool := false
  deriving DecidableEq

/-- The call that a message was made for, however often it was sent since. -/
def QueuedMessage.call (message : QueuedMessage) : Call :=
  { uniqueId := message.initialUniqueId
    messageType := message.messageType
    isUpdated := message.isUpdated }

/-- A message with measurements for a transaction. -/
def QueuedMessage.isTransactionUpdateMessage (message : QueuedMessage) : Bool :=
  message.messageType = .transactionEvent && message.isUpdated

/-- The message of a call, which can be sent from now on. -/
def QueuedMessage.ofCall (call : Call) (stallUntilAccepted : Bool) (now : UInt32) :
    QueuedMessage :=
  { uniqueId := call.uniqueId
    messageType := call.messageType
    timestamp := DateTime.now now
    stallUntilAccepted
    initialUniqueId := call.uniqueId
    isUpdated := call.isUpdated }

/-- One attempt more to send a message. -/
def QueuedMessage.attempt (message : QueuedMessage) : QueuedMessage :=
  { message with messageAttempts := message.messageAttempts + 1 }

/-- One attempt more that failed, which is told with the payload of a transaction event. -/
def QueuedMessage.failedAttempt (message : QueuedMessage) : QueuedMessage :=
  { message.attempt with
    offline := message.offline || message.messageType = .transactionEvent }

/-- What the queue tells about a message. -/
inductive Event
  | sent (call : Call)
  | dropped (call : Call)
  | settled (call : Call)
  deriving DecidableEq

/-- The queue, and what it told so far. -/
structure MessageQueue where
  config : Config
  transactionMessageQueue : List QueuedMessage := []
  normalMessageQueue : List QueuedMessage := []
  inFlight : Option QueuedMessage := none
  paused : Bool := true
  /-- The queue is paused, and waits for the end of the pause. -/
  resuming : Bool := false
  newMessage : Bool := false
  isRegistrationStatusAccepted : Bool := false
  /-- The call of the CSMS that must be answered before anything else is sent. -/
  nextMessageToSend : Option String := none
  /-- For when the worker was last asked to look at the queues again. -/
  notifyQueueTimer : Option UInt32 := none
  pauseResumeCtr : ℕ := 0
  /-- The count of pauses that the callback of the resume timer expects. -/
  resumeTimer : Option ℕ := none
  events : List Event := []
  deriving DecidableEq

namespace MessageQueue

/-- How many messages wait in both queues. -/
def size (q : MessageQueue) : ℕ :=
  q.transactionMessageQueue.length + q.normalMessageQueue.length

/-- Drop about a tenth of what is allowed from the front of the normal queue. -/
def dropMessagesFromNormalMessageQueue (q : MessageQueue) : MessageQueue :=
  -- At least one message is dropped, and no more than there are.
  let number := min q.normalMessageQueue.length (max (q.config.queuesTotalSizeThreshold / 10) 1)
  { q with
    normalMessageQueue := q.normalMessageQueue.drop number
    events := q.events ++ (q.normalMessageQueue.take number).map fun m => .dropped m.call }

/-- What is kept and what is dropped of a queue, which is every second update. -/
def thin (removeNextUpdateMessage : Bool) :
    List QueuedMessage → List QueuedMessage × List QueuedMessage
  | [] => ([], [])
  | element :: rest =>
    -- The last messages of the queue are kept in any case.
    if removeNextUpdateMessage && element.isTransactionUpdateMessage && 1 < rest.length then
      ((thin false rest).1, element :: (thin false rest).2)
    else (element :: (thin true rest).1, (thin true rest).2)

/-- Drop updates from the transaction queue, and tell whether there were any to drop. -/
def dropUpdateMessagesFromTransactionalMessageQueue (q : MessageQueue) : MessageQueue × Bool :=
  -- Every other update stays, so that the measurements become sparser.
  let thinned := thin true q.transactionMessageQueue
  ({ q with
      transactionMessageQueue := thinned.1
      events := q.events ++ thinned.2.map fun m => .dropped m.call },
    thinned.2 ≠ [])

/-- What is dropped is missing afterwards. -/
theorem length_thin (remove : Bool) (l : List QueuedMessage) :
    (thin remove l).1.length + (thin remove l).2.length = l.length := by
  induction l generalizing remove with
  | nil => rfl
  | cons element rest ih =>
    unfold thin
    split
    · simp only [List.length_cons, ← ih false]
      omega
    · simp only [List.length_cons, ← ih true]
      omega

/-- The first loop of `check_queue_sizes`. -/
def shrinkNormal (q : MessageQueue) : MessageQueue :=
  if q.config.queuesTotalSizeThreshold < q.size ∧ q.normalMessageQueue ≠ [] then
    q.dropMessagesFromNormalMessageQueue.shrinkNormal
  else q
termination_by q.normalMessageQueue.length
decreasing_by
  rename_i exceeds
  have positive := List.length_pos_of_ne_nil exceeds.2
  simp only [dropMessagesFromNormalMessageQueue, List.length_drop]
  omega

/-- The second loop of `check_queue_sizes`. -/
def shrinkTransaction (q : MessageQueue) : MessageQueue :=
  if q.config.queuesTotalSizeThreshold < q.size ∧
      q.dropUpdateMessagesFromTransactionalMessageQueue.2 = true then
    q.dropUpdateMessagesFromTransactionalMessageQueue.1.shrinkTransaction
  else q
termination_by q.transactionMessageQueue.length
decreasing_by
  rename_i exceeds
  have some := of_decide_eq_true exceeds.2
  have positive := List.length_pos_of_ne_nil some
  have total := length_thin true q.transactionMessageQueue
  simp only [dropUpdateMessagesFromTransactionalMessageQueue]
  omega

/-- Drop messages if there are too many: normal ones first, and then updates. -/
def checkQueueSizes (q : MessageQueue) : MessageQueue :=
  if q.size ≤ q.config.queuesTotalSizeThreshold then q else q.shrinkNormal.shrinkTransaction

/-- A boot notification jumps the queue. -/
def addToNormalMessageQueue (message : QueuedMessage) (q : MessageQueue) : MessageQueue :=
  checkQueueSizes { q with
    normalMessageQueue :=
      if message.messageType = .bootNotification then message :: q.normalMessageQueue
      else q.normalMessageQueue ++ [message]
    newMessage := true }

def addToTransactionMessageQueue (message : QueuedMessage) (q : MessageQueue) : MessageQueue :=
  checkQueueSizes { q with
    transactionMessageQueue := q.transactionMessageQueue ++ [message]
    newMessage := true }

/-- Take a message, unless the queue is paused and does not keep such messages. -/
def pushCall (message : QueuedMessage) (q : MessageQueue) : MessageQueue :=
  if isTransactionMessage message.messageType then q.addToTransactionMessageQueue message
  else if q.paused = false ∨ q.resuming ∨ q.config.checkQueue message.messageType ∨
      message.messageType = .bootNotification then
    q.addToNormalMessageQueue message
  else q

/-- When a message may be sent. -/
inductive MessageTransmissionPriority
  | sendImmediately | sendAfterRegistrationStatusAccepted | discard
  deriving DecidableEq, Repr

def getMessageTransmissionPriority (isBootNotificationMessage triggered registrationAlreadyAccepted
    isTransactionRelated queueAllMessages : Bool) : MessageTransmissionPriority :=
  if registrationAlreadyAccepted || isBootNotificationMessage || triggered then .sendImmediately
  else if isTransactionRelated || queueAllMessages then .sendAfterRegistrationStatusAccepted
  else .discard

/-- A call of the station goes to the queue, if it is one that may be sent at some time. -/
def dispatchCall (call : Call) (now : UInt32) (triggered registrationAlreadyAccepted
    queueAllMessages : Bool) (q : MessageQueue) : MessageQueue :=
  match getMessageTransmissionPriority (isBootNotificationMessage call.messageType) triggered
    registrationAlreadyAccepted (isTransactionMessage call.messageType) queueAllMessages with
  | .sendImmediately => q.pushCall (.ofCall call false now)
  | .sendAfterRegistrationStatusAccepted => q.pushCall (.ofCall call true now)
  | .discard => q

/-- A message can be sent at a time. -/
def isAllowed (q : MessageQueue) (time : DateTime) (message : QueuedMessage) : Bool :=
  allowedToSendMessage message.toControlMessage time q.isRegistrationStatusAccepted

/-- The first normal message that can be sent. -/
def selectedNormalMessage (q : MessageQueue) (now : DateTime) : Option QueuedMessage :=
  q.normalMessageQueue.find? (q.isAllowed now)

/-- A transaction message can be sent, and is not behind a normal message. -/
def isTransactionMessageAvailable (q : MessageQueue) (now : DateTime) (msg : QueuedMessage) :
    Bool :=
  q.isAllowed now msg && match q.selectedNormalMessage now with
    | none => true
    -- A boot notification is prioritized, and else the message with the oldest timestamp.
    | some message => message.messageType ≠ .bootNotification &&
        msg.timestamp.le message.timestamp.toDateTimeImpl

/-- The message that the worker chooses, and the queue it is in. -/
def selectMessage (q : MessageQueue) (now : DateTime) : Option (QueuedMessage × QueueType) :=
  let normal := (q.selectedNormalMessage now).map fun message => (message, .normal)
  match q.transactionMessageQueue with
  | msg :: _ =>
    if q.isTransactionMessageAvailable now msg then some (msg, .transaction) else normal
  | [] => normal

/-- What was sent is in flight, and no longer in its queue. -/
def takeOut (allowed : QueuedMessage → Bool) (message : QueuedMessage) (queueType : QueueType)
    (q : MessageQueue) : MessageQueue :=
  { q with
    transactionMessageQueue :=
      if queueType = .transaction then q.transactionMessageQueue.tail
      else q.transactionMessageQueue
    normalMessageQueue :=
      if queueType = .normal then q.normalMessageQueue.eraseP allowed else q.normalMessageQueue
    inFlight := some message.attempt
    events := q.events ++ [.sent message.call] }

/-- What could not be sent stays where it is or is dropped, and nothing is sent for now. -/
def couldNotSend (allowed : QueuedMessage → Bool) (message : QueuedMessage)
    (queueType : QueueType) (q : MessageQueue) : MessageQueue :=
  match queueType with
  | .transaction =>
    { q with
      paused := true
      transactionMessageQueue := q.transactionMessageQueue.modify 0 QueuedMessage.failedAttempt }
  | .normal =>
    if isTransactionMessage message.messageType ∨ q.config.checkQueue message.messageType then
      { q with
        paused := true
        normalMessageQueue := q.normalMessageQueue.modify
          (q.normalMessageQueue.findIdx allowed) QueuedMessage.failedAttempt }
    -- What is dropped is the front of the queue, whichever message that is.
    else { q with paused := true, normalMessageQueue := q.normalMessageQueue.tail }

/-- Without anything left to send, the worker waits for a new message. -/
def checkEmpty (q : MessageQueue) : MessageQueue :=
  if q.transactionMessageQueue = [] ∧ q.normalMessageQueue = [] then { q with newMessage := false }
  else q

/-- What the worker does once it has anything to do. -/
def work (now : UInt32) (sent : Bool) (q : MessageQueue) : MessageQueue :=
  let allowed := q.isAllowed (DateTime.now now)
  if q.transactionMessageQueue = [] ∧ q.normalMessageQueue = [] then q
  else match q.selectMessage (DateTime.now now) with
  | none => { q with newMessage := false }
  | some (message, queueType) =>
    -- A call that waits for its answer holds everything else back.
    if q.nextMessageToSend ≠ none ∧ q.nextMessageToSend ≠ some message.uniqueId then q
    else if sent then (q.takeOut allowed message queueType).checkEmpty
    else (q.couldNotSend allowed message queueType).checkEmpty

/-- The call of the message in flight is answered, or given up. -/
def settle (q : MessageQueue) : MessageQueue :=
  { q with
    inFlight := none
    events := q.events ++ q.inFlight.toList.map fun message => .settled message.call }

/-- Put a message back in front of its queue, and have it looked at when it can be sent. -/
def requeue (message : QueuedMessage) (q : MessageQueue) : MessageQueue :=
  if isTransactionMessage message.messageType then
    { q with
      transactionMessageQueue := message :: q.transactionMessageQueue
      inFlight := none
      notifyQueueTimer := some message.timestamp.toTimePointS }
  else
    { q with
      normalMessageQueue := message :: q.normalMessageQueue
      inFlight := none
      notifyQueueTimer := some message.timestamp.toTimePointS }

/-- When a message is sent again after a number of attempts. -/
def retryTimestamp (now : UInt32) (beyond : ℕ) (config : Config) (message : QueuedMessage) :
    DateTime :=
  if isTransactionMessage message.messageType ∨ config.checkQueue message.messageType then
    if config.transactionMessageRetryInterval > 0 then
      -- The sum is handed to the constructor that leaves it aside.
      DateTime.ofTimepoint now (message.timestamp.timepoint.add beyond
        (config.transactionMessageRetryInterval * message.messageAttempts))
    else DateTime.now now
  else DateTime.ofTimepoint now
    (message.timestamp.timepoint.add beyond config.bootNotificationRetryIntervalSeconds)

/-- A message is sent again: what has to be delivered until its attempts are used up. -/
def isRetried (config : Config) (message : QueuedMessage) : Bool :=
  if isTransactionMessage message.messageType ∨ config.checkQueue message.messageType then
    message.messageAttempts < config.transactionMessageAttempts
  else isBootNotificationMessage message.messageType

/-- A timeout or an error for the message in flight, which is looked up without a check. -/
def handleTimeoutOrCallerror (now : UInt32) (beyond : ℕ) (freshId : String)
    (q : MessageQueue) : Option MessageQueue :=
  q.inFlight.map fun message =>
    if isRetried q.config message then
      q.requeue { message with
        uniqueId := freshId
        timestamp := retryTimestamp now beyond q.config message }
    else q.settle

/-- The end of a pause, unless another pause began since. -/
def resumeNow (expectedPauseResumeCtr : ℕ) (q : MessageQueue) : MessageQueue :=
  if q.pauseResumeCtr = expectedPauseResumeCtr then { q with paused := false, resuming := false }
  else q

/-- The connection is lost. -/
def pause (q : MessageQueue) : MessageQueue :=
  { q with pauseResumeCtr := q.pauseResumeCtr + 1, paused := true, resuming := false }

/-- The connection is back. Only the first one ends the pause without a delay. -/
def resume (delayOnReconnect : ℕ) (q : MessageQueue) : MessageQueue :=
  if q.paused = false then q
  else
    let q := { q with pauseResumeCtr := q.pauseResumeCtr + 1 }
    if 1 < q.pauseResumeCtr ∧ 0 < delayOnReconnect then
      { q with resuming := true, resumeTimer := some q.pauseResumeCtr }
    else q.resumeNow q.pauseResumeCtr

/-- A received call has to be answered before anything else is sent. -/
def receiveCall (uniqueId : String) (q : MessageQueue) : MessageQueue :=
  { q with nextMessageToSend := some uniqueId }

/-- A received result ends the waiting for the message in flight, if it is the one of that. -/
def receiveCallResult (uniqueId : String) (q : MessageQueue) : MessageQueue :=
  let q := { q with nextMessageToSend := none }
  if q.inFlight.map (·.uniqueId) = some uniqueId then q.settle else q

/-- A received error for the message in flight is handled as if it had timed out. -/
def receiveCallError (uniqueId : String) (now : UInt32) (beyond : ℕ) (freshId : String)
    (q : MessageQueue) : Option MessageQueue :=
  let q := { q with nextMessageToSend := none }
  if q.inFlight.map (·.uniqueId) = some uniqueId then
    q.handleTimeoutOrCallerror now beyond freshId
  else some q

/-- An answer of the station is sent, and lets other messages be sent again. -/
def pushCallResult (uniqueId : String) (q : MessageQueue) : MessageQueue :=
  if q.nextMessageToSend = some uniqueId then { q with nextMessageToSend := none } else q

end MessageQueue

/-- What the station, the CSMS, the worker and the timers do. -/
inductive Op
  | dispatchCall (call : Call) (now : UInt32)
    (triggered registrationAlreadyAccepted queueAllMessages : Bool)
  | work (now : UInt32) (sent : Bool)
  | receiveCall (uniqueId : String)
  | receiveCallResult (uniqueId : String)
  | receiveCallError (uniqueId : String) (now : UInt32) (beyond : ℕ) (freshId : String)
  | messageTimeout (now : UInt32) (beyond : ℕ) (freshId : String)
  | pushCallResult (uniqueId : String)
  | resetNextMessageToSend
  | notifyQueueTimer
  | pause
  | resume (delayOnReconnect : ℕ)
  | resumeTimer
  | setRegistrationStatusAccepted
  | updateTransactionMessageAttempts (attempts : ℕ)
  | updateTransactionMessageRetryInterval (interval : ℕ)
  deriving DecidableEq

/-- One of them happens, if it can. The worker waits for something new to look at. -/
def step : Step MessageQueue Op := fun q op =>
  match op with
  | .dispatchCall call now triggered registrationAlreadyAccepted queueAllMessages =>
    some (q.dispatchCall call now triggered registrationAlreadyAccepted queueAllMessages)
  | .work now sent =>
    if q.paused = false ∧ q.newMessage ∧ q.inFlight = none then some (q.work now sent) else none
  | .receiveCall uniqueId => some (q.receiveCall uniqueId)
  | .receiveCallResult uniqueId => some (q.receiveCallResult uniqueId)
  | .receiveCallError uniqueId now beyond freshId =>
    q.receiveCallError uniqueId now beyond freshId
  | .messageTimeout now beyond freshId => q.handleTimeoutOrCallerror now beyond freshId
  | .pushCallResult uniqueId => some (q.pushCallResult uniqueId)
  | .resetNextMessageToSend => some { q with nextMessageToSend := none }
  | .notifyQueueTimer => some { q with newMessage := true }
  | .pause => some q.pause
  | .resume delayOnReconnect => some (q.resume delayOnReconnect)
  -- The timer may run late, even after it was stopped, and then with its newest callback.
  | .resumeTimer => q.resumeTimer.map q.resumeNow
  | .setRegistrationStatusAccepted => some { q with isRegistrationStatusAccepted := true }
  | .updateTransactionMessageAttempts attempts =>
    some { q with config.transactionMessageAttempts := attempts }
  | .updateTransactionMessageRetryInterval interval =>
    some { q with config.transactionMessageRetryInterval := interval }

/-- The queue as the station creates it: with room for three messages. -/
def created : MessageQueue where
  config := {
    transactionMessageAttempts := 3
    transactionMessageRetryInterval := 2
    queuesTotalSizeThreshold := 3 }

end EasyEvse.Delivery
