import EasyEvse.Csms.Outgoing

/-! A message that is sent again: at once, unless the error comes when the wait would be over. -/

namespace EasyEvse.Csms

open Clock

/-- How long a message should wait for its next attempt, counted from its own time. -/
def backOff (config : MessageQueueConfig) (message : ControlMessage) : ℕ :=
  if isTransactionMessage message.messageType then
    config.transactionMessageRetryInterval * message.messageAttempts
  else config.bootNotificationRetryIntervalSeconds

/-- A message that waits until some second of the Unix clock, and denotes that second. -/
structure WaitsUntil (message : ControlMessage) (second : ℕ) : Prop where
  denotes : ∃ d : Calendar.Instant, d.year = message.timestamp.timepoint.year ∧
    d.month = message.timestamp.timepoint.month ∧ d.day = message.timestamp.timepoint.day ∧
    d.hours = message.timestamp.timepoint.hours ∧
    d.minutes = message.timestamp.timepoint.minutes ∧
    d.seconds = message.timestamp.timepoint.seconds ∧ d.toSeconds 1970 = second
  toTimePointS : message.timestamp.toTimePointS.toNat = second
  refused : ∀ (time : DateTime) (isRegistrationStatusAccepted : Bool),
    time.toTimePointS.toNat < second →
    allowedToSendMessage message time isRegistrationStatusAccepted = false

/-- The front of the queue that a message is put back into. -/
def OutgoingQueue.front (q : OutgoingQueue) (messageType : MessageType) : Option ControlMessage :=
  if isTransactionMessage messageType then q.transactionMessageQueue.head?
  else q.normalMessageQueue.head?

section Retries

variable {q : OutgoingQueue} {message : ControlMessage} {now : UInt32}

/-- A message that is put back when it is no longer in flight stands in front. -/
theorem front_requeue :
    { q.requeue message with inFlight := none }.front message.messageType = some message := by
  -- The queue that it is put back into is the one whose front is looked at.
  unfold OutgoingQueue.requeue OutgoingQueue.front
  split_ifs <;> rfl

/-- A message for which there is a next attempt is put back with the present time. -/
theorem handleTimeoutOrCallerror_requeues (now : UInt32) (beyond : ℕ) (freshId : String)
    (inFlight : q.inFlight = some message)
    (kind : isTransactionMessage message.messageType ∨
      isBootNotificationMessage message.messageType)
    (attempts : message.messageAttempts < q.config.transactionMessageAttempts) :
    ∃ r, q.handleTimeoutOrCallerror now beyond freshId = some r ∧
      r.front message.messageType =
        some { message with uniqueId := freshId, timestamp := DateTime.now now } := by
  refine ⟨_, by rw [OutgoingQueue.handleTimeoutOrCallerror, inFlight, Option.map_some], ?_⟩
  -- A message that is kept is retried as such, and a boot notification in any case.
  by_cases kept : isTransactionMessage message.messageType ∨ q.config.checkQueue message.messageType
  · -- The retry interval decides which constructor is called, and both read the clock.
    simp only [kept, attempts, if_true, DateTime.ofTimepoint, ite_self]
    exact front_requeue
  · have boot := kind.resolve_left fun transaction => kept (.inl transaction)
    simp only [kept, boot, if_true, if_false, DateTime.ofTimepoint]
    exact front_requeue

/-- A message with the present time waits until the present, if that is written as it should be. -/
theorem waitsUntil_now_iff {second : ℕ} (present : message.timestamp = DateTime.now now) :
    WaitsUntil message second ↔ now.toNat = second ∧ ¬ FirstOfLaterMonth second := by
  have splits := ofTimestamp_splits now
  have fields : message.timestamp.timepoint = OcppTimepoint.ofTimestamp now := by rw [present]; rfl
  have own : message.timestamp.toTimePointS = now := by rw [present]; rfl
  -- The time of the message is the present, and only the way it is written can be wrong.
  constructor
  · intro waits
    have same := waits.toTimePointS
    rw [own] at same
    refine ⟨same, ?_⟩
    rw [← same, ← splits.day_valid_iff]
    obtain ⟨d, year, month, day, -⟩ := waits.denotes
    rw [← fields, ← year, ← month, ← day]
    exact d.day_le
  · rintro ⟨rfl, inner⟩
    refine ⟨?_, by rw [own], fun time accepted early => ?_⟩
    · rw [fields]
      exact splits.instant (splits.day_valid_iff.mpr inner)
    -- Until that second the message is later than the time it is compared with.
    · have later : message.timestamp.gt time.toDateTimeImpl = true := by
        rw [DateTime.gt_iff, own]
        exact early
      unfold allowedToSendMessage
      rw [if_pos later, ite_self]

/--
A message is sent again after its wait exactly if the timeout or error comes when that wait is over,
and not on the first day of a month after January.
-/
theorem backs_off_iff (q : OutgoingQueue) (message : ControlMessage) (now : UInt32) (beyond : ℕ)
    (freshId : String) (inFlight : q.inFlight = some message)
    (kind : isTransactionMessage message.messageType ∨
      isBootNotificationMessage message.messageType)
    (attempts : message.messageAttempts < q.config.transactionMessageAttempts) :
    (∃ r retried, q.handleTimeoutOrCallerror now beyond freshId = some r ∧
      r.front message.messageType = some retried ∧
      WaitsUntil retried (message.timestamp.toTimePointS.toNat + backOff q.config message)) ↔
      now.toNat = message.timestamp.toTimePointS.toNat + backOff q.config message ∧
        ¬ FirstOfLaterMonth now.toNat := by
  obtain ⟨r, handled, front⟩ :=
    handleTimeoutOrCallerror_requeues now beyond freshId inFlight kind attempts
  -- What is put back is known, and so the wait is the question of its time alone.
  constructor
  · rintro ⟨r', retried, handled', front', waits⟩
    rw [handled] at handled'
    obtain rfl := Option.some.inj handled'
    rw [front] at front'
    obtain rfl := Option.some.inj front'
    obtain ⟨same, inner⟩ := (waitsUntil_now_iff rfl).mp waits
    exact ⟨same, same ▸ inner⟩
  · rintro ⟨same, inner⟩
    exact ⟨r, _, handled, front, (waitsUntil_now_iff rfl).mpr ⟨same, same ▸ inner⟩⟩

/-- A transaction message that was sent once, and has ten seconds to wait for the next attempt. -/
def sentOnce : OutgoingQueue where
  config := { transactionMessageAttempts := 3, transactionMessageRetryInterval := 10 }
  inFlight := some { messageAt .transactionEvent 45000 with messageAttempts := 1 }

/-- An error that comes only after these ten seconds lets the message wait no longer. -/
theorem backs_off_iff_late : ∃ r retried,
    sentOnce.handleTimeoutOrCallerror 45010 0 "retry" = some r ∧
    r.front .transactionEvent = some retried ∧ WaitsUntil retried 45010 :=
  (backs_off_iff sentOnce { messageAt .transactionEvent 45000 with messageAttempts := 1 } 45010 0
    "retry" rfl (.inl rfl) (by decide)).mpr
    ⟨by decide, (ofTimestamp_splits 45010).day_valid_iff.mp (by decide +kernel)⟩

/-- An error that comes at once lets the message be sent again at once. -/
theorem resent_at_once : ∃ r retried, sentOnce.handleTimeoutOrCallerror 45001 0 "retry" = some r ∧
    r.front .transactionEvent = some retried ∧ retried.timestamp.toTimePointS = 45001 ∧
    allowedToSendMessage retried (DateTime.now 45001) true = true ∧ ¬ WaitsUntil retried 45010 := by
  refine ⟨_, _, rfl, rfl, rfl, by decide +kernel, fun waits => ?_⟩
  exact absurd waits.toTimePointS (by decide)

end Retries

end EasyEvse.Csms
