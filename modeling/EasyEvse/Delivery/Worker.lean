import EasyEvse.Delivery.MessageQueue
import EasyEvse.Threads.Monitor

/-! The worker of the message queue is woken whenever what it waits for is there. -/

namespace EasyEvse.Delivery

open Clock Csms Threads Transition

namespace MessageQueue

/--
What the worker waits for: no pause, something new, and nothing in flight.

The flag of something new is cleared when no message may be sent. That a message may be sent from
now on, since the registration was accepted, does not set it again.
-/
def canWork (q : MessageQueue) : Bool := !q.paused && q.newMessage && q.inFlight.isNone

/-- The notification at the end of the worker's round, unless it went on before. -/
def workNotice (now : UInt32) (q : MessageQueue) : Option Bool :=
  if q.transactionMessageQueue = [] ∧ q.normalMessageQueue = [] then none
  else match q.selectMessage (DateTime.now now) with
  | none => none
  | some (message, _) =>
    if q.nextMessageToSend ≠ none ∧ q.nextMessageToSend ≠ some message.uniqueId then none
    else some false

/-- A pause that ends notifies the worker. -/
def resumeNowNotice (expectedPauseResumeCtr : ℕ) (q : MessageQueue) : Option Bool :=
  if q.pauseResumeCtr = expectedPauseResumeCtr then some false else none

/-- The notification of an operation: none, `notify_one` or `notify_all`. -/
def notice (q : MessageQueue) : Op → Option Bool
  | .dispatchCall call _ triggered registrationAlreadyAccepted queueAllMessages =>
    if getMessageTransmissionPriority (isBootNotificationMessage call.messageType) triggered
        registrationAlreadyAccepted (isTransactionMessage call.messageType) queueAllMessages =
      .discard then none else some true
  | .work now _ => q.workNotice now
  | .receiveCallResult uniqueId =>
    if q.inFlight.map (·.uniqueId) = some uniqueId then some false else none
  | .receiveCallError uniqueId _ _ _ =>
    if q.inFlight.map (·.uniqueId) = some uniqueId then some true else none
  | .messageTimeout _ _ _ | .pushCallResult _ | .notifyQueueTimer => some true
  | .pause => some false
  | .resume delayOnReconnect =>
    if q.paused = false then none
    else if 1 < q.pauseResumeCtr + 1 ∧ 0 < delayOnReconnect then none
    else some false
  | .resumeTimer => q.resumeTimer.bind q.resumeNowNotice
  | .setRegistrationStatusAccepted => some true
  | .receiveCall _ | .resetNextMessageToSend | .updateTransactionMessageAttempts _
  | .updateTransactionMessageRetryInterval _ => none

end MessageQueue

/-- The operations that lock the mutex of the messages. -/
def Op.locksMessageMutex : Op → Bool
  | .receiveCall _ | .pushCallResult _ | .resetNextMessageToSend | .notifyQueueTimer => false
  | .updateTransactionMessageAttempts _ | .updateTransactionMessageRetryInterval _ => false
  | _ => true

def Op.byWorker : Op → Bool
  | .work _ _ => true
  | _ => false

/-- The message queue as the data of a monitor, with its worker waiting until it can work. -/
def messages : Program MessageQueue Op where
  change := step
  ready := MessageQueue.canWork
  notice := MessageQueue.notice
  locked := Op.locksMessageMutex
  byWorker := Op.byWorker

section Told

variable {q next : MessageQueue} {op : Op}

@[simp] theorem canWork_iff : q.canWork = true ↔
    q.paused = false ∧ q.newMessage = true ∧ q.inFlight = none := by
  simp [MessageQueue.canWork, and_assoc]

/-- Whatever lets the worker work again notifies it. -/
theorem notice_of_canWork (idle : q.canWork = false) (moved : step q op = some next)
    (work : next.canWork = true) : q.notice op ≠ none := by
  -- What is not told leaves the condition of the worker as it is.
  intro untold
  have unchanged : next.canWork = q.canWork := by
    cases op with
    | dispatchCall call now triggered accepted queueAllMessages =>
      have discarded : MessageQueue.getMessageTransmissionPriority
          (isBootNotificationMessage call.messageType) triggered accepted
          (isTransactionMessage call.messageType) queueAllMessages = .discard := by
        -- Only a call that is discarded is dispatched without a word.
        simpa [MessageQueue.notice] using untold
      obtain rfl : q = next := by
        simpa [step, MessageQueue.dispatchCall, discarded] using moved
      rfl
    | work now sent =>
      -- The worker only works when it can, which it could not.
      have ready : q.canWork = true := by
        simp only [step, Option.ite_none_right_eq_some] at moved
        exact canWork_iff.mpr moved.1
      rw [idle] at ready
      cases ready
    | receiveCallResult uniqueId =>
      -- An answer that is told to nobody is not for the message in flight.
      have other : q.inFlight.map (·.uniqueId) ≠ some uniqueId := by
        simpa [MessageQueue.notice] using untold
      obtain rfl : { q with nextMessageToSend := none } = next := by
        simpa [step, MessageQueue.receiveCallResult, other] using moved
      rfl
    | receiveCallError uniqueId now beyond freshId =>
      have other : q.inFlight.map (·.uniqueId) ≠ some uniqueId := by
        simpa [MessageQueue.notice] using untold
      obtain rfl : { q with nextMessageToSend := none } = next := by
        simpa [step, MessageQueue.receiveCallError, other] using moved
      rfl
    | resume delayOnReconnect =>
      -- A queue that is not paused is not resumed.
      by_cases running : q.paused = false
      · obtain rfl : q = next := by simpa [step, MessageQueue.resume, running] using moved
        rfl
      · -- The pause goes on until the delay is over.
        have delayed : 0 < q.pauseResumeCtr ∧ 0 < delayOnReconnect := by
          simpa [MessageQueue.notice, running, Nat.pos_iff_ne_zero] using untold
        obtain rfl : { q with
            pauseResumeCtr := q.pauseResumeCtr + 1
            resuming := true
            resumeTimer := some (q.pauseResumeCtr + 1) } = next := by
          simpa [step, MessageQueue.resume, running, delayed] using moved
        rfl
    | resumeTimer =>
      -- A callback that is too late finds another count, and changes nothing.
      cases expected : q.resumeTimer with
      | none => simp [step, expected] at moved
      | some counter =>
        have other : q.pauseResumeCtr ≠ counter := by
          simpa [MessageQueue.notice, MessageQueue.resumeNowNotice, expected] using untold
        obtain rfl : q = next := by
          simpa [step, MessageQueue.resumeNow, expected, other] using moved
        rfl
    -- These operations set what the worker does not wait for.
    | receiveCall uniqueId =>
      obtain rfl : q.receiveCall uniqueId = next := by simpa [step] using moved
      rfl
    | resetNextMessageToSend =>
      obtain rfl : { q with nextMessageToSend := none } = next := by simpa [step] using moved
      rfl
    | updateTransactionMessageAttempts attempts =>
      obtain rfl : { q with config.transactionMessageAttempts := attempts } = next := by
        simpa [step] using moved
      rfl
    | updateTransactionMessageRetryInterval interval =>
      obtain rfl : { q with config.transactionMessageRetryInterval := interval } = next := by
        simpa [step] using moved
      rfl
    -- Every other operation notifies, whatever it does.
    | _ => simp [MessageQueue.notice] at untold
  rw [idle, work] at unchanged
  cases unchanged

/-- Without the mutex only the retry timer lets the worker work again. -/
theorem notifyQueueTimer_of_canWork (idle : q.canWork = false) (moved : step q op = some next)
    (work : next.canWork = true) (unlocked : op.locksMessageMutex = false) :
    op = .notifyQueueTimer := by
  -- What leaves the condition as it is cannot let the worker work again.
  have keeps {other : MessageQueue} (went : some other = some next)
      (same : other.canWork = q.canWork) : False := by
    obtain rfl := Option.some.inj went
    rw [idle, work] at same
    cases same
  -- Only few operations do without the mutex, and one of them sets what the worker waits for.
  cases op with
  | notifyQueueTimer => rfl
  | receiveCall uniqueId => exact (keeps moved rfl).elim
  | resetNextMessageToSend => exact (keeps moved rfl).elim
  | updateTransactionMessageAttempts attempts => exact (keeps moved rfl).elim
  | updateTransactionMessageRetryInterval interval => exact (keeps moved rfl).elim
  | pushCallResult uniqueId =>
    refine (keeps moved ?_).elim
    unfold MessageQueue.pushCallResult
    split <;> rfl
  | _ => cases unlocked

end Told

section Worker

variable {τ : Type} [DecidableEq τ] {worker : τ} {m : Monitor τ MessageQueue}
  {acts : List (Act τ Op)} {q : MessageQueue}

/-- The retry timer makes its change without the mutex. -/
def isNotifyQueueTimer (op : Op) : Bool := op = .notifyQueueTimer

/-- The operations of the queue are told to the worker, and all but one of them use the mutex. -/
theorem messages_told : Monitor.Told messages isNotifyQueueTimer := by
  intro q op next idle moved work
  exact ⟨notice_of_canWork idle moved work, fun unlocked =>
    decide_eq_true (notifyQueueTimer_of_canWork idle moved work unlocked)⟩

/--
The worker does not sleep while what it waits for is there and nobody is about to wake it.

The retry timer must not strike just before the worker sleeps, since it does not lock the mutex.
-/
theorem worker_woken (aside : Meets (Monitor.Aside isNotifyQueueTimer worker)
      (Monitor.step messages worker) (.created q) acts)
    (ran : run (Monitor.step messages worker) (.created q) acts = some m)
    (asleep : m.Asleep worker) (work : m.data.canWork = true) : m.Stirring :=
  messages_told.woken aside ran asleep work

/-- The second task does an operation, and notifies the worker when it has unlocked the mutex. -/
def turn (op : Op) : List (Act (Fin 2) Op) :=
  [.move (.lock 1), .change 1 op, .move (.unlock 1), .notify 1] ++
    List.replicate 3 (.move (.advance 1))

/-- The worker does its work, and notifies whoever waits. -/
def round (op : Op) : List (Act (Fin 2) Op) :=
  [.move (.lock 0), .change 0 op, .move (.unlock 0), .notify 0] ++
    List.replicate 3 (.move (.advance 0))

/-- A transaction event waits to be sent another time. -/
def retrying : List (Act (Fin 2) Op) :=
  turn (.resume 0) ++ turn (.dispatchCall ⟨"a", .transactionEvent, false⟩ 0 false true false) ++
    round (.work 0 true) ++ turn (.messageTimeout 30 0 "b")

/-- The worker finds nothing to do, and sleeps. -/
def sleeps : List (Act (Fin 2) Op) :=
  [.move (.lock 0), .wait false] ++ List.replicate 4 (.move (.advance 0))

/-- The retry timer strikes when the worker sleeps, and is about to wake it. -/
theorem worker_woken_retry : ∃ m : Monitor (Fin 2) MessageQueue,
    run (Monitor.step messages 0) (.created created)
      (retrying ++ sleeps ++ [.change 1 .notifyQueueTimer]) = some m ∧ m.Stirring :=
  ⟨_, rfl, @worker_woken _ _ 0 _ (retrying ++ sleeps ++ [.change 1 .notifyQueueTimer]) created
    (by decide +kernel) rfl ⟨trivial, rfl⟩ rfl⟩

/-- The retry timer strikes while the worker is about to sleep, which misses it. -/
theorem retry_missed : ∃ m : Monitor (Fin 2) MessageQueue,
    run (Monitor.step messages 0) (.created created) (retrying ++
      [.move (.lock 0), .wait false, .change 1 .notifyQueueTimer, .notify 1] ++
      List.replicate 3 (.move (.advance 1)) ++ List.replicate 4 (.move (.advance 0))) = some m ∧
    m.Asleep 0 ∧ m.data.canWork = true ∧ ¬ m.Stirring := by
  refine ⟨_, rfl, ⟨trivial, rfl⟩, rfl, ?_⟩
  rintro ⟨u, owed | underway⟩
  · revert u
    decide +kernel
  · revert u
    decide +kernel

end Worker

end EasyEvse.Delivery
