import EasyEvse.Csms.Outgoing
import EasyEvse.Timers.Service
import EasyEvse.Transition.Run

/-! The message in flight and its timeout: worker, receiver and timer task, interleaved. -/

namespace EasyEvse.Csms

open Timers Transition

/-- The room for commands to the timer task. -/
def timerQueueLength : ℕ := 10

/-- A timer object, with the timers that were created for it. All of them run the same callback. -/
structure SteadyTimer where
  timerHandle : Option ℕ := none
  service : Service ControlMessage := {}
  deriving DecidableEq

/-- Stopping a timer only sends a command. -/
def SteadyTimer.stop (t : SteadyTimer) : SteadyTimer :=
  match t.timerHandle with
  | some timer => { t with service := t.service.put timerQueueLength (.stop timer) }
  | none => t

/-- Stop the timer there is and give it up. -/
def SteadyTimer.discard (t : SteadyTimer) : SteadyTimer :=
  match t.timerHandle with
  | some timer =>
    { timerHandle := none
      service := (t.service.put timerQueueLength (.stop timer)).put timerQueueLength
        (.delete timer) }
  | none => t

/-- Arm the timer for a message: end the timer there is, create a new one, and start it. -/
def SteadyTimer.timeout (message : ControlMessage) (created : Bool) (t : SteadyTimer) :
    SteadyTimer :=
  -- The timer that was created last has the number that comes next.
  let service := t.discard.service
  -- Without the memory for a new timer there is none.
  if created then
    { timerHandle := some service.created.length
      service := (service.create message).put timerQueueLength (.start service.created.length) }
  else t.discard

/-- The timer that counts while a message is in flight. -/
def SteadyTimer.current (t : SteadyTimer) (inFlight : Option ControlMessage) : Option ℕ :=
  if inFlight.isSome then t.timerHandle else none

/-- The timer of the message in flight is armed for it, and no other timer is left alive. -/
structure SteadyTimer.ArmedFor (t : SteadyTimer) (inFlight : Option ControlMessage) : Prop where
  orderly : t.service.Orderly
  only : t.service.OnlyAlive (t.current inFlight)
  known : ∀ timer ∈ t.timerHandle, timer < t.service.created.length
  armed : ∀ message ∈ inFlight, ∀ timer ∈ t.timerHandle,
    t.service.created[timer]? = some message
  callback : ∀ timer ∈ t.service.callback, t.current inFlight = some timer

namespace SteadyTimer

variable {t : SteadyTimer} {inFlight : Option ControlMessage} {timer : ℕ}

@[simp] theorem current_none : t.current none = none := rfl

@[simp] theorem current_some {message : ControlMessage} :
    t.current (some message) = t.timerHandle := rfl

/-- Without a timer there is nothing to stop. -/
theorem stop_of_none (handle : t.timerHandle = none) : t.stop = t := by
  simp [stop, handle]

/-- Stopping a timer sends a command, and changes nothing else. -/
theorem stop_of_some (handle : t.timerHandle = some timer) :
    t.stop = { t with service := t.service.put timerQueueLength (.stop timer) } := by
  simp [stop, handle]

/-- A timer that is stopped may still have a callback that waits. -/
@[simp] theorem stop_callback : t.stop.service.callback = t.service.callback := by
  cases handle : t.timerHandle with
  | none => rw [stop_of_none handle]
  | some timer => simp [stop_of_some handle]

/-- No timer was created yet, and none runs. -/
theorem ArmedFor.initial : SteadyTimer.ArmedFor {} none where
  orderly := ⟨by simp, by simp, List.Pairwise.nil⟩
  only := by simp [Service.OnlyAlive, Service.Alive]
  known := by simp
  armed := by simp
  callback := by simp

/-- Without a message in flight, no callback waits. -/
theorem ArmedFor.noCallback (armed : t.ArmedFor none) : t.service.callback = none := by
  -- A callback that waits would be that of the message in flight.
  by_contra waits
  obtain ⟨timer, waits⟩ := Option.ne_none_iff_exists'.mp waits
  have current := armed.callback timer waits
  simp at current

/-- A callback that waits is the one of the message in flight. -/
theorem ArmedFor.hits (armed : t.ArmedFor inFlight) (waits : timer ∈ t.service.callback) :
    ∃ message ∈ inFlight, t.service.created[timer]? = some message := by
  have current := armed.callback timer waits
  -- Without a message in flight there is no current timer.
  cases inFlight with
  | none => simp at current
  | some message => exact ⟨message, rfl, armed.armed message rfl timer current⟩

/-- Once the message in flight is forgotten and its timer stopped, a callback may still end. -/
theorem ArmedFor.stop (armed : t.ArmedFor inFlight) :
    SteadyTimer.ArmedFor { t.stop with service := t.stop.service.finish } none := by
  cases handle : t.timerHandle with
  | none =>
    rw [stop_of_none handle]
    have only : t.service.OnlyAlive none := by
      have now := armed.only
      cases inFlight with
      | none => exact now
      | some message => exact handle ▸ now
    exact ⟨⟨armed.orderly.known, armed.orderly.active, armed.orderly.startsFirst⟩, only,
      armed.known, by simp, by simp [Service.finish]⟩
  | some timer =>
    -- The command tells the one timer to end that was not told before.
    rw [stop_of_some handle]
    have only : t.service.OnlyAlive (some timer) := by
      have now := armed.only
      cases inFlight with
      | none => exact now.weaken
      | some message => exact handle ▸ now
    have orderly : (t.service.put timerQueueLength (.stop timer)).Orderly :=
      armed.orderly.put (armed.known timer handle) (by simp)
    exact ⟨⟨orderly.known, orderly.active, orderly.startsFirst⟩, only.stop,
      by simpa [Service.finish] using armed.known, by simp, by simp [Service.finish]⟩

/-- Without a callback that waits, the message in flight can be forgotten. -/
theorem ArmedFor.reset (armed : t.ArmedFor inFlight) (idle : t.service.callback = none) :
    t.stop.ArmedFor none := by
  have same : t.stop.service.finish = t.stop.service := Service.finish_of_idle (by simpa using idle)
  have stopped := armed.stop
  rwa [same] at stopped

/-- Giving a timer up leaves no timer, and tells the one there was to end. -/
theorem ArmedFor.discard (armed : t.ArmedFor none) :
    t.discard.ArmedFor none ∧ t.discard.timerHandle = none := by
  -- The two commands go to the timer that there is, and leave it to end.
  cases handle : t.timerHandle with
  | none =>
    have same : t.discard = t := by simp [SteadyTimer.discard, handle]
    rw [same]
    exact ⟨armed, handle⟩
  | some timer =>
    have known := armed.known timer handle
    have idle := armed.noCallback
    have given : t.discard = { timerHandle := none
                               service := (t.service.put timerQueueLength (.stop timer)).put
                                 timerQueueLength (.delete timer) } := by
      simp [SteadyTimer.discard, handle]
    rw [given]
    refine ⟨⟨?_, ?_, by simp, by simp, by simp [idle]⟩, rfl⟩
    · have stopped : (t.service.put timerQueueLength (.stop timer)).Orderly :=
        armed.orderly.put known (by simp)
      exact stopped.put (by simpa [Command.Known] using known) (by simp)
    · exact (armed.only.put (by simp)).put (by simp)

/-- A timer is armed for the message that it is created for. -/
theorem ArmedFor.timeout (armed : t.ArmedFor none) (message : ControlMessage) (created : Bool) :
    (t.timeout message created).ArmedFor (some message) := by
  obtain ⟨discarded, none⟩ := armed.discard
  cases created with
  | false =>
    -- A message whose timer could not be created has no timeout at all.
    have same : t.timeout message false = t.discard := by simp [SteadyTimer.timeout]
    rw [same]
    exact ⟨discarded.orderly, by simpa [none] using discarded.only, discarded.known,
      by simp [none], by simp [discarded.noCallback]⟩
  | true =>
    have idle := discarded.noCallback
    refine ⟨discarded.orderly.start, discarded.only.start, ?_, ?_, ?_⟩
    · simp [SteadyTimer.timeout, Service.create]
    · simp [SteadyTimer.timeout, Service.create]
    · simp [SteadyTimer.timeout, Service.create, idle]

/-- Commands about other timers do not disturb the timer. -/
theorem ArmedFor.other (armed : t.ArmedFor inFlight) :
    SteadyTimer.ArmedFor { t with service := t.service.put timerQueueLength .other } inFlight where
  orderly := armed.orderly.put trivial (by simp)
  only := armed.only.put (by simp)
  known := by simpa using armed.known
  armed := by simpa using armed.armed
  callback := fun timer waits => armed.callback timer (by simpa using waits)

/-- Whatever command the task processes, the timer stays armed for the same message. -/
theorem ArmedFor.process (armed : t.ArmedFor inFlight) {service : Service ControlMessage}
    (moved : t.service.process = some service) :
    SteadyTimer.ArmedFor { t with service } inFlight := by
  have orderly := armed.orderly.process moved
  have only := armed.only.process armed.orderly moved
  obtain ⟨command, commands, -, rfl⟩ := Service.process_cases moved
  exact ⟨orderly, only, armed.known, armed.armed, armed.callback⟩

/-- The timer that expires without having been told to end is the one that counts. -/
theorem ArmedFor.expire (armed : t.ArmedFor inFlight) {service : Service ControlMessage}
    (moved : t.service.expire timer = some service) (untold : ¬ t.service.Told timer) :
    SteadyTimer.ArmedFor { t with service } inFlight := by
  have orderly := armed.orderly.expire moved
  have only := armed.only.of_expire moved
  have current := armed.only.expire moved untold
  obtain ⟨-, rfl⟩ := Service.expire_cases moved
  refine ⟨orderly, only, armed.known, armed.armed, fun started callback => ?_⟩
  obtain rfl := Option.some.inj callback
  exact current

end SteadyTimer

/-- The queue with the timer of the message in flight. -/
structure Sending where
  queue : OutgoingQueue
  inFlightTimeoutTimer : SteadyTimer := {}
  /-- An error was received, and the mutex given up before it is handled. -/
  receivedError : Bool := false
  /-- A null pointer was followed. -/
  crashed : Bool := false
  deriving DecidableEq

/-- What the tasks do: one critical section of the mutex, or one action of the timer task. -/
inductive SendingOp
  | pushCall (message : ControlMessage)
  | work (now : UInt32) (sent created : Bool)
  | receiveCall (uniqueId : String)
  | answerCall (uniqueId : String)
  | receiveCallResult (uniqueId : String)
  | receiveCallError (uniqueId : String)
  | handleCallError (now : UInt32) (beyond : ℕ) (freshId : String)
  | pause
  | resume (delayed : Bool)
  | acceptRegistration
  /-- The timer for messages that can be sent later expires. -/
  | notifyQueue
  /-- Some task sends a command about another timer. -/
  | otherCommand
  | processCommand
  | expire (timer : ℕ)
  /-- The callback of the timer that expired gets the mutex. -/
  | timerCallback (now : UInt32) (beyond : ℕ) (freshId : String)
  deriving DecidableEq

namespace Sending

/-- Forget the message in flight, and send the command that stops its timer. -/
def resetInFlight (s : Sending) : Sending :=
  { s with
    queue := { s.queue with inFlight := none }
    inFlightTimeoutTimer := s.inFlightTimeoutTimer.stop }

/-- Handle a timeout or an error, which follows the pointer to the message in flight. -/
def handleTimeoutOrCallerror (now : UInt32) (beyond : ℕ) (freshId : String) (s : Sending) :
    Sending :=
  match s.queue.handleTimeoutOrCallerror now beyond freshId with
  | some queue => { s with queue }.resetInFlight
  | none => { s with crashed := true }

/-- The message in flight has the given identifier. -/
def Matches (s : Sending) (uniqueId : String) : Prop :=
  ∃ message ∈ s.queue.inFlight, message.uniqueId = uniqueId

instance (s : Sending) : DecidablePred s.Matches := fun _ =>
  inferInstanceAs (Decidable (∃ message ∈ s.queue.inFlight, _))

/-- Look at the queues, and arm the timer for what was sent. -/
def work (now : UInt32) (sent created : Bool) (s : Sending) : Sending :=
  match s.queue.work now sent with
  | (queue, .nothing) => { s with queue }
  | (queue, .failed) => { s with queue }.resetInFlight
  | (queue, .sent message) =>
    { s with
      queue, inFlightTimeoutTimer := s.inFlightTimeoutTimer.timeout message created }

/-- A result or error takes back that a call waits for its answer. -/
def receiveAnswer (s : Sending) : Sending :=
  { s with queue := { s.queue with nextMessageToSend := none } }

/-- Change the timers. -/
def serve (s : Sending) (service : Service ControlMessage) : Sending :=
  { s with inFlightTimeoutTimer := { s.inFlightTimeoutTimer with service } }

/-- One action, if it is possible. -/
def act (s : Sending) : SendingOp → Option Sending
  | .pushCall message => some { s with queue := s.queue.pushCall message }
  | .work now sent created =>
    if s.queue.paused = false ∧ s.queue.newMessage ∧ s.queue.inFlight = none then
      some (s.work now sent created)
    else none
  -- There is one receiver, which first handles an error that it received.
  | .receiveCall uniqueId =>
    if s.receivedError then none
    else some { s with queue := { s.queue with nextMessageToSend := some uniqueId } }
  | .answerCall uniqueId =>
    if s.queue.nextMessageToSend = some uniqueId then some s.receiveAnswer else some s
  | .receiveCallResult uniqueId =>
    if s.receivedError then none
    else if s.Matches uniqueId then some s.receiveAnswer.resetInFlight
    else some s.receiveAnswer
  | .receiveCallError uniqueId =>
    if s.receivedError then none
    else if s.Matches uniqueId then some { s.receiveAnswer with receivedError := true }
    else some s.receiveAnswer
  | .handleCallError now beyond freshId =>
    if s.receivedError then
      some ({ s with receivedError := false }.handleTimeoutOrCallerror now beyond freshId)
    else none
  | .pause => some { s with queue := { s.queue with paused := true, resuming := false } }
  | .resume delayed =>
    if delayed then some { s with queue := { s.queue with resuming := s.queue.paused } }
    else some { s with queue := { s.queue with paused := false, resuming := false } }
  | .acceptRegistration =>
    some { s with queue := { s.queue with isRegistrationStatusAccepted := true } }
  | .notifyQueue =>
    if s.queue.notifyQueueTimer.isSome ∧ s.inFlightTimeoutTimer.service.callback = none then
      some { s with queue := { s.queue with newMessage := true, notifyQueueTimer := none } }
    else none
  | .otherCommand => some (s.serve (s.inFlightTimeoutTimer.service.put timerQueueLength .other))
  | .processCommand => s.inFlightTimeoutTimer.service.process.map s.serve
  | .expire timer => (s.inFlightTimeoutTimer.service.expire timer).map s.serve
  | .timerCallback now beyond freshId =>
    if s.inFlightTimeoutTimer.service.callback = none then none
    else
      let s := s.handleTimeoutOrCallerror now beyond freshId
      some (s.serve s.inFlightTimeoutTimer.service.finish)

/-- One action, as long as no null pointer was followed. -/
def step : Step Sending SendingOp := fun s op => if s.crashed then none else s.act op

/-- The queue before anything was sent. -/
def Initial (s : Sending) : Prop :=
  s.queue.inFlight = none ∧ s.inFlightTimeoutTimer = {}

/-- A timeout is handled while the message that it was armed for is in flight. -/
def TimeoutHits (s : Sending) : SendingOp → Prop
  | .timerCallback .. => ∃ message ∈ s.queue.inFlight,
      ∃ timer ∈ s.inFlightTimeoutTimer.service.callback,
        s.inFlightTimeoutTimer.service.created[timer]? = some message
  | _ => True

/--
Nothing comes between a timer and its message.

A timer that was told to end does not expire first, and the message in flight is not answered while
the callback of a timer waits for the mutex.
-/
def Undisturbed (s : Sending) : SendingOp → Prop
  | .expire timer => ¬ s.inFlightTimeoutTimer.service.Told timer
  | .receiveCallResult uniqueId =>
    s.Matches uniqueId → s.inFlightTimeoutTimer.service.callback = none
  | .handleCallError .. => s.inFlightTimeoutTimer.service.callback = none
  | _ => True

instance (s : Sending) : DecidablePred s.TimeoutHits
  | .timerCallback .. => inferInstanceAs (Decidable (∃ message ∈ s.queue.inFlight, _))
  | .pushCall _ | .work .. | .receiveCall _ | .answerCall _ | .receiveCallResult _
  | .receiveCallError _ | .handleCallError .. | .pause | .resume _ | .acceptRegistration
  | .notifyQueue | .otherCommand | .processCommand | .expire _ => isTrue trivial

instance (s : Sending) : DecidablePred s.Undisturbed
  | .expire timer => inferInstanceAs (Decidable (¬ s.inFlightTimeoutTimer.service.Told timer))
  | .receiveCallResult uniqueId => inferInstanceAs (Decidable (s.Matches uniqueId → _))
  | .handleCallError .. =>
    inferInstanceAs (Decidable (s.inFlightTimeoutTimer.service.callback = none))
  | .pushCall _ | .work .. | .receiveCall _ | .answerCall _ | .receiveCallError _ | .pause
  | .resume _ | .acceptRegistration | .notifyQueue | .otherCommand | .processCommand
  | .timerCallback .. => isTrue trivial

section Steps

variable {s t : Sending} {now : UInt32} {beyond : ℕ} {freshId : String}

/-- The timer is armed for the message in flight. -/
def Armed (s : Sending) : Prop := s.inFlightTimeoutTimer.ArmedFor s.queue.inFlight

/-- An error is the end of the message in flight, if no callback waits. -/
theorem Armed.handleCallError (armed : s.Armed)
    (idle : s.inFlightTimeoutTimer.service.callback = none) :
    (s.handleTimeoutOrCallerror now beyond freshId).Armed := by
  -- A null pointer is followed only without a message in flight.
  unfold Sending.handleTimeoutOrCallerror
  cases handled : s.queue.handleTimeoutOrCallerror now beyond freshId with
  | none => exact armed
  | some queue => exact armed.reset idle

/-- A callback that waits handles the message in flight, and has ended then. -/
theorem Armed.timerCallback (armed : s.Armed)
    (waits : s.inFlightTimeoutTimer.service.callback ≠ none)
    (handled : s.handleTimeoutOrCallerror now beyond freshId = t) :
    (t.serve t.inFlightTimeoutTimer.service.finish).Armed := by
  -- The callback that waits is that of the message in flight, which is handled then.
  obtain ⟨timer, waits⟩ := Option.ne_none_iff_exists'.mp waits
  obtain ⟨message, inFlight, -⟩ := armed.hits waits
  obtain ⟨queue, next⟩ : ∃ queue,
      s.queue.handleTimeoutOrCallerror now beyond freshId = some queue := by
    rw [OutgoingQueue.handleTimeoutOrCallerror, Option.mem_def.mp inFlight]
    exact ⟨_, rfl⟩
  simp only [Sending.handleTimeoutOrCallerror, next] at handled
  obtain rfl := handled
  exact armed.stop

/-- The worker arms the timer for the message that it sends. -/
theorem Armed.work (armed : s.Armed) (idle : s.queue.inFlight = none) (sent created : Bool) :
    (s.work now sent created).Armed := by
  have free : s.inFlightTimeoutTimer.ArmedFor none := idle ▸ armed
  have inFlight := s.queue.work_inFlight now sent
  unfold Sending.work
  -- Nothing is sent, or sending fails, or a message is in flight from now on.
  rcases outcome : s.queue.work now sent with ⟨queue, _ | _ | message⟩ <;>
    simp only [outcome] at inFlight
  · have same : queue.inFlight = none := inFlight.trans idle
    exact (congrArg s.inFlightTimeoutTimer.ArmedFor same).mpr free
  · exact free.reset free.noCallback
  · exact (congrArg (s.inFlightTimeoutTimer.timeout message created).ArmedFor inFlight).mpr
      (free.timeout message created)

/-- The timer stays armed for the message in flight as long as nothing comes between the two. -/
theorem Armed.step {op : SendingOp} (armed : s.Armed) (undisturbed : s.Undisturbed op)
    (moved : step s op = some t) : t.Armed := by
  -- A run that goes on has not crashed.
  have moved : s.act op = some t := (Option.ite_none_left_eq_some.mp moved).2
  -- Most actions touch neither the message in flight nor its timer.
  cases op with
  | pushCall message =>
    obtain rfl := Option.some.inj moved
    exact (congrArg s.inFlightTimeoutTimer.ArmedFor OutgoingQueue.pushCall_inFlight).mpr armed
  | work now sent created =>
    obtain ⟨enabled, moved⟩ := Option.ite_none_right_eq_some.mp moved
    obtain rfl := Option.some.inj moved
    exact armed.work enabled.2.2 sent created
  | receiveCall uniqueId =>
    obtain ⟨-, moved⟩ := Option.ite_none_left_eq_some.mp moved
    exact Option.some.inj moved ▸ armed
  | answerCall uniqueId =>
    simp only [act] at moved
    split_ifs at moved <;> exact Option.some.inj moved ▸ armed
  | receiveCallResult uniqueId =>
    simp only [act] at moved
    split_ifs at moved with pending same
    · obtain rfl := Option.some.inj moved
      exact armed.reset (undisturbed same)
    · exact Option.some.inj moved ▸ armed
  | receiveCallError uniqueId =>
    simp only [act] at moved
    split_ifs at moved <;> exact Option.some.inj moved ▸ armed
  | handleCallError now beyond freshId =>
    obtain ⟨-, moved⟩ := Option.ite_none_right_eq_some.mp moved
    obtain rfl := Option.some.inj moved
    exact Armed.handleCallError armed undisturbed
  | pause => exact Option.some.inj moved ▸ armed
  | resume delayed =>
    simp only [act] at moved
    split_ifs at moved <;> exact Option.some.inj moved ▸ armed
  | acceptRegistration => exact Option.some.inj moved ▸ armed
  | notifyQueue =>
    obtain ⟨-, moved⟩ := Option.ite_none_right_eq_some.mp moved
    exact Option.some.inj moved ▸ armed
  | otherCommand =>
    obtain rfl := Option.some.inj moved
    exact armed.other
  | processCommand =>
    obtain ⟨service, processed, rfl⟩ := Option.map_eq_some_iff.mp moved
    exact armed.process processed
  | expire timer =>
    obtain ⟨service, expired, rfl⟩ := Option.map_eq_some_iff.mp moved
    exact armed.expire expired undisturbed
  | timerCallback now beyond freshId =>
    obtain ⟨waits, moved⟩ := Option.ite_none_left_eq_some.mp moved
    obtain rfl := Option.some.inj moved
    exact armed.timerCallback waits rfl

/-- A timeout is handled for the message that its timer was armed for. -/
theorem Armed.timeoutHits {op : SendingOp} (armed : s.Armed)
    (moved : Sending.step s op = some t) : s.TimeoutHits op := by
  -- Of all actions only the callback has anything to show.
  cases op with
  | timerCallback now beyond freshId =>
    have moved : s.act (.timerCallback now beyond freshId) = some t :=
      (Option.ite_none_left_eq_some.mp moved).2
    obtain ⟨waits, -⟩ := Option.ite_none_left_eq_some.mp moved
    obtain ⟨timer, waits⟩ := Option.ne_none_iff_exists'.mp waits
    obtain ⟨message, inFlight, created⟩ := armed.hits waits
    exact ⟨message, inFlight, timer, waits, created⟩
  | _ => trivial

/--
A timeout hits the message that it was armed for, in every run in which nothing comes between a
timer and its message.
-/
theorem timeout_hits_its_message (start : Sending) (initial : start.Initial)
    (ops : List SendingOp) (undisturbed : Meets Undisturbed step start ops) :
    Meets TimeoutHits step start ops := by
  -- Before anything is sent there is no message, and no timer.
  have armed : start.Armed := by
    unfold Armed
    rw [initial.1, initial.2]
    exact SteadyTimer.ArmedFor.initial
  exact meets_of_invariant Armed.step (fun armed _ moved => armed.timeoutHits moved) armed
    undisturbed

/-- A queue that retries a transaction message at most three times, and waits a minute for it. -/
def idleQueue : Sending :=
  { queue :=
      { config := { transactionMessageAttempts := 3, transactionMessageRetryInterval := 60 } } }

/-- A transaction message is sent, and its timer started. -/
def sendOne : List SendingOp :=
  [.pushCall { messageAt .transactionEvent 100 with uniqueId := "a" }, .resume false,
    .work 100 true true, .processCommand]

/-- The timer of a message that is not answered expires, and hits that message. -/
theorem timeout_hits_its_message_unanswered :
    Meets TimeoutHits step idleQueue (sendOne ++ [.expire 0, .timerCallback 130 0 "b"]) :=
  timeout_hits_its_message idleQueue ⟨rfl, rfl⟩ _ (by decide +kernel)

/-- An answer that comes while the callback waits for the mutex leaves it nothing to hit. -/
theorem answer_before_callback :
    ¬ Meets TimeoutHits step idleQueue
      (sendOne ++ [.expire 0, .receiveCallResult "a", .timerCallback 130 0 "b"]) ∧
    (run step idleQueue
      (sendOne ++ [.expire 0, .receiveCallResult "a", .timerCallback 130 0 "b"])).map
        Sending.crashed = some true := by
  decide +kernel

end Steps

end Sending

end EasyEvse.Csms
