import EasyEvse.Threads.Monitor

/-! The callbacks of the websocket, which one thread calls in the order they are pushed. -/

namespace EasyEvse.Websocket

open Threads Transition

variable {α : Type}

/-- Where the thread of the deferred callbacks stands. -/
inductive Stage (α : Type)
  /-- In `wait_on_queue_element_or_predicate`. -/
  | waiting
  | checking
  | stopping
  | popping
  | calling (callback : α)
  | finished
  /-- After it took the front of an empty queue. -/
  | undefined
  deriving DecidableEq, Repr

/-- The queue of the callbacks and its thread, with what was pushed and what was called so far. -/
structure DeferredQueue (α : Type) where
  queue : List α := []
  stopDeferredHandler : Bool := false
  stage : Stage α := .waiting
  pushed : List α := []
  called : List α := []
  deriving DecidableEq, Repr

/-- What is done with the queue, each by one statement, or under its mutex. -/
inductive DeferredOp (α : Type)
  | push (callback : α)
  /-- The destructor asks the thread to stop. -/
  | stop
  | wakeUp
  | readStop
  | readEmpty
  | pop
  | call
  deriving DecidableEq, Repr

namespace DeferredQueue

/-- The condition that the thread waits for. -/
def awaited (d : DeferredQueue α) : Bool := !d.queue.isEmpty || d.stopDeferredHandler

/-- The callback that the thread took from the queue. -/
def hand (d : DeferredQueue α) : List α :=
  match d.stage with
  | .calling callback => [callback]
  | _ => []

/-- The tasks push callbacks, and the thread takes its statements one after the other. -/
def step : Step (DeferredQueue α) (DeferredOp α) := fun d op =>
  match op, d.stage with
  | .push callback, _ =>
    some { d with queue := d.queue ++ [callback], pushed := d.pushed ++ [callback] }
  | .stop, _ => some { d with stopDeferredHandler := true }
  | .wakeUp, .waiting => if d.awaited then some { d with stage := .checking } else none
  | .readStop, .checking =>
    some { d with stage := if d.stopDeferredHandler then .stopping else .popping }
  | .readEmpty, .stopping =>
    some { d with stage := if d.queue.isEmpty then .finished else .popping }
  -- The front is taken without another look at the queue.
  | .pop, .popping =>
    match d.queue with
    | [] => some { d with stage := .undefined }
    | front :: rest => some { d with queue := rest, stage := .calling front }
  | .call, .calling callback =>
    some { d with called := d.called ++ [callback], stage := .waiting }
  | _, _ => none

/-- The thread knows that it will find what it is about to take. -/
def Sure (d : DeferredQueue α) : Prop :=
  match d.stage with
  | .checking => d.awaited = true
  | .stopping => d.stopDeferredHandler = true
  | .popping => d.queue ≠ []
  | .finished => d.stopDeferredHandler = true
  | .undefined => False
  | _ => True

/-- Every callback is still in the queue, or in the thread's hand, or was called in its turn. -/
def InOrder (d : DeferredQueue α) : Prop := d.pushed = d.called ++ d.hand ++ d.queue

variable {d next : DeferredQueue α} {op : DeferredOp α} {ops : List (DeferredOp α)}

/-- Everything that can happen next, with what it asks for and what it does. -/
inductive Does (d : DeferredQueue α) : DeferredOp α → DeferredQueue α → Prop
  | push {callback : α} : Does d (.push callback)
      { d with queue := d.queue ++ [callback], pushed := d.pushed ++ [callback] }
  | stop : Does d .stop { d with stopDeferredHandler := true }
  | wakeUp (stage : d.stage = .waiting) (awaited : d.awaited = true) :
    Does d .wakeUp { d with stage := .checking }
  | stopping (stage : d.stage = .checking) (asked : d.stopDeferredHandler = true) :
    Does d .readStop { d with stage := .stopping }
  | goOn (stage : d.stage = .checking) (unasked : d.stopDeferredHandler = false) :
    Does d .readStop { d with stage := .popping }
  | finish (stage : d.stage = .stopping) (empty : d.queue = []) :
    Does d .readEmpty { d with stage := .finished }
  | drain (stage : d.stage = .stopping) (more : d.queue ≠ []) :
    Does d .readEmpty { d with stage := .popping }
  | popNothing (stage : d.stage = .popping) (empty : d.queue = []) :
    Does d .pop { d with stage := .undefined }
  | pop {front : α} {rest : List α} (stage : d.stage = .popping)
    (queued : d.queue = front :: rest) :
    Does d .pop { d with queue := rest, stage := .calling front }
  | call {callback : α} (stage : d.stage = .calling callback) :
    Does d .call { d with called := d.called ++ [callback], stage := .waiting }

/-- Whatever happens is one of the above. -/
theorem step_does (moved : step d op = some next) : Does d op next := by
  -- One case for each operation, with the stage of the thread that allows it.
  cases op with
  | push callback =>
    obtain rfl := Option.some.inj moved
    exact .push
  | stop =>
    obtain rfl := Option.some.inj moved
    exact .stop
  | wakeUp =>
    cases stage : d.stage <;> simp [step, stage] at moved
    obtain ⟨awaited, rfl⟩ := moved
    exact .wakeUp stage awaited
  | readStop =>
    cases stage : d.stage <;> simp [step, stage] at moved
    subst moved
    -- The flag is read once, and what is read decides the next stage.
    split
    · rename_i asked
      exact .stopping stage asked
    · rename_i unasked
      exact .goOn stage (by simpa using unasked)
  | readEmpty =>
    cases stage : d.stage <;> simp [step, stage] at moved
    subst moved
    split
    -- An empty queue ends the thread that is to stop.
    · rename_i empty
      exact .finish stage empty
    · rename_i more
      exact .drain stage more
  | pop =>
    cases stage : d.stage <;> simp [step, stage] at moved
    -- The queue is not looked at here, and so both cases are possible.
    cases queued : d.queue with
    | nil =>
      obtain rfl : { d with stage := .undefined } = next := by simpa [queued] using moved
      simpa [queued] using Does.popNothing stage queued
    | cons front rest =>
      obtain rfl : { d with queue := rest, stage := .calling front } = next := by
        simpa [queued] using moved
      exact .pop stage queued
  | call =>
    cases stage : d.stage <;> simp [step, stage] at moved
    subst moved
    exact .call stage

/-- Others only add to what the thread has seen, so that it finds what it is about to take. -/
theorem Does.sure (does : Does d op next) (sure : d.Sure) : next.Sure := by
  -- The stages between the wake-up and the taking are the ones that know something.
  cases does with
  | push => cases stage : d.stage <;> simp_all [Sure, awaited]
  | stop => cases stage : d.stage <;> simp_all [Sure, awaited]
  | goOn stage unasked =>
    -- The thread was woken by what is in the queue.
    simpa [Sure, awaited, stage, unasked] using sure
  -- The stage would know that the queue is not empty.
  | popNothing stage empty => simp [Sure, stage, empty] at sure
  | wakeUp stage awaited => exact awaited
  | _ => simp_all [Sure]

/-- Callbacks are taken from the front of the queue, and called before the next one is taken. -/
theorem Does.inOrder (does : Does d op next) (inOrder : d.InOrder) : next.InOrder := by
  unfold InOrder at inOrder ⊢
  -- A callback only moves from the queue to the hand, and from there to those that were called.
  cases does <;> simp_all [hand]

/-- The thread ends with nothing left to call. -/
theorem Does.drained (does : Does d op next) (inOrder : d.InOrder) (sure : d.Sure)
    (ends : next.stage = .finished) (running : d.stage ≠ .finished) :
    next.stopDeferredHandler = true ∧ next.called = next.pushed := by
  cases does with
  -- The thread ends only after it saw an empty queue, with nothing in its hand.
  | finish stage empty =>
    have asked : d.stopDeferredHandler = true := by simpa [Sure, stage] using sure
    have all : d.pushed = d.called ++ d.hand ++ d.queue := inOrder
    exact ⟨asked, by simpa [hand, stage, empty] using all.symm⟩
  | _ => simp_all

/--
However the tasks push and the destructor stops, the callbacks are called in order and once.

The thread never takes a callback from an empty queue, and when it ends all of them were called.
-/
theorem called_in_order (ran : run step {} ops = some d) : d.stage ≠ .undefined ∧
    d.pushed = d.called ++ d.hand ++ d.queue ∧
    ∀ op next, step d op = some next → next.stage = .finished → d.stage ≠ .finished →
      next.stopDeferredHandler = true ∧ next.called = next.pushed := by
  -- Both invariants hold at the start, and every step keeps them.
  have start : Sure ({} : DeferredQueue α) ∧ InOrder ({} : DeferredQueue α) := ⟨trivial, rfl⟩
  obtain ⟨sure, inOrder⟩ := @run_invariant _ _ _ _ _ _ (fun s => Sure s ∧ InOrder s)
    (fun kept moved => ⟨(step_does moved).sure kept.1, (step_does moved).inOrder kept.2⟩) start ran
  refine ⟨fun stage => ?_, inOrder, fun op next moved ends running => ?_⟩
  · simp [Sure, stage] at sure
  · exact (step_does moved).drained inOrder sure ends running

/-- Two callbacks are pushed, and the destructor asks for the stop after one of them was called. -/
def oneLeft : DeferredQueue ℕ :=
  { queue := [2], stopDeferredHandler := true, stage := .stopping, pushed := [1, 2], called := [1] }

theorem called_in_order_two : oneLeft.stage ≠ .undefined ∧
    oneLeft.pushed = oneLeft.called ++ oneLeft.hand ++ oneLeft.queue ∧
    ∀ op next, step oneLeft op = some next → next.stage = .finished → oneLeft.stage ≠ .finished →
      next.stopDeferredHandler = true ∧ next.called = next.pushed :=
  called_in_order (show run step {} [.push 1, .push 2, .wakeUp, .readStop, .pop, .call, .wakeUp,
    .stop, .readStop] = some oneLeft from rfl)

/-- The notification that goes with an operation. -/
def notice : DeferredOp α → Option Bool
  | .push _ | .stop | .pop => some false
  | _ => none

/-- The operations that lock the mutex of the queue. -/
def locksMutex : DeferredOp α → Bool
  | .push _ | .wakeUp | .readEmpty | .pop => true
  | _ => false

def byThread : DeferredOp α → Bool
  | .push _ | .stop => false
  | _ => true

/-- The queue as the data of a monitor, with its thread waiting for a callback or the stop. -/
def program : Program (DeferredQueue α) (DeferredOp α) where
  change := step
  -- Only the wait has a condition, and the thread is busy everywhere else.
  ready d := match d.stage with
    | .waiting => d.awaited
    | _ => true
  notice _ := notice
  locked := locksMutex
  byWorker := byThread

/-- The destructor asks for the stop without the mutex. -/
def isStop : DeferredOp α → Bool
  | .stop => true
  | _ => false

/-- What the thread waits for is told to it. -/
theorem program_told : Monitor.Told (program (α := α)) isStop := by
  intro d op next idle moved work
  have waiting : d.stage = .waiting := by
    cases stage : d.stage <;> simp [program, stage] at idle ⊢
  -- A thread that waits with nothing to do does not do anything.
  cases op with
  -- A push notifies with the mutex locked, and the stop only notifies.
  | push callback => exact ⟨by simp [program, notice], by simp [program, locksMutex]⟩
  | stop => exact ⟨by simp [program, notice], fun _ => rfl⟩
  | wakeUp => simp_all [program, step]
  | _ => simp [program, step, waiting] at moved

end DeferredQueue

section Thread

open DeferredQueue

variable {τ : Type} [DecidableEq τ] {thread : τ} {m : Monitor τ (DeferredQueue α)}
  {acts : List (Act τ (DeferredOp α))}

/--
The thread does not sleep while there is a callback to call, or it was asked to stop.

The destructor must not ask just before the thread sleeps, since it does not lock the mutex.
-/
theorem thread_woken (aside : Meets (Monitor.Aside isStop thread) (Monitor.step program thread)
      (.created {}) acts)
    (ran : run (Monitor.step program thread) (.created {}) acts = some m)
    (asleep : m.Asleep thread) (awaited : m.data.awaited = true) : m.Stirring := by
  refine program_told.woken aside ran asleep ?_
  -- The thread can only sleep in its wait, where the condition is the one it waits for.
  cases stage : m.data.stage <;> simp [program, stage, awaited]

/-- The thread sleeps, and a callback is pushed for it. -/
theorem thread_woken_push : ∃ m : Monitor (Fin 2) (DeferredQueue ℕ),
    run (Monitor.step program 0) (.created {}) ([.move (.lock 0), .wait false] ++
      List.replicate 4 (.move (.advance 0)) ++ [.move (.lock 1), .change 1 (.push 7)]) = some m ∧
    m.Stirring :=
  ⟨_, rfl, @thread_woken _ _ _ 0 _ ([.move (.lock 0), .wait false] ++
    List.replicate 4 (.move (.advance 0)) ++ [.move (.lock 1), .change 1 (.push 7)])
    (by decide +kernel) rfl ⟨trivial, rfl⟩ rfl⟩

/-- The destructor asks the thread to stop while that is about to sleep, and waits for it. -/
theorem stop_missed : ∃ m : Monitor (Fin 2) (DeferredQueue ℕ),
    run (Monitor.step program 0) (.created {}) ([.move (.lock 0), .wait false, .change 1 .stop,
      .notify 1] ++ List.replicate 3 (.move (.advance 1)) ++
      List.replicate 4 (.move (.advance 0))) = some m ∧
    m.Asleep 0 ∧ m.data.stopDeferredHandler = true ∧ ¬ m.Stirring := by
  refine ⟨_, rfl, ⟨trivial, rfl⟩, rfl, ?_⟩
  -- No task owes a notification any more, and none is under way.
  rintro ⟨u, owed | underway⟩
  · revert u
    decide +kernel
  · revert u
    decide +kernel

end Thread

end EasyEvse.Websocket
