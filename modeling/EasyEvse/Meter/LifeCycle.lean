import EasyEvse.Meter.Task
import EasyEvse.Transition.Progress

/-! The life cycle of the metrology module: its queues and tasks, created and ended by calls. -/

namespace EasyEvse.Meter

open Transition

/-- Where a metrology task is. -/
inductive LoopPlace
  /-- Setting up, until the first transfer of the meter is completed. -/
  | starting
  /-- About to look whether the task is to end. -/
  | looping
  /-- About to wait for a message in the queue that is there by then. -/
  | msgQGet
  /-- Blocked in a queue until there is a message. -/
  | waiting (queue : ℕ)
  /-- With a message that was received. -/
  | dispatching (msg : Msg)
  /-- Out of the loop, and about to destroy the queue. -/
  | msgQDestroy
  /-- About to destroy the task. -/
  | taskDestroy
  /-- Left behind at the end of its function, which a task must not return from. -/
  | returned
  | ended
  deriving DecidableEq, Repr

/-- Where the caller of the module is. -/
inductive Caller
  | idle
  /-- Initializing, with a new queue and without a task. -/
  | taskCreate
  /-- Initializing, about to say so. -/
  | setInit
  /-- Deinitializing, with the task told to end. -/
  | clearInit
  /-- Deinitializing, about to send the message that wakes the task. -/
  | wake
  /-- In the endless loop after something could not be created. -/
  | failed
  deriving DecidableEq, Repr

/-- The module with all queues and tasks it has created, of which the handles name the last ones. -/
structure LifeCycle where
  isInit : Bool := false
  taskDeleted : Bool := false
  /-- The queues, as long as they were not destroyed. -/
  queues : List (Option (List Msg)) := []
  tasks : List LoopPlace := []
  caller : Caller := .idle
  /-- The buffers that were processed, in their order. -/
  processed : List BufferIndex := []
  /-- Something was used or destroyed after it was destroyed. -/
  faulted : Bool := false
  deriving DecidableEq, Repr

/-- The calls, and the next step of the caller, of a task, or of the interrupt. -/
inductive LifeCycleOp
  | init (created : Bool)
  | deinit
  | caller (created : Bool)
  | task (index : ℕ)
  | startProcessing (data : BufferIndex)
  deriving DecidableEq, Repr

namespace LifeCycle

/-- The handle of the queue names the one that was created last. -/
def queueHandle (s : LifeCycle) : ℕ := s.queues.length - 1

/-- The handle of the task names the one that was created last. -/
def taskHandle (s : LifeCycle) : ℕ := s.tasks.length - 1

/-- Move a task to another place. -/
def move (index : ℕ) (place : LoopPlace) (s : LifeCycle) : LifeCycle :=
  { s with tasks := s.tasks.set index place }

/-- The queue that the handle names, if it was not destroyed. -/
def queue (s : LifeCycle) : Option (List Msg) := s.queues[s.queueHandle]?.join

/-- Send a message, unless the module is not initialized. -/
def setEvent (event : MetrologyEvent) (data : BufferIndex) (s : LifeCycle) : LifeCycle :=
  if s.isInit then
    match s.queue with
    | some queue =>
      { s with queues := s.queues.set s.queueHandle (some (msgQPut queue { event, data })) }
    | none => { s with faulted := true }
  else s

/-- The next statement of the initialization or deinitialization. -/
def call (created : Bool) (s : LifeCycle) : Option LifeCycle :=
  match s.caller with
  | .taskCreate =>
    if created then some { s with tasks := s.tasks ++ [.starting], caller := .setInit }
    else some { s with caller := .failed }
  | .setInit => some { s with isInit := true, caller := .idle }
  | .clearInit => some { s with isInit := false, caller := .wake }
  -- By now the module is not initialized, so that nothing is sent.
  | .wake => some (setEvent .taskDelete 0 { s with caller := .idle })
  | .idle | .failed => none

/-- The buffer that a task processes when it has received a message. -/
def payload (msg : Msg) : List BufferIndex := if msg.event = .dataRcv then [msg.data] else []

/-- The next step of a task. -/
def metrologyTask (index : ℕ) (s : LifeCycle) : Option LifeCycle :=
  match s.tasks[index]? with
  | some .starting => some (s.move index .looping)
  | some .looping => some (s.move index (if s.taskDeleted then .msgQDestroy else .msgQGet))
  | some .msgQGet => some (s.move index (.waiting s.queueHandle))
  | some (.waiting queue) =>
    match s.queues[queue]? with
    | some (some (msg :: rest)) =>
      some ({ s with queues := s.queues.set queue (some rest) }.move index (.dispatching msg))
    | _ => none
  | some (.dispatching msg) =>
    some ({ s with processed := s.processed ++ payload msg }.move index .looping)
  | some .msgQDestroy =>
    match s.queue with
    | some _ => some ({ s with queues := s.queues.set s.queueHandle none }.move index .taskDestroy)
    | none => some { s with faulted := true }
  | some .taskDestroy =>
    -- The handle may name another task by now, and this one then goes on.
    if s.tasks[s.taskHandle]? = some .ended then some { s with faulted := true }
    else some ((s.move index .returned).move s.taskHandle .ended)
  | some .returned | some .ended | none => none

/-- One step, as long as nothing that was destroyed is used. -/
def step : Step LifeCycle LifeCycleOp := fun s op =>
  if s.faulted then none
  else match op with
  | .init created =>
    if s.caller = .idle then
      if s.isInit then some s
      else if created then some { s with queues := s.queues ++ [some []], caller := .taskCreate }
      else some { s with caller := .failed }
    else none
  | .deinit =>
    if s.caller = .idle then
      if s.isInit then some { s with taskDeleted := true, caller := .clearInit } else some s
    else none
  | .caller created => s.call created
  | .task index => s.metrologyTask index
  | .startProcessing data => some (s.setEvent .dataRcv data)

/-- There is exactly one task that has not ended. -/
def OneAlive (s : LifeCycle) : Prop := s.tasks.countP (fun place => place ≠ LoopPlace.ended) = 1

instance (s : LifeCycle) : Decidable s.OneAlive := inferInstanceAs (Decidable (_ = 1))

/-- The task is about to receive a message that is there already, with no other one behind it. -/
def Receiving (s : LifeCycle) : Prop :=
  (s.tasks[s.taskHandle]? = some .msgQGet ∨
    s.tasks[s.taskHandle]? = some (.waiting s.queueHandle)) ∧ (s.queue.getD []).length = 1

instance (s : LifeCycle) : Decidable s.Receiving := inferInstanceAs (Decidable (_ ∧ _))

/--
The calls are made as the module can bear them.

It is not initialized again once it was told to end, and it is told to end only while the task is
about to receive the one message that is there. The task does not give up its queue before the call
has cleared the flag that says it is there.
-/
def Borne (s : LifeCycle) : LifeCycleOp → Prop
  | .init _ => s.isInit = true ∨ s.taskDeleted = false
  | .deinit => s.isInit = true → s.Receiving
  | .task index => s.tasks[index]? = some .msgQDestroy → s.isInit = false
  | .caller _ | .startProcessing _ => True

instance (s : LifeCycle) : DecidablePred s.Borne
  | .init _ => inferInstanceAs (Decidable (_ ∨ _))
  | .deinit => inferInstanceAs (Decidable (_ → _))
  | .task _ => inferInstanceAs (Decidable (_ → _))
  | .caller _ | .startProcessing _ => isTrue trivial

/-- The buffers of the message that a task has received and not yet processed. -/
def inHand : LoopPlace → List BufferIndex
  | .dispatching msg => payload msg
  | _ => []

/-- The buffers that are processed by the time that the queue is empty. -/
def owed (s : LifeCycle) : List BufferIndex :=
  s.processed ++ s.tasks.flatMap inHand ++ (s.queue.getD []).flatMap payload

/-- What is put into the queue now will be processed, after what is there already. -/
def Serves (s : LifeCycle) : Prop :=
  ∀ data, (s.queue.getD []).length < queueLength →
    -- The calls that come before it is processed may tell the task to end.
    Inevitable Borne step (.task s.taskHandle)
      (fun u => s.owed ++ [data] <+: u.processed) (s.setEvent .dataRcv data)

/-- A task that is told to end receives a message, and ends. -/
def ShutsDown (s : LifeCycle) : LifeCycleOp → Prop
  | .deinit => s.isInit = true → ∀ t, step s .deinit = some t →
      Inevitable Borne step (.task s.taskHandle)
        (fun u => ∃ msg, u.tasks[s.taskHandle]? = some (.dispatching msg)) t ∧
      Inevitable Borne step (.task s.taskHandle)
        (fun u => u.tasks[s.taskHandle]? = some .ended) t
  | _ => True

end LifeCycle

end EasyEvse.Meter
