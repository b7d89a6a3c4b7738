import EasyEvse.Meter.Shutdown

/-! The task beside the interrupt is the first task of the module, as long as it lives. -/

namespace EasyEvse.Meter

open Transition

/-- Where a task is, for those who do not look at its buffers. -/
def TaskState.place : TaskState → LoopPlace
  | .metrologyInit | .afeInit | .awaitTransfer | .cleanEverything => .starting
  | .looping => .looping
  | .msgQGet => .msgQGet
  | .dispatching msg => .dispatching msg
  | .processing buffer | .calculating buffer => .dispatching ⟨.dataRcv, buffer⟩
  | .ended => .ended

/-- Where the caller is, as the flags tell. -/
def Metrology.caller (s : Metrology) : Caller :=
  match s.isInit, s.taskDeleted with
  | false, false => .setInit
  | true, true => .clearInit
  | true, false | false, true => .idle

/-- The module with the buffers left aside. -/
structure LifeCycle.Follows (l : LifeCycle) (s : Metrology) : Prop where
  sole : l.Sole (if s.task = .ended then none else some s.queue) s.task.place
  isInit : l.isInit = s.isInit
  taskDeleted : l.taskDeleted = s.taskDeleted
  caller : l.caller = s.caller
  ended : s.task = .ended → s.isInit = false ∧ s.taskDeleted = true

/-- The task does not leave its loop while the module is initialized. -/
def Metrology.LeavesLate (s : Metrology) : MetrologyOp → Prop
  | .task => s.task = .looping → s.taskDeleted = true → s.isInit = false
  | _ => True

/-- The module can come to the state of a task from its start. -/
def Metrology.Lived (s : Metrology) : Prop :=
  ∃ calls l, run LifeCycle.step {} calls = some l ∧ l.Follows s

section Steps

variable {crc : Sample → BitVec 16} {s t : Metrology} {l : LifeCycle} {op : MetrologyOp}

/-- Buffers and transfers do not matter to those who do not look at them. -/
theorem LifeCycle.Follows.congr (follows : l.Follows s) (task : t.task.place = s.task.place)
    (ended : t.task = .ended ↔ s.task = .ended) (queue : t.queue = s.queue)
    (flags : t.isInit = s.isInit ∧ t.taskDeleted = s.taskDeleted) : l.Follows t := by
  obtain ⟨isInit, taskDeleted⟩ := flags
  obtain ⟨sole, isInit', taskDeleted', caller, dead⟩ := follows
  refine ⟨?_, isInit'.trans isInit.symm, taskDeleted'.trans taskDeleted.symm, ?_, ?_⟩
  · rw [task, queue]
    simpa only [ended] using sole
  · rw [caller, Metrology.caller, Metrology.caller, isInit, taskDeleted]
  · rw [ended, isInit, taskDeleted]
    exact dead

/-- A task that is alive moves to another place, and the queue stays. -/
theorem LifeCycle.Follows.move (follows : l.Follows s) (alive : s.task ≠ .ended)
    (alive' : t.task ≠ .ended) (queue : t.queue = s.queue)
    (flags : t.isInit = s.isInit ∧ t.taskDeleted = s.taskDeleted) :
    (l.move 0 t.task.place).Follows t := by
  obtain ⟨isInit, taskDeleted⟩ := flags
  obtain ⟨sole, isInit', taskDeleted', caller, -⟩ := follows
  refine ⟨?_, isInit'.trans isInit.symm, taskDeleted'.trans taskDeleted.symm, ?_,
    fun dead => absurd dead alive'⟩
  -- The first task is the only one of the life, and its place alone changes.
  · rw [if_neg alive', queue]
    rw [if_neg alive] at sole
    exact sole.move _
  · rw [Metrology.caller, isInit, taskDeleted]
    exact caller

/-- A task that is done with its message is back in its loop. -/
theorem LifeCycle.Follows.done {msg : Msg} (follows : l.Follows s)
    (holds : s.task.place = .dispatching msg) (alive : s.task ≠ .ended) (back : t.task = .looping)
    (queue : t.queue = s.queue)
    (flags : t.isInit = s.isInit ∧ t.taskDeleted = s.taskDeleted) :
    ∃ l', run LifeCycle.step l [.task 0] = some l' ∧ l'.Follows t := by
  have sole := follows.sole
  -- What the message carries is processed before the task goes back.
  have here := sole.here
  rw [holds] at here
  have processed : LifeCycle.Follows { l with processed := l.processed ++ payload msg } s :=
    ⟨⟨sole.queues, sole.tasks, sole.sound⟩, follows.isInit, follows.taskDeleted, follows.caller,
      follows.ended⟩
  refine ⟨_, LifeCycle.run_task sole.sound ?_,
    processed.move alive (by simp [back]) queue flags⟩
  simp [LifeCycle.metrologyTask, here, back, TaskState.place]

/-- A message about a buffer reaches the queue of the first task, if the module is initialized. -/
theorem LifeCycle.Follows.setEvent (follows : l.Follows s) (event : MetrologyEvent)
    (data : BufferIndex) : (l.setEvent event data).Follows (s.setEvent event data) := by
  -- A message of a module that is not initialized is dropped on both sides.
  cases initialized : s.isInit with
  | false =>
    have off : l.isInit = false := follows.isInit.trans initialized
    simpa [LifeCycle.setEvent, Metrology.setEvent, off, initialized] using follows
  | true =>
    have on : l.isInit = true := follows.isInit.trans initialized
    have alive : s.task ≠ .ended := fun dead => by simp [(follows.ended dead).1] at initialized
    have sole := follows.sole
    rw [if_neg alive] at sole
    rw [sole.setEvent on, Metrology.setEvent, if_pos initialized]
    refine ⟨⟨?_, sole.tasks, sole.sound⟩, follows.isInit, follows.taskDeleted, follows.caller,
      follows.ended⟩
    rw [if_neg alive]

/-- Out of the loop the first task destroys its queue, and then itself. -/
theorem LifeCycle.Follows.leaves (follows : l.Follows s) (place : s.task = .looping)
    (deleted : s.taskDeleted = true) (off : s.isInit = false) :
    ∃ ops l', run LifeCycle.step l ops = some l' ∧
      l'.Follows { s with queue := [], task := .ended } := by
  -- The life is in the states from which it comes to its end by itself.
  have isInit : l.isInit = false := follows.isInit.trans off
  have told : l.taskDeleted = true := follows.taskDeleted.trans deleted
  have caller : l.caller = .idle := by
    rw [follows.caller, Metrology.caller, off, deleted]
  have stopping : l.Stopping (some s.queue) .looping := by
    refine ⟨?_, told, .inr ⟨isInit, .inr caller⟩, rfl⟩
    simpa [place, TaskState.place] using follows.sole
  obtain ⟨l', ran, ended, sameInit, sameDeleted, sameCaller⟩ := stopping.ends isInit
  exact ⟨_, l', ran, ended, sameInit.trans follows.isInit, sameDeleted.trans follows.taskDeleted,
    sameCaller.trans follows.caller, fun _ => ⟨off, deleted⟩⟩

/-- A message that is there is received by the first task in two steps, of which one waits. -/
theorem LifeCycle.Follows.receives {msg : Msg} {rest : List Msg} (follows : l.Follows s)
    (place : s.task = .msgQGet) (queue : s.queue = msg :: rest) :
    ∃ ops l', run LifeCycle.step l ops = some l' ∧
      l'.Follows { s with queue := rest, task := .dispatching msg } := by
  have sole : l.Sole (some (msg :: rest)) .msgQGet := by
    simpa [place, queue, TaskState.place] using follows.sole
  -- Between the two steps the task waits at its queue.
  have waiting := sole.move (.waiting 0)
  have first : l.metrologyTask 0 = some (l.move 0 (.waiting 0)) := by
    simp [LifeCycle.metrologyTask, sole.here, sole.handles]
  refine ⟨[.task 0, .task 0],
    { l.move 0 (.waiting 0) with queues := [some rest] }.move 0 (.dispatching msg), ?_,
    ⟨⟨?_, (waiting.move _).tasks, sole.sound⟩, follows.isInit, follows.taskDeleted,
      follows.caller, by simp⟩⟩
  · rw [run_cons, LifeCycle.step_task sole.sound, first, Option.bind_some, run_cons,
      LifeCycle.step_task waiting.sound, waiting.receive]
    rfl
  · simp [LifeCycle.move]

/-- Every step of the task is followed by as many steps of the first task as it takes. -/
theorem LifeCycle.Follows.task (follows : l.Follows s) (late : s.LeavesLate .task)
    (moved : s.metrologyTask = some t) :
    ∃ ops l', run LifeCycle.step l ops = some l' ∧ l'.Follows t := by
  have sole := follows.sole
  have here := sole.here
  have taken : ∀ l', l.metrologyTask 0 = some l' → run LifeCycle.step l [.task 0] = some l' :=
    fun _ => LifeCycle.run_task sole.sound
  -- One case for each place of the task; the lives have fewer places, and so some steps are none.
  unfold Metrology.metrologyTask at moved
  cases place : s.task with
  | metrologyInit | afeInit =>
    simp only [place, Option.some.injEq] at moved
    subst moved
    exact ⟨[], l, rfl, follows.congr (by simp [place, TaskState.place]) (by simp [place]) rfl
      ⟨rfl, rfl⟩⟩
  | awaitTransfer =>
    simp only [place, Option.ite_none_right_eq_some, Option.some.injEq] at moved
    obtain ⟨-, rfl⟩ := moved
    exact ⟨[], l, rfl, follows.congr (by simp [place, TaskState.place]) (by simp [place]) rfl
      ⟨rfl, rfl⟩⟩
  | cleanEverything =>
    simp only [place, Option.some.injEq] at moved
    subst moved
    rw [place] at here
    exact ⟨_, _, taken _ (by simp [LifeCycle.metrologyTask, here, TaskState.place]),
      follows.move (by simp [place]) (by simp) rfl ⟨rfl, rfl⟩⟩
  | looping =>
    simp only [place] at moved
    rw [place] at here
    -- The flag is looked at once in each round of the loop.
    split_ifs at moved with deleted
    · obtain rfl := Option.some.inj moved
      exact follows.leaves place deleted (late place deleted)
    · obtain rfl := Option.some.inj moved
      have stays : l.taskDeleted = false := follows.taskDeleted.trans (by simpa using deleted)
      exact ⟨_, _, taken _ (by simp [LifeCycle.metrologyTask, here, TaskState.place, stays]),
        follows.move (by simp [place]) (by simp) rfl ⟨rfl, rfl⟩⟩
  | msgQGet =>
    simp only [place] at moved
    cases queue : s.queue with
    | nil => simp [queue] at moved
    | cons msg rest =>
      simp only [queue, Option.some.injEq] at moved
      subst moved
      exact follows.receives place queue
  | dispatching msg =>
    simp only [place] at moved
    rw [place] at here
    -- Data of a transfer is processed first, and other messages are done with at once.
    split_ifs at moved with accepted
    · obtain rfl := Option.some.inj moved
      refine ⟨[], l, rfl, follows.congr ?_ (by simp [place]) rfl ⟨rfl, rfl⟩⟩
      obtain ⟨event, data⟩ := msg
      obtain rfl : event = .dataRcv := accepted.1
      simp [place, TaskState.place]
    · obtain rfl := Option.some.inj moved
      exact ⟨_, follows.done (by rw [place]; rfl) (by simp [place]) rfl rfl ⟨rfl, rfl⟩⟩
  | processing buffer =>
    simp only [place, Option.some.injEq] at moved
    subst moved
    exact ⟨[], l, rfl, follows.congr (by simp [place, TaskState.place]) (by simp [place]) rfl
      ⟨rfl, rfl⟩⟩
  | calculating buffer | ended => simp [place] at moved

/-- One life of the module is among the lives that it can lead. -/
theorem LifeCycle.Follows.step (follows : l.Follows s) (late : s.LeavesLate op)
    (moved : metrologyStep crc s op = some t) :
    ∃ ops l', run LifeCycle.step l ops = some l' ∧ l'.Follows t := by
  have ⟨sole, isInit, taskDeleted, caller, ended⟩ := follows
  -- One case for each operation: a step of the task, an interrupt, or a call.
  cases op with
  | task => exact follows.task late moved
  | spiRxDmaCallback transferDone frame =>
    obtain ⟨-, moved⟩ := Option.ite_none_right_eq_some.mp moved
    obtain rfl := Option.some.inj moved
    cases transferDone with
    -- An interrupt without a complete frame is none of the life's events.
    | false => exact ⟨[], l, rfl, follows⟩
    | true =>
      -- A complete frame may complete a buffer, which is told to the task.
      rcases received : s.metering.spiRxDmaCallback crc frame with ⟨metering, finished⟩
      have stored : l.Follows { s with isTransferCompleted := true, metering } :=
        follows.congr rfl Iff.rfl rfl ⟨rfl, rfl⟩
      simp only [Metrology.spiRxDmaCallback, if_true, received]
      cases finished with
      | false => exact ⟨[], l, rfl, stored⟩
      | true =>
        refine ⟨[.startProcessing metering.rdBuffer], _, ?_, stored.setEvent .dataRcv _⟩
        simp [LifeCycle.step, sole.sound]
  | calculated spectrum =>
    simp only [metrologyStep] at moved
    split at moved
    · rename_i buffer place
      obtain rfl := Option.some.inj moved
      exact ⟨_, follows.done (by rw [place]; rfl) (by simp [place]) rfl rfl ⟨rfl, rfl⟩⟩
    · cases moved
  | init =>
    obtain ⟨⟨off, kept⟩, moved⟩ := Option.ite_none_right_eq_some.mp moved
    obtain rfl := Option.some.inj moved
    -- The caller is at the statement that sets the flag.
    have setting : l.caller = .setInit := by rw [caller, Metrology.caller, off, kept]
    refine ⟨[.caller true], { l with isInit := true, caller := .idle }, ?_,
      ⟨⟨sole.queues, sole.tasks, sole.sound⟩, rfl, taskDeleted, ?_, fun dead => ?_⟩⟩
    · simp [LifeCycle.step, sole.sound, LifeCycle.call, setting]
    · simp [Metrology.caller, kept]
    · simp [(ended dead).2] at kept
  | deinit =>
    obtain ⟨on, moved⟩ := Option.ite_none_right_eq_some.mp moved
    obtain rfl := Option.some.inj moved
    -- A second deinitialization does nothing that the first one did not.
    cases told : s.taskDeleted with
    | true => exact ⟨[], l, rfl, follows.congr rfl Iff.rfl rfl ⟨rfl, told.symm⟩⟩
    | false =>
      have idle : l.caller = .idle := by rw [caller, Metrology.caller, on, told]
      refine ⟨[.deinit], { l with taskDeleted := true, caller := .clearInit }, ?_,
        ⟨⟨sole.queues, sole.tasks, sole.sound⟩, isInit, rfl, ?_, fun dead => ?_⟩⟩
      · simp [LifeCycle.step, sole.sound, idle, isInit, on]
      · simp [Metrology.caller, on]
      · simp [(ended dead).1] at on
  | deinitRest =>
    obtain ⟨told, moved⟩ := Option.ite_none_right_eq_some.mp moved
    obtain rfl := Option.some.inj moved
    -- The rest of the deinitialization clears the flag, and its message is dropped after that.
    cases initialized : s.isInit with
    | false =>
      exact ⟨[], l, rfl, follows.congr rfl Iff.rfl rfl ⟨initialized.symm, rfl⟩⟩
    | true =>
      have clearing : l.caller = .clearInit := by
        rw [caller, Metrology.caller, initialized, told]
      refine ⟨[.caller true, .caller true], { l with isInit := false, caller := .idle }, ?_,
        ⟨⟨sole.queues, sole.tasks, sole.sound⟩, rfl, taskDeleted, ?_, fun _ => ⟨rfl, told⟩⟩⟩
      · simp [LifeCycle.step, sole.sound, LifeCycle.call, clearing, LifeCycle.setEvent]
      · simp [Metrology.caller, told, Metrology.setEvent]

/-- Whatever happens to a task that was just created, the module can come to it from its start. -/
theorem one_life {ops : List MetrologyOp}
    (late : Meets Metrology.LeavesLate (metrologyStep crc) {} ops)
    (finish : run (metrologyStep crc) {} ops = some t) : t.Lived := by
  -- The first two statements of the initialization lead to the task that was just created.
  have created : Metrology.Lived {} :=
    ⟨[.init true, .caller true], _, rfl, ⟨rfl, rfl, rfl⟩, rfl, rfl, rfl, by simp⟩
  refine run_guarded_invariant (fun reached late moved => ?_) created late finish
  obtain ⟨calls, l, ran, follows⟩ := reached
  obtain ⟨more, l', ran', follows'⟩ := follows.step late moved
  exact ⟨calls ++ more, l', run_trans ran ran', follows'⟩

end Steps

end EasyEvse.Meter
