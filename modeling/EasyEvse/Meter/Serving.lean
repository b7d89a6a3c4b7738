import EasyEvse.Meter.LifeCycle

/-! What a metrology task that was not told to end gets on with, and what it owes. -/

namespace EasyEvse.Meter

open Transition

namespace LifeCycle

/-- There is one queue and one task, and nothing went wrong. -/
structure Sole (s : LifeCycle) (queue : Option (List Msg)) (place : LoopPlace) : Prop where
  queues : s.queues = [queue]
  tasks : s.tasks = [place]
  sound : s.faulted = false

/-- A place in or before the loop, with a message of the interrupt if there is one. -/
def Serving : LoopPlace → Prop
  | .starting | .looping | .msgQGet => True
  | .waiting queue => queue = 0
  | .dispatching msg => msg.event = .dataRcv
  | .msgQDestroy | .taskDestroy | .returned | .ended => False

/-- The task was created, and not told to end. -/
structure Running (s : LifeCycle) (queue : List Msg) (place : LoopPlace) : Prop where
  sole : s.Sole (some queue) place
  taskDeleted : s.taskDeleted = false
  caller : s.isInit = true ∧ s.caller = .idle ∨ s.isInit = false ∧ s.caller = .setInit
  serving : Serving place
  data : ∀ msg ∈ queue, msg.event = .dataRcv

section Steps

variable {s t : LifeCycle} {queue : Option (List Msg)} {messages : List Msg}
  {place next : LoopPlace} {op : LifeCycleOp} {index : ℕ}

/-- The handles name the only queue and the only task. -/
theorem Sole.handles (sole : s.Sole queue place) :
    s.queueHandle = 0 ∧ s.taskHandle = 0 ∧ s.queue = queue := by
  simp [queueHandle, taskHandle, LifeCycle.queue, sole.queues, sole.tasks]

/-- The only task is where it is. -/
theorem Sole.here (sole : s.Sole queue place) : s.tasks[0]? = some place := by simp [sole.tasks]

/-- The only task moves to another place. -/
theorem Sole.move (sole : s.Sole queue place) (next : LoopPlace) :
    (s.move 0 next).Sole queue next :=
  ⟨sole.queues, by simp [LifeCycle.move, sole.tasks], sole.sound⟩

/-- There is no other task that could take a step. -/
theorem Sole.index_eq (sole : s.Sole queue place) (moved : s.metrologyTask index = some t) :
    index = 0 := by
  -- The list of tasks ends after the only one.
  by_contra other
  have absent : s.tasks[index]? = none := by
    rw [sole.tasks, List.getElem?_eq_none_iff, List.length_singleton]
    omega
  simp [metrologyTask, absent] at moved

/-- A task changes neither the flags nor what the caller is about to do. -/
theorem metrologyTask_frame (moved : s.metrologyTask index = some t) :
    t.isInit = s.isInit ∧ t.taskDeleted = s.taskDeleted ∧ t.caller = s.caller := by
  unfold metrologyTask at moved
  split at moved
  -- A receipt and the two destructions look at more than the place of the task.
  case h_4 | h_6 | h_7 => split at moved <;> cases moved <;> exact ⟨rfl, rfl, rfl⟩
  all_goals cases moved <;> exact ⟨rfl, rfl, rfl⟩

/-- While nothing went wrong, a step of a task is what the task does. -/
theorem step_task (sound : s.faulted = false) : step s (.task index) = s.metrologyTask index := by
  simp [step, sound]

/-- A run of one step of a task. -/
theorem run_task (sound : s.faulted = false) (taken : s.metrologyTask index = some t) :
    run step s [.task index] = some t := by
  rw [run_cons, step_task sound, taken]
  rfl

/-- What is owed with one task. -/
theorem Sole.owed (sole : s.Sole queue place) :
    s.owed = s.processed ++ inHand place ++ (queue.getD []).flatMap payload := by
  simp [LifeCycle.owed, sole.tasks, sole.handles.2.2]

/-- The task takes the oldest message from the only queue. -/
theorem Sole.receive {msg : Msg} {rest : List Msg}
    (sole : s.Sole (some (msg :: rest)) (.waiting 0)) :
    s.metrologyTask 0 = some ({ s with queues := [some rest] }.move 0 (.dispatching msg)) := by
  simp [metrologyTask, sole.tasks, sole.queues]

/-- A message goes into the only queue, if the module is initialized. -/
theorem Sole.setEvent (sole : s.Sole (some messages) place) (isInit : s.isInit = true)
    (event : MetrologyEvent) (data : BufferIndex) :
    s.setEvent event data = { s with queues := [some (msgQPut messages ⟨event, data⟩)] } := by
  simp [LifeCycle.setEvent, isInit, sole.handles, sole.queues]

/-- The steps left until a task in its loop has received a message and processed it. -/
def remaining : LoopPlace → ℕ
  | .starting => 4
  | .looping => 3
  | .msgQGet => 2
  | .waiting _ => 1
  | _ => 0

/-- The task moves on in its loop, or towards it. -/
theorem Running.move (running : s.Running messages place) (serving : Serving next) :
    (s.move 0 next).Running messages next :=
  ⟨running.sole.move next, running.taskDeleted, running.caller, serving, running.data⟩

/-- Nothing is lost while the task has no message in hand. -/
theorem Running.owed_move (running : s.Running messages place) (before : inHand place = [])
    (after : inHand next = []) : (s.move 0 next).owed = s.owed := by
  rw [(running.sole.move next).owed, running.sole.owed, before, after]
  rfl

/-- The task gets on with what is in the queue, or processes what it has received. -/
theorem Running.task (running : s.Running messages place) (moved : s.metrologyTask 0 = some t) :
    ∃ rest next, t.Running rest next ∧ t.owed = s.owed ∧
      (t.processed = s.processed ∧ remaining next < remaining place ∨
        s.processed.length < t.processed.length ∧ remaining next = 3) := by
  have sole := running.sole
  have here := sole.here
  have serving := running.serving
  cases place with
  | starting =>
    simp only [metrologyTask, here, Option.some.injEq] at moved
    subst moved
    exact ⟨messages, .looping, running.move trivial, running.owed_move rfl rfl,
      .inl ⟨rfl, by decide⟩⟩
  | looping =>
    simp only [metrologyTask, here, running.taskDeleted, Option.some.injEq] at moved
    subst moved
    exact ⟨messages, .msgQGet, running.move trivial, running.owed_move rfl rfl,
      .inl ⟨rfl, by decide⟩⟩
  | msgQGet =>
    simp only [metrologyTask, here, sole.handles.1, Option.some.injEq] at moved
    subst moved
    exact ⟨messages, .waiting 0, running.move rfl, running.owed_move rfl rfl,
      .inl ⟨rfl, by decide⟩⟩
  | waiting index =>
    obtain rfl : index = 0 := serving
    cases messages with
    -- An empty queue blocks the task, which then takes no step.
    | nil => simp [metrologyTask, sole.tasks, sole.queues] at moved
    | cons msg rest =>
      rw [sole.receive, Option.some.injEq] at moved
      subst moved
      have received : LifeCycle.Running
          ({ s with queues := [some rest] }.move 0 (.dispatching msg)) rest (.dispatching msg) :=
        ⟨⟨rfl, by simp [LifeCycle.move, sole.tasks], sole.sound⟩, running.taskDeleted,
          running.caller, running.data msg (by simp),
          fun other member => running.data other (by simp [member])⟩
      refine ⟨rest, .dispatching msg, received, ?_, .inl ⟨rfl, by simp [remaining]⟩⟩
      rw [received.sole.owed, sole.owed]
      simp [inHand, LifeCycle.move]
  | dispatching msg =>
    have isData : msg.event = .dataRcv := serving
    simp only [metrologyTask, here, Option.some.injEq] at moved
    subst moved
    have processed : LifeCycle.Running
        ({ s with processed := s.processed ++ payload msg }.move 0 .looping) messages .looping :=
      ⟨⟨sole.queues, by simp [LifeCycle.move, sole.tasks], sole.sound⟩, running.taskDeleted,
        running.caller, trivial, running.data⟩
    refine ⟨messages, .looping, processed, ?_, .inr ⟨?_, rfl⟩⟩
    · rw [processed.sole.owed, sole.owed]
      simp [inHand, LifeCycle.move]
    · simp [payload, isData, LifeCycle.move]
  | msgQDestroy | taskDestroy | returned | ended => exact absurd serving (by simp [Serving])

/-- A message of the interrupt is put behind those that are there, if there is room for it. -/
theorem Running.setEvent (running : s.Running messages place) (data : BufferIndex) :
    ∃ more, (s.setEvent .dataRcv data).Running more place ∧
      (s.setEvent .dataRcv data).processed = s.processed ∧
      s.owed <+: (s.setEvent .dataRcv data).owed ∧
      (s.isInit = true → messages.length < queueLength →
        (s.setEvent .dataRcv data).owed = s.owed ++ [data]) := by
  have sole := running.sole
  cases initialized : s.isInit with
  | false =>
    -- A message that comes too early is dropped.
    have same : s.setEvent .dataRcv data = s := by simp [LifeCycle.setEvent, initialized]
    rw [same]
    exact ⟨messages, running, rfl, List.prefix_rfl, by simp⟩
  | true =>
    have put := sole.setEvent initialized .dataRcv data
    have kept : (s.setEvent .dataRcv data).Running (msgQPut messages ⟨.dataRcv, data⟩) place := by
      rw [put]
      refine ⟨⟨rfl, sole.tasks, sole.sound⟩, running.taskDeleted, running.caller, running.serving,
        fun msg member => ?_⟩
      unfold msgQPut at member
      split_ifs at member
      · rcases List.mem_append.mp member with earlier | new
        · exact running.data msg earlier
        · rw [List.mem_singleton.mp new]
      · exact running.data msg member
    have owed := kept.sole.owed
    have same : (s.setEvent .dataRcv data).processed = s.processed := by rw [put]
    refine ⟨_, kept, same, ?_, fun _ room => ?_⟩
    · rw [owed, sole.owed, same]
      unfold msgQPut
      split_ifs <;> simp
    · rw [owed, sole.owed, same, msgQPut, if_pos room]
      simp [payload]

/-- Without a call that ends it, the task goes on, and what is owed is kept. -/
theorem Running.advances (running : s.Running messages place) (stays : op ≠ .deinit)
    (moved : step s op = some t) : ∃ more next, t.Running more next ∧ s.owed <+: t.owed ∧
      (t.processed = s.processed ∧
          (op ≠ .task 0 ∧ next = place ∨ remaining next < remaining place) ∨
        s.processed.length < t.processed.length ∧ remaining next = 3) := by
  simp only [step, running.sole.sound, Bool.false_eq_true, if_false] at moved
  cases op with
  | init created =>
    -- A module that is initialized is left as it is.
    rcases running.caller with ⟨isInit, caller⟩ | ⟨isInit, caller⟩ <;>
      simp only [isInit, caller, if_true, if_false, reduceCtorEq, Option.some.injEq] at moved
    subst moved
    exact ⟨messages, place, running, List.prefix_rfl, .inl ⟨rfl, .inl ⟨by simp, rfl⟩⟩⟩
  | deinit => exact absurd rfl stays
  | caller created =>
    rcases running.caller with ⟨isInit, caller⟩ | ⟨isInit, caller⟩ <;>
      simp only [call, caller, reduceCtorEq, Option.some.injEq] at moved
    subst moved
    have sole := running.sole
    refine ⟨messages, place, ⟨⟨sole.queues, sole.tasks, sole.sound⟩, running.taskDeleted,
      .inl ⟨rfl, rfl⟩, running.serving, running.data⟩, List.prefix_rfl,
      .inl ⟨rfl, .inl ⟨by simp, rfl⟩⟩⟩
  | task index =>
    obtain rfl := running.sole.index_eq moved
    obtain ⟨rest, next, after, owed, progress⟩ := running.task moved
    refine ⟨rest, next, after, owed ▸ List.prefix_rfl, ?_⟩
    exact progress.imp_left fun ⟨same, less⟩ => ⟨same, .inr less⟩
  | startProcessing data =>
    obtain rfl := Option.some.inj moved
    obtain ⟨more, after, same, owed, -⟩ := running.setEvent data
    exact ⟨more, place, after, owed, .inl ⟨same, .inl ⟨by simp, rfl⟩⟩⟩

/-- The task runs, and what has to be processed is owed, though not all of it is processed. -/
def Owing (target : List BufferIndex) (s : LifeCycle) : Prop :=
  (∃ messages place, s.Running messages place) ∧ target <+: s.owed ∧ ¬ target <+: s.processed

/-- Every message takes the task around its loop once. -/
def distance (target : List BufferIndex) (s : LifeCycle) : ℕ :=
  4 * (target.length - s.processed.length) + (s.tasks.map remaining).sum

variable {target : List BufferIndex}

/-- What is owed and not processed is longer than what is processed. -/
theorem Owing.processed_lt (owing : s.Owing target) : s.processed.length < target.length := by
  obtain ⟨⟨messages, place, running⟩, owed, unprocessed⟩ := owing
  by_contra long
  refine unprocessed (List.prefix_of_prefix_length_le owed ?_ (by omega))
  rw [running.sole.owed, List.append_assoc]
  exact List.prefix_append _ _

/-- As long as something is owed, the task is not blocked. -/
theorem Owing.enabled (owing : s.Owing target) : (step s (.task 0)).isSome := by
  obtain ⟨⟨messages, place, running⟩, owed, unprocessed⟩ := owing
  have sole := running.sole
  have here := sole.here
  have serving := running.serving
  simp only [step, sole.sound, Bool.false_eq_true, if_false]
  cases place with
  | starting | looping | msgQGet | dispatching msg => simp [metrologyTask, here]
  | waiting index =>
    obtain rfl : index = 0 := serving
    cases messages with
    -- With an empty queue everything that is owed would be processed.
    | nil => exact absurd (by simpa [sole.owed, inHand] using owed) unprocessed
    | cons msg rest => simp [sole.receive]
  | msgQDestroy | taskDestroy | returned | ended => exact absurd serving (by simp [Serving])

/-- A step that does not end the task keeps what is owed, and the task gets closer by its own. -/
theorem Owing.advances (owing : s.Owing target) (stays : op ≠ .deinit)
    (moved : step s op = some t) : target <+: t.processed ∨ t.Owing target ∧
      t.distance target ≤ s.distance target ∧
      (op = .task 0 → t.distance target < s.distance target) := by
  have short := owing.processed_lt
  obtain ⟨⟨messages, place, running⟩, owed, unprocessed⟩ := owing
  obtain ⟨more, next, after, kept, progress⟩ := running.advances stays moved
  by_cases reached : target <+: t.processed
  · exact .inl reached
  refine .inr ⟨⟨⟨more, next, after⟩, owed.trans kept, reached⟩, ?_⟩
  simp only [distance, running.sole.tasks, after.sole.tasks, List.map_cons, List.map_nil,
    List.sum_cons, List.sum_nil]
  -- A message that is processed pays for the next round of the loop.
  rcases progress with ⟨same, ⟨other, rfl⟩ | less⟩ | ⟨longer, again⟩
  · rw [same]
    exact ⟨le_rfl, fun own => absurd own other⟩
  · rw [same]
    omega
  · omega

end Steps

end LifeCycle

end EasyEvse.Meter
