import EasyEvse.Meter.Serving

/-! The phases of the metrology module, and the way out of a task that was told to end. -/

namespace EasyEvse.Meter

open Transition

namespace LifeCycle

/-- Nothing was created yet that a task could use. -/
structure Before (s : LifeCycle) : Prop where
  isInit : s.isInit = false
  taskDeleted : s.taskDeleted = false
  tasks : s.tasks = []
  caller : s.caller = .idle ∧ s.queues = [] ∨ s.caller = .taskCreate ∧ s.queues = [some []] ∨
    s.caller = .failed
  sound : s.faulted = false

/-- What there is for a task on its way out: a message to wake it, and a queue to destroy. -/
def Leaving (queue : Option (List Msg)) (isInit : Bool) : LoopPlace → Prop
  | .msgQGet => queue.getD [] ≠ []
  | .waiting index => index = 0 ∧ queue.getD [] ≠ []
  | .dispatching _ | .looping | .msgQDestroy => queue.isSome
  | .taskDestroy | .ended => queue = none ∧ isInit = false
  | .starting | .returned => False

/-- The task was told to end, and has what it needs for that. -/
structure Stopping (s : LifeCycle) (queue : Option (List Msg)) (place : LoopPlace) : Prop where
  sole : s.Sole queue place
  taskDeleted : s.taskDeleted = true
  caller : s.isInit = true ∧ s.caller = .clearInit ∨
    s.isInit = false ∧ (s.caller = .wake ∨ s.caller = .idle)
  leaving : Leaving queue s.isInit place

section Steps

variable {s t : LifeCycle} {queue : Option (List Msg)} {messages : List Msg} {place : LoopPlace}
  {op : LifeCycleOp}

/-- The steps left until a task that was told to end has ended. -/
def outstanding : LoopPlace → ℕ
  | .msgQGet => 6
  | .waiting _ => 5
  | .dispatching _ => 4
  | .looping => 3
  | .msgQDestroy => 2
  | .taskDestroy => 1
  | .starting | .returned | .ended => 0

/-- The buffer that a task still processes on its way out, of the message it has or gets next. -/
def due (queue : Option (List Msg)) : LoopPlace → List BufferIndex
  | .dispatching msg => payload msg
  | .msgQGet | .waiting _ => ((queue.getD []).take 1).flatMap payload
  | _ => []

/-- A task that still processes something has four steps left after that. -/
theorem outstanding_of_due (some : due queue place ≠ []) :
    outstanding place = remaining place + 4 := by
  cases place <;> simp_all [due, outstanding, remaining]

/-- What a task needs on its way out does not depend on a flag that is cleared. -/
theorem Leaving.clearInit {isInit : Bool} (leaving : Leaving queue isInit place) :
    Leaving queue false place := by
  cases place with
  | taskDestroy | ended => exact ⟨leaving.1, rfl⟩
  | _ => exact leaving

/-- A task on its way out is one step closer to its end after each of its steps. -/
theorem Stopping.task (stopping : s.Stopping queue place) (borne : s.Borne (.task 0))
    (moved : s.metrologyTask 0 = some t) : ∃ rest next, t.Stopping rest next ∧
      t.processed ++ due rest next = s.processed ++ due queue place ∧
      outstanding place = outstanding next + 1 := by
  obtain ⟨sole, taskDeleted, caller, leaving⟩ := stopping
  have here := sole.here
  cases place with
  | msgQGet =>
    simp only [metrologyTask, here, sole.handles.1, Option.some.injEq] at moved
    subst moved
    exact ⟨queue, .waiting 0, ⟨sole.move _, taskDeleted, caller, rfl, leaving⟩, rfl, rfl⟩
  | waiting index =>
    obtain ⟨rfl, filled⟩ := leaving
    obtain _ | _ | ⟨msg, rest⟩ := queue
    · exact absurd rfl filled
    · exact absurd rfl filled
    rw [sole.receive, Option.some.injEq] at moved
    subst moved
    exact ⟨some rest, .dispatching msg, ⟨⟨rfl, by simp [LifeCycle.move, sole.tasks], sole.sound⟩,
      taskDeleted, caller, rfl⟩, by simp [due, LifeCycle.move], rfl⟩
  | dispatching msg =>
    simp only [metrologyTask, here, Option.some.injEq] at moved
    subst moved
    exact ⟨queue, .looping, ⟨⟨sole.queues, by simp [LifeCycle.move, sole.tasks], sole.sound⟩,
      taskDeleted, caller, leaving⟩, by simp [due, LifeCycle.move], rfl⟩
  | looping =>
    simp only [metrologyTask, here, taskDeleted, if_true, Option.some.injEq] at moved
    subst moved
    exact ⟨queue, .msgQDestroy, ⟨sole.move _, taskDeleted, caller, leaving⟩, rfl, rfl⟩
  | msgQDestroy =>
    obtain ⟨messages, rfl⟩ := Option.isSome_iff_exists.mp leaving
    simp only [metrologyTask, here, sole.handles, Option.some.injEq] at moved
    subst moved
    have isInit : s.isInit = false := borne here
    exact ⟨none, .taskDestroy, ⟨⟨by simp [LifeCycle.move, sole.queues],
      by simp [LifeCycle.move, sole.tasks], sole.sound⟩, taskDeleted, caller, rfl, isInit⟩, rfl,
      rfl⟩
  | taskDestroy =>
    simp only [metrologyTask, here, sole.handles, Option.some.injEq, reduceCtorEq, if_false]
      at moved
    subst moved
    exact ⟨queue, .ended, ⟨(sole.move _).move _, taskDeleted, caller, leaving⟩, rfl, rfl⟩
  | ended => simp [metrologyTask, here] at moved
  | starting | returned => exact absurd leaving (by simp [Leaving])

/-- A message that comes late does not take away what a task on its way out needs. -/
theorem Stopping.setEvent (stopping : s.Stopping queue place) (event : MetrologyEvent)
    (data : BufferIndex) : ∃ rest, (s.setEvent event data).Stopping rest place ∧
      (s.setEvent event data).processed = s.processed ∧ due rest place = due queue place := by
  obtain ⟨sole, taskDeleted, caller, leaving⟩ := stopping
  cases initialized : s.isInit with
  | false =>
    have same : s.setEvent event data = s := by simp [LifeCycle.setEvent, initialized]
    rw [same]
    exact ⟨queue, ⟨sole, taskDeleted, caller, leaving⟩, rfl, rfl⟩
  | true =>
    -- As long as the flag is set, the task has not destroyed its queue.
    rw [initialized] at leaving
    cases queue with
    | none => cases place <;> simp [Leaving] at leaving
    | some messages =>
      -- The message goes behind the one that the task gets next.
      have first : messages ≠ [] → msgQPut messages ⟨event, data⟩ ≠ [] ∧
          (msgQPut messages ⟨event, data⟩).take 1 = messages.take 1 := by
        intro filled
        obtain ⟨msg, rest, rfl⟩ := List.exists_cons_of_ne_nil filled
        unfold msgQPut
        split_ifs <;> simp
      rw [sole.setEvent initialized]
      refine ⟨_, ⟨⟨rfl, sole.tasks, sole.sound⟩, taskDeleted, caller, ?_⟩, rfl, ?_⟩
      · rw [initialized]
        cases place with
        | msgQGet => exact (first leaving).1
        | waiting index => exact ⟨leaving.1, (first leaving.2).1⟩
        | dispatching msg | looping | msgQDestroy => rfl
        | taskDestroy | ended | starting | returned => simp [Leaving] at leaving
      · cases place with
        | msgQGet => exact congrArg (List.flatMap payload) (first leaving).2
        | waiting index => exact congrArg (List.flatMap payload) (first leaving.2).2
        | _ => rfl

/-- Other steps leave a task on its way out where it is, with what it needs. -/
theorem Stopping.advances (stopping : s.Stopping queue place) (borne : s.Borne op)
    (moved : step s op = some t) : ∃ rest next, t.Stopping rest next ∧
      t.processed ++ due rest next = s.processed ++ due queue place ∧
      (op ≠ .task 0 ∧ next = place ∨ outstanding place = outstanding next + 1) := by
  have ⟨sole, taskDeleted, caller, leaving⟩ := stopping
  simp only [step, sole.sound, Bool.false_eq_true, if_false] at moved
  cases op with
  | init created =>
    -- Once no call is underway the module is not initialized, and must stay so.
    rcases caller with ⟨isInit, caller⟩ | ⟨isInit, -⟩
    · simp [caller] at moved
    · simp [Borne, isInit, taskDeleted] at borne
  | deinit =>
    rcases caller with ⟨isInit, caller⟩ | ⟨isInit, -⟩
    · simp [caller] at moved
    · simp only [isInit, Bool.false_eq_true, if_false, Option.ite_none_right_eq_some,
        Option.some.injEq] at moved
      obtain ⟨-, rfl⟩ := moved
      exact ⟨queue, place, stopping, rfl, .inl ⟨by simp, rfl⟩⟩
  | caller created =>
    rcases caller with ⟨isInit, caller⟩ | ⟨isInit, caller | caller⟩ <;>
      simp only [call, caller, reduceCtorEq, Option.some.injEq] at moved <;> subst moved
    · exact ⟨queue, place, ⟨⟨sole.queues, sole.tasks, sole.sound⟩, taskDeleted,
        .inr ⟨rfl, .inl rfl⟩, leaving.clearInit⟩, rfl, .inl ⟨by simp, rfl⟩⟩
    · have woken : LifeCycle.Stopping { s with caller := .idle } queue place :=
        ⟨⟨sole.queues, sole.tasks, sole.sound⟩, taskDeleted, .inr ⟨isInit, .inr rfl⟩, leaving⟩
      obtain ⟨rest, after, same, kept⟩ := woken.setEvent .taskDelete 0
      exact ⟨rest, place, after, by rw [same, kept], .inl ⟨by simp, rfl⟩⟩
  | task index =>
    obtain rfl := sole.index_eq moved
    obtain ⟨rest, next, after, kept, closer⟩ := stopping.task borne moved
    exact ⟨rest, next, after, kept, .inr closer⟩
  | startProcessing data =>
    obtain rfl := Option.some.inj moved
    obtain ⟨rest, after, same, kept⟩ := stopping.setEvent .dataRcv data
    exact ⟨rest, place, after, by rw [same, kept], .inl ⟨by simp, rfl⟩⟩

/-- Until it has ended, a task on its way out is not blocked. -/
theorem Stopping.enabled (stopping : s.Stopping queue place) (underway : 0 < outstanding place) :
    (step s (.task 0)).isSome := by
  obtain ⟨sole, taskDeleted, -, leaving⟩ := stopping
  have here := sole.here
  simp only [step, sole.sound, Bool.false_eq_true, if_false]
  cases place with
  | msgQGet | dispatching msg | looping => simp [metrologyTask, here]
  | waiting index =>
    obtain ⟨rfl, filled⟩ := leaving
    obtain _ | _ | ⟨msg, rest⟩ := queue
    · exact absurd rfl filled
    · exact absurd rfl filled
    · simp [sole.receive]
  | msgQDestroy =>
    simp only [metrologyTask, here]
    split <;> rfl
  | taskDestroy =>
    simp only [metrologyTask, here]
    split_ifs <;> rfl
  | starting | returned | ended => simp [outstanding] at underway

/-- Left to itself, a task on its way out ends after exactly its outstanding steps. -/
theorem Stopping.ends (stopping : s.Stopping queue place) (isInit : s.isInit = false) :
    ∃ t, run step s (List.replicate (outstanding place) (.task 0)) = some t ∧ t.Sole none .ended ∧
      t.isInit = s.isInit ∧ t.taskDeleted = s.taskDeleted ∧ t.caller = s.caller := by
  generalize steps : outstanding place = n
  -- Each step takes the task one place further, and leaves the rest to the induction.
  induction n generalizing s queue place with
  | zero =>
    have leaving := stopping.leaving
    have sole := stopping.sole
    cases place with
    | ended => exact ⟨s, rfl, leaving.1 ▸ sole, rfl, rfl, rfl⟩
    | starting | returned => exact absurd leaving (by simp [Leaving])
    | _ => simp [outstanding] at steps
  | succ n ih =>
    obtain ⟨next, taken⟩ := Option.isSome_iff_exists.mp (stopping.enabled (by omega))
    have moved := (step_task stopping.sole.sound).symm.trans taken
    obtain ⟨sameInit, sameDeleted, sameCaller⟩ := metrologyTask_frame moved
    obtain ⟨rest, further, after, -, closer⟩ := stopping.task (fun _ => isInit) moved
    obtain ⟨t, ran, ended, flags⟩ := ih after (sameInit.trans isInit) (by omega)
    refine ⟨t, ?_, ended, ?_⟩
    · rw [List.replicate_succ, run_cons, taken]
      exact ran
    · rwa [sameInit, sameDeleted, sameCaller] at flags

/-- The task is on its way out, with more steps left than some level. -/
def Above (level : ℕ) (s : LifeCycle) : Prop :=
  ∃ queue place, s.Stopping queue place ∧ level < outstanding place

/-- The task is on its way out, with as many steps left as some level. -/
def At (level : ℕ) (s : LifeCycle) : Prop :=
  ∃ queue place, s.Stopping queue place ∧ outstanding place = level

variable {level : ℕ}

/-- Every step keeps a task on its way out above a level, or takes it there. -/
theorem Above.advances (above : s.Above level) (borne : s.Borne op)
    (moved : step s op = some t) : t.At level ∨ t.Above level ∧
      (t.tasks.map outstanding).sum ≤ (s.tasks.map outstanding).sum ∧
      (op = .task 0 → (t.tasks.map outstanding).sum < (s.tasks.map outstanding).sum) := by
  obtain ⟨queue, place, stopping, below⟩ := above
  obtain ⟨rest, next, after, -, progress⟩ := stopping.advances borne moved
  -- Its own steps go down one at a time, so that no level is passed over.
  by_cases reached : outstanding next = level
  · exact .inl ⟨rest, next, after, reached⟩
  refine .inr ⟨⟨rest, next, after, ?_⟩, ?_⟩
  · rcases progress with ⟨-, rfl⟩ | closer
    · exact below
    · omega
  · simp only [stopping.sole.tasks, after.sole.tasks, List.map_cons, List.map_nil, List.sum_cons,
      List.sum_nil]
    rcases progress with ⟨other, rfl⟩ | closer
    · exact ⟨le_rfl, fun own => absurd own other⟩
    · omega

/-- A task on its way out comes by every level that is below it. -/
theorem Above.inevitable (above : s.Above level) :
    Inevitable Borne step (.task 0) (At level) s :=
  inevitable_of_rank
    (fun ⟨_, _, stopping, below⟩ => stopping.enabled (Nat.zero_lt_of_lt below))
    (fun above borne moved => (above.advances borne moved).imp_right fun kept =>
      ⟨kept.1, kept.2.1⟩)
    (fun above borne moved => (above.advances borne moved).imp_right fun kept => kept.2.2 rfl)
    above

/-- Four steps before its end the task has received a message. -/
theorem At.received (here : s.At 4) : ∃ msg, s.tasks[0]? = some (.dispatching msg) := by
  obtain ⟨queue, place, stopping, level⟩ := here
  cases place with
  | dispatching msg => exact ⟨msg, stopping.sole.here⟩
  | _ => simp [outstanding] at level

/-- A task on its way out that has no step left has ended. -/
theorem At.ended (here : s.At 0) : s.tasks[0]? = some .ended := by
  obtain ⟨queue, place, stopping, level⟩ := here
  cases place with
  | ended => exact stopping.sole.here
  | starting | returned => exact absurd stopping.leaving (by simp [Leaving])
  | _ => simp [outstanding] at level

/-- Nothing was created yet, or the task runs, or it is on its way out. -/
def Phase (s : LifeCycle) : Prop :=
  s.Before ∨ (∃ messages place, s.Running messages place) ∨
    ∃ queue place, s.Stopping queue place

/-- Before there is a task, the calls create it, or fail to. -/
theorem Before.step (before : s.Before) (moved : step s op = some t) : t.Phase := by
  have ⟨isInit, taskDeleted, tasks, caller, sound⟩ := before
  simp only [LifeCycle.step, sound, Bool.false_eq_true, if_false] at moved
  cases op with
  | init created =>
    simp only [isInit, Bool.false_eq_true, if_false, Option.ite_none_right_eq_some] at moved
    obtain ⟨idle, moved⟩ := moved
    -- Without a call underway nothing was created yet.
    have queues : s.queues = [] := by
      rcases caller with ⟨-, queues⟩ | ⟨busy, -⟩ | busy
      · exact queues
      · simp [idle] at busy
      · simp [idle] at busy
    split_ifs at moved <;> obtain rfl := Option.some.inj moved
    · exact .inl ⟨rfl, taskDeleted, tasks, .inr (.inl ⟨rfl, by simp [queues]⟩), rfl⟩
    · exact .inl ⟨rfl, taskDeleted, tasks, .inr (.inr rfl), rfl⟩
  | deinit =>
    simp only [isInit, Bool.false_eq_true, if_false, Option.ite_none_right_eq_some,
      Option.some.injEq] at moved
    obtain ⟨-, rfl⟩ := moved
    exact .inl before
  | caller created =>
    rcases caller with ⟨caller, -⟩ | ⟨caller, queues⟩ | caller <;>
      simp only [call, caller, reduceCtorEq] at moved
    split_ifs at moved <;> obtain rfl := Option.some.inj moved
    · exact .inr (.inl ⟨[], .starting, ⟨queues, by simp [tasks], sound⟩, taskDeleted,
        .inr ⟨isInit, rfl⟩, trivial, by simp⟩)
    · exact .inl ⟨isInit, taskDeleted, tasks, .inr (.inr rfl), sound⟩
  | task index => simp [metrologyTask, tasks] at moved
  | startProcessing data =>
    simp only [LifeCycle.setEvent, isInit, Bool.false_eq_true, if_false, Option.some.injEq] at moved
    subst moved
    exact .inl before

/-- A call that tells the task to end finds it about to receive the one message that is there. -/
theorem Running.deinit (running : s.Running messages place) (isInit : s.isInit = true)
    (receiving : s.Receiving) (moved : step s .deinit = some t) :
    t.Stopping (some messages) place ∧ (place = .msgQGet ∨ place = .waiting 0) ∧
      messages.length = 1 ∧ t.processed = s.processed := by
  have ⟨sole, taskDeleted, caller, serving, data⟩ := running
  obtain ⟨here, single⟩ := receiving
  rw [sole.handles.2.2] at single
  have single : messages.length = 1 := single
  have filled : messages ≠ [] := List.ne_nil_of_length_pos (by omega)
  simp only [sole.handles, sole.tasks, List.getElem?_cons_zero, Option.some.injEq] at here
  simp only [step, sole.sound, isInit, Bool.false_eq_true, if_false, if_true,
    Option.ite_none_right_eq_some, Option.some.injEq] at moved
  obtain ⟨-, rfl⟩ := moved
  refine ⟨⟨⟨sole.queues, sole.tasks, rfl⟩, rfl, .inl ⟨rfl, rfl⟩, ?_⟩, here, single, rfl⟩
  rcases here with rfl | rfl
  · exact filled
  · exact ⟨rfl, filled⟩

/-- A task that is told to end has more steps left than those after the message. -/
theorem Running.above (running : s.Running messages place) (isInit : s.isInit = true)
    (receiving : s.Receiving) (moved : step s .deinit = some t) : t.Above 4 := by
  obtain ⟨stopping, here, -⟩ := running.deinit isInit receiving moved
  refine ⟨some messages, place, stopping, ?_⟩
  rcases here with rfl | rfl <;> decide

/-- Without the flag no call is there that could tell the task to end. -/
theorem Running.isInit_of_deinit (running : s.Running messages place)
    (moved : step s .deinit = some t) : s.isInit = true := by
  -- The call that initializes the module is still underway.
  rcases running.caller with ⟨isInit, -⟩ | ⟨-, busy⟩
  · exact isInit
  · simp [LifeCycle.step, busy] at moved

/-- The task is on its way out, and what has to be processed is the message it has or gets next. -/
def Finishing (target : List BufferIndex) (s : LifeCycle) : Prop :=
  ∃ queue place, s.Stopping queue place ∧ target <+: s.processed ++ due queue place ∧
    ¬ target <+: s.processed

variable {target : List BufferIndex}

/-- On the way out the steps left are counted, and before it the rounds of the loop. -/
def pending (target : List BufferIndex) (s : LifeCycle) : ℕ :=
  if s.taskDeleted then (s.tasks.map outstanding).sum else s.distance target

/-- Where something is still to be processed, the task has it or gets it next. -/
theorem due_ne_nil (covered : target <+: s.processed ++ due queue place)
    (unprocessed : ¬ target <+: s.processed) : due queue place ≠ [] := by
  intro none
  rw [none, List.append_nil] at covered
  exact unprocessed covered

/-- A task on its way out that still has something to process is not blocked. -/
theorem Finishing.enabled (finishing : s.Finishing target) : (step s (.task 0)).isSome := by
  obtain ⟨queue, place, stopping, covered, unprocessed⟩ := finishing
  have steps := outstanding_of_due (due_ne_nil covered unprocessed)
  exact stopping.enabled (by omega)

/-- A task on its way out gets on with what it still has to process. -/
theorem Finishing.advances (finishing : s.Finishing target) (borne : s.Borne op)
    (moved : step s op = some t) : target <+: t.processed ∨ t.Finishing target ∧
      t.pending target ≤ s.pending target ∧
      (op = .task 0 → t.pending target < s.pending target) := by
  obtain ⟨queue, place, stopping, covered, unprocessed⟩ := finishing
  obtain ⟨rest, next, after, kept, progress⟩ := stopping.advances borne moved
  by_cases reached : target <+: t.processed
  · exact .inl reached
  refine .inr ⟨⟨rest, next, after, kept ▸ covered, reached⟩, ?_⟩
  simp only [pending, stopping.taskDeleted, after.taskDeleted, if_true, stopping.sole.tasks,
    after.sole.tasks, List.map_cons, List.map_nil, List.sum_cons, List.sum_nil]
  rcases progress with ⟨other, rfl⟩ | closer
  · exact ⟨le_rfl, fun own => absurd own other⟩
  · omega

/-- A task that is told to end still processes what it owes, for that is one message at most. -/
theorem Owing.deinit (owing : s.Owing target) (borne : s.Borne .deinit)
    (moved : step s .deinit = some t) :
    t.Finishing target ∧ t.pending target ≤ s.pending target := by
  have short := owing.processed_lt
  obtain ⟨⟨messages, place, running⟩, owed, unprocessed⟩ := owing
  have isInit := running.isInit_of_deinit moved
  obtain ⟨stopping, here, single, same⟩ := running.deinit isInit (borne isInit) moved
  -- The one message is all that is owed besides what was processed.
  have covered : target <+: t.processed ++ due (some messages) place := by
    obtain ⟨msg, rfl⟩ := List.length_eq_one_iff.mp single
    rw [running.sole.owed] at owed
    rw [same]
    rcases here with rfl | rfl <;> simpa [due, inHand] using owed
  rw [← same] at unprocessed
  refine ⟨⟨some messages, place, stopping, covered, unprocessed⟩, ?_⟩
  have steps := outstanding_of_due (due_ne_nil covered unprocessed)
  simp only [pending, distance, running.taskDeleted, stopping.taskDeleted, Bool.false_eq_true,
    if_true, if_false, running.sole.tasks, stopping.sole.tasks, List.map_cons, List.map_nil,
    List.sum_cons, List.sum_nil]
  omega

/-- What is owed is processed, whether or not the task is told to end before that. -/
theorem Owing.inevitable (owing : s.Owing target) :
    Inevitable Borne step (.task 0) (fun u => target <+: u.processed) s := by
  -- The task runs on, or it is on its way out with one message to process.
  have keeps : ∀ {s op t}, s.Owing target ∨ s.Finishing target → s.Borne op →
      step s op = some t → target <+: t.processed ∨
        (t.Owing target ∨ t.Finishing target) ∧ t.pending target ≤ s.pending target ∧
          (op = .task 0 → t.pending target < s.pending target) := by
    rintro s op t (owing | finishing) borne moved
    · by_cases told : op = .deinit
      · subst told
        obtain ⟨finishing, less⟩ := owing.deinit borne moved
        exact .inr ⟨.inr finishing, less, by simp⟩
      · have ⟨⟨_, _, running⟩, _⟩ := owing
        refine (owing.advances told moved).imp_right fun ⟨after, less, closer⟩ => ⟨.inl after, ?_⟩
        obtain ⟨⟨_, _, running'⟩, _⟩ := after
        simpa only [pending, running.taskDeleted, running'.taskDeleted, Bool.false_eq_true,
          if_false] using ⟨less, closer⟩
    · exact (finishing.advances borne moved).imp_right fun ⟨after, rank⟩ => ⟨.inr after, rank⟩
  exact inevitable_of_rank (fun waits => waits.elim Owing.enabled Finishing.enabled)
    (fun waits borne moved => (keeps waits borne moved).imp_right fun kept => ⟨kept.1, kept.2.1⟩)
    (fun waits borne moved => (keeps waits borne moved).imp_right fun kept => kept.2.2 rfl)
    (.inl owing)

/-- A task that was not told to end processes every message that is put into its queue. -/
theorem Running.serves (running : s.Running messages place) (isInit : s.isInit = true) :
    s.Serves := by
  intro data room
  rw [running.sole.handles.2.2] at room
  rw [running.sole.handles.2.1]
  obtain ⟨more, after, -, -, added⟩ := running.setEvent data
  rw [← added isInit room]
  generalize s.setEvent .dataRcv data = u at after ⊢
  by_cases reached : u.owed <+: u.processed
  · exact inevitable_of_goal reached
  · exact Owing.inevitable ⟨⟨more, place, after⟩, List.prefix_rfl, reached⟩

/-- The module goes through its phases in their order, as long as the calls are borne. -/
theorem Phase.step (phase : s.Phase) (borne : s.Borne op) (moved : step s op = some t) :
    t.Phase := by
  -- A call leads from each phase to the next, and none leads back.
  rcases phase with before | ⟨messages, place, running⟩ | ⟨queue, place, stopping⟩
  · exact before.step moved
  · by_cases deinit : op = .deinit
    · subst deinit
      have isInit := running.isInit_of_deinit moved
      obtain ⟨stopping, -⟩ := running.deinit isInit (borne isInit) moved
      exact .inr (.inr ⟨some messages, place, stopping⟩)
    · obtain ⟨more, next, after, -⟩ := running.advances deinit moved
      exact .inr (.inl ⟨more, next, after⟩)
  · obtain ⟨rest, next, after, -⟩ := stopping.advances borne moved
    exact .inr (.inr ⟨rest, next, after⟩)

/-- While the module is initialized there is one task, which serves until it is told to end. -/
theorem Phase.initialized (phase : s.Phase) (isInit : s.isInit = true) :
    s.OneAlive ∧ (s.taskDeleted = false → s.Serves) := by
  rcases phase with before | ⟨messages, place, running⟩ | ⟨queue, place, stopping⟩
  · simp [before.isInit] at isInit
  · have serving := running.serving
    refine ⟨?_, fun _ => running.serves isInit⟩
    cases place <;> simp_all [OneAlive, running.sole.tasks, Serving]
  · have leaving := stopping.leaving
    refine ⟨?_, fun kept => ?_⟩
    · cases place <;> simp_all [OneAlive, stopping.sole.tasks, Leaving]
    · simp [stopping.taskDeleted] at kept

/-- A task that is told to end while it is about to receive a message receives it, and ends. -/
theorem Phase.shutsDown (phase : s.Phase) (borne : s.Borne op) : s.ShutsDown op := by
  cases op with
  | deinit =>
    intro isInit t moved
    rcases phase with before | ⟨messages, place, running⟩ | ⟨queue, place, stopping⟩
    · simp [before.isInit] at isInit
    · have above := running.above isInit (borne isInit) moved
      have low : t.Above 0 := by
        obtain ⟨queue, place, stopping, below⟩ := above
        exact ⟨queue, place, stopping, by omega⟩
      rw [running.sole.handles.2.1]
      exact ⟨above.inevitable.imp At.received, low.inevitable.imp At.ended⟩
    · have busy := stopping.caller
      simp only [isInit, true_and, Bool.true_eq_false, false_and, or_false] at busy
      simp [LifeCycle.step, busy] at moved
  | init _ | caller _ | task _ | startProcessing _ => trivial

/--
As long as the calls are borne, the module serves whenever it is initialized, and shuts down.

While it is initialized, exactly one task is alive, and every message that is put into the queue
before that task is told to end is processed, also if the task is told to end before it gets to the
message. A task that is told to end receives a message, and ends.
-/
theorem serves_and_shuts_down (ops : List LifeCycleOp) (borne : Meets Borne step {} ops) :
    (∀ t, Visits step {} ops t → t.isInit = true →
      t.OneAlive ∧ (t.taskDeleted = false → t.Serves)) ∧ Meets ShutsDown step {} ops := by
  have start : Phase {} := .inl ⟨rfl, rfl, rfl, .inl ⟨rfl, rfl⟩, rfl⟩
  constructor
  · intro t visited isInit
    exact (visits_guarded_invariant Phase.step start borne visited).initialized isInit
  · exact meets_of_invariant Phase.step (fun phase borne _ => phase.shutsDown borne) start borne

/-- The module is initialized, and its task waits for the first message. -/
def bringUp : List LifeCycleOp :=
  [.init true, .caller true, .caller true, .task 0, .task 0, .task 0]

/-- The module is deinitialized, without anything in between. -/
def takeDown : List LifeCycleOp := [.deinit, .caller true, .caller true]

/-- A task that is told to end while a message waits for it receives the message, and ends. -/
theorem serves_and_shuts_down_filled :
    (∀ t, Visits step {} (bringUp ++ .startProcessing 0 :: takeDown) t → t.isInit = true →
      t.OneAlive ∧ (t.taskDeleted = false → t.Serves)) ∧
    Meets ShutsDown step {} (bringUp ++ .startProcessing 0 :: takeDown) :=
  serves_and_shuts_down (bringUp ++ .startProcessing 0 :: takeDown) (by decide +kernel)

/-- A task that waits in an empty queue is blocked there after the call that should end it. -/
theorem waits_forever_and_twice_alive :
    ¬ Meets ShutsDown step {} (bringUp ++ [.deinit]) ∧
    ∃ t, Visits step {} (bringUp ++ takeDown ++ [.init true, .caller true, .caller true]) t ∧
      t.isInit = true ∧ ¬ t.OneAlive := by
  constructor
  · intro shuts
    have told := (meets_append.mp shuts).2 _ rfl _ rfl
    obtain ⟨-, bound, leads⟩ := told.1 rfl _ rfl
    rcases leads [.caller true, .caller true] _ (by decide) rfl with ⟨u, visited, ended⟩ | blocked
    · simp only [visits_cons_iff, visits_nil_iff] at visited
      -- Neither the rest of the call nor anything before it moves the task.
      obtain rfl | ⟨next, moved, rfl | ⟨last, returned, rfl⟩⟩ := visited
      · exact absurd ended (by decide)
      · obtain rfl := Option.some.inj moved
        exact absurd ended (by decide)
      · obtain rfl := Option.some.inj moved
        obtain rfl := Option.some.inj returned
        exact absurd ended (by decide)
    · exact absurd blocked.1 (by decide)
  · refine ⟨_, visits_end rfl, by decide, by decide⟩

end Steps

end LifeCycle

end EasyEvse.Meter
