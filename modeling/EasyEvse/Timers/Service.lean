import Mathlib.Data.Finset.Basic
import Mathlib.Data.List.Pairwise

/-! One-shot timers that a task serves, which is told what to do through a queue of commands. -/

namespace Timers

/-- A command to the timer task. -/
inductive Command
  | start (timer : ℕ)
  | stop (timer : ℕ)
  | delete (timer : ℕ)
  /-- A command that is about none of the timers here. -/
  | other
  deriving DecidableEq, Repr

/-- The command puts an end to a timer. -/
def Command.Ends (timer : ℕ) (command : Command) : Prop :=
  command = .stop timer ∨ command = .delete timer

instance (timer : ℕ) : DecidablePred (Command.Ends timer) := fun _ =>
  inferInstanceAs (Decidable (_ ∨ _))

/-- The command is about a timer that was created. -/
def Command.Known (created : ℕ) : Command → Prop
  | .start timer | .stop timer | .delete timer => timer < created
  | .other => True

/-- What is known stays known when there are more timers. -/
theorem Command.Known.mono {created more : ℕ} {command : Command} (grows : created ≤ more)
    (known : command.Known created) :
    command.Known more := by
  cases command with
  | start timer | stop timer | delete timer => exact lt_of_lt_of_le known grows
  | other => trivial

/-- A command that ends a timer is about a timer that was created. -/
theorem Command.Known.lt_of_ends {created timer : ℕ} {command : Command}
    (known : command.Known created) (ends : command.Ends timer) : timer < created := by
  rcases ends with rfl | rfl <;> exact known

/-- The timers and the task that serves them. Timers are numbered as they are created. -/
structure Service (α : Type*) where
  /-- What each timer was created for. -/
  created : List α := []
  active : Finset ℕ := ∅
  /-- The commands that the task has not processed yet, oldest first. -/
  commands : List Command := []
  /-- The commands for which there was no room. -/
  refused : List Command := []
  /-- The timer whose callback has started and has not ended. -/
  callback : Option ℕ := none
  deriving DecidableEq

namespace Service

variable {α : Type*} {capacity timer other : ℕ} {command : Command} {payload : α} {s t : Service α}

/-- Send a command, which is lost without notice if the queue is full. -/
def put (capacity : ℕ) (command : Command) (s : Service α) : Service α :=
  if s.commands.length < capacity then { s with commands := s.commands ++ [command] }
  else { s with refused := s.refused ++ [command] }

/-- Create a timer. -/
def create (payload : α) (s : Service α) : Service α := { s with created := s.created ++ [payload] }

/-- The task processes the oldest command, unless it is busy with a callback. -/
def process (s : Service α) : Option (Service α) :=
  match s.callback, s.commands with
  | none, command :: commands =>
    some { s with
      commands
      active := match command with
        | .start timer => insert timer s.active
        | .stop timer | .delete timer => s.active.erase timer
        | .other => s.active }
  | _, _ => none

/-- A timer expires, which starts its callback. -/
def expire (timer : ℕ) (s : Service α) : Option (Service α) :=
  if s.callback = none ∧ timer ∈ s.active then
    some { s with active := s.active.erase timer, callback := some timer }
  else none

/-- The callback that was started has ended. -/
def finish (s : Service α) : Service α := { s with callback := none }

/-- Without a callback, none is there to end. -/
theorem finish_of_idle (idle : s.callback = none) : s.finish = s := by
  rw [finish, ← idle]

/-- The timer runs, or will do so. -/
def Alive (s : Service α) (timer : ℕ) : Prop := timer ∈ s.active ∨ .start timer ∈ s.commands

/-- The task was told to end a timer, whether or not it learns of that. -/
def Told (s : Service α) (timer : ℕ) : Prop :=
  ∃ command ∈ s.commands ++ s.refused, command.Ends timer

instance (s : Service α) : DecidablePred s.Told := fun _ =>
  inferInstanceAs (Decidable (∃ command ∈ s.commands ++ s.refused, _))

/-- Commands are about timers that exist, and no timer is ended before it is started. -/
structure Orderly (s : Service α) : Prop where
  known : ∀ command ∈ s.commands, command.Known s.created.length
  active : ∀ timer ∈ s.active, timer < s.created.length
  startsFirst : s.commands.Pairwise fun before after =>
    ∀ timer, before.Ends timer → after ≠ .start timer

/-- Every timer that is still alive has been told to end, except at most one. -/
def OnlyAlive (s : Service α) (current : Option ℕ) : Prop :=
  ∀ timer, s.Alive timer → current = some timer ∨ s.Told timer

/-- The untold timers stay within what is allowed, for more that is allowed. -/
theorem OnlyAlive.weaken {current : Option ℕ} (only : s.OnlyAlive none) : s.OnlyAlive current :=
  fun timer alive => .inr ((only timer alive).resolve_left (by simp))

/-- Only the queues of commands are touched by a command. -/
@[simp] theorem put_frame :
    (s.put capacity command).created = s.created ∧ (s.put capacity command).active = s.active ∧
      (s.put capacity command).callback = s.callback := by
  unfold put
  split_ifs <;> simp

/-- A command is either queued or refused. -/
theorem put_cases (capacity : ℕ) (command : Command) (s : Service α) :
    (s.put capacity command).commands = s.commands ++ [command] ∧
      (s.put capacity command).refused = s.refused ∨
    (s.put capacity command).commands = s.commands ∧
      (s.put capacity command).refused = s.refused ++ [command] := by
  unfold put
  split_ifs <;> simp

/-- What the task was told is what it was told before, and the new command. -/
theorem told_put : (s.put capacity command).Told timer ↔ s.Told timer ∨ command.Ends timer := by
  -- Whichever list the command went to, the task counts as told.
  simp only [Told]
  rcases put_cases capacity command s with ⟨queued, refused⟩ | ⟨queued, refused⟩ <;>
    simp only [queued, refused, List.mem_append, List.mem_singleton] <;>
    constructor
  all_goals
    intro told
    grind

/-- A timer that is alive after a command was so before it, or is started by it. -/
theorem alive_of_put (alive : (s.put capacity command).Alive timer) :
    s.Alive timer ∨ command = .start timer := by
  -- Only a start command in the queue makes a timer alive that does not run.
  rcases alive with active | queued
  · exact .inl (.inl (by simpa using active))
  · rcases put_cases capacity command s with ⟨same, -⟩ | ⟨same, -⟩
    · rw [same, List.mem_append, List.mem_singleton] at queued
      rcases queued with queued | started
      · exact .inl (.inr queued)
      · exact .inr started.symm
    · exact .inl (.inr (same ▸ queued))

/-- A command that starts nothing leaves the untold timers within what is allowed. -/
theorem OnlyAlive.put {current : Option ℕ} (only : s.OnlyAlive current)
    (starts : ∀ timer, command ≠ .start timer) : (s.put capacity command).OnlyAlive current := by
  intro timer alive
  have before := (alive_of_put alive).resolve_right (starts timer)
  exact (only timer before).imp_right fun told => told_put.mpr (.inl told)

/-- Stopping the one timer that is allowed leaves none. -/
theorem OnlyAlive.stop (only : s.OnlyAlive (some timer)) :
    (s.put capacity (.stop timer)).OnlyAlive none := by
  intro other alive
  have before := (alive_of_put alive).resolve_right (by simp)
  refine .inr (told_put.mpr ?_)
  -- The timer that was allowed is told to end now, and the others were told before.
  rcases only other before with same | told
  · obtain rfl := Option.some.inj same
    exact .inr (.inl rfl)
  · exact .inl told

/-- When none is left, a new timer can be created and started. -/
theorem OnlyAlive.start (only : s.OnlyAlive none) :
    ((s.create payload).put capacity (.start s.created.length)).OnlyAlive
      (some s.created.length) := by
  intro timer alive
  -- The new timer takes the place of the one that is allowed.
  rcases alive_of_put alive with before | started
  · have told : s.Told timer := (only timer before).resolve_left (by simp)
    exact .inr (told_put.mpr (.inl told))
  · obtain rfl := Command.start.inj started
    exact .inl rfl

/-- A new timer does not disturb the order. -/
theorem Orderly.create (orderly : s.Orderly) (payload : α) : (s.create payload).Orderly := by
  have grows : s.created.length ≤ (s.create payload).created.length := by simp [Service.create]
  exact ⟨fun command member => (orderly.known command member).mono grows,
    fun timer active => (orderly.active timer active).trans_le grows, orderly.startsFirst⟩

/-- A command keeps the order, unless it starts a timer that one before it ends. -/
theorem Orderly.put (orderly : s.Orderly) (known : command.Known s.created.length)
    (fresh : ∀ before ∈ s.commands, ∀ timer, before.Ends timer → command ≠ .start timer) :
    (s.put capacity command).Orderly := by
  unfold Service.put
  split_ifs
  · refine ⟨fun c member => ?_, orderly.active, ?_⟩
    · rcases List.mem_append.mp member with earlier | new
      · exact orderly.known c earlier
      · rw [List.mem_singleton.mp new]
        exact known
    · refine List.pairwise_append.mpr ⟨orderly.startsFirst, List.pairwise_singleton _ _, ?_⟩
      intro before member after new
      rw [List.mem_singleton.mp new]
      exact fresh before member
  · exact ⟨orderly.known, orderly.active, orderly.startsFirst⟩

/-- A timer can be started in order right after it was created. -/
theorem Orderly.start (orderly : s.Orderly) :
    ((s.create payload).put capacity (.start s.created.length)).Orderly := by
  refine (orderly.create payload).put (by simp [Service.create, Command.Known]) ?_
  intro before member timer ends same
  -- No earlier command can be about a timer that was not created yet.
  obtain rfl := Command.start.inj same
  exact absurd ((orderly.known before member).lt_of_ends ends) (lt_irrefl _)

/-- What the task does with a command. -/
theorem process_cases (moved : s.process = some t) : ∃ command commands,
    s.commands = command :: commands ∧ t = { s with
      commands
      active := match command with
        | .start timer => insert timer s.active
        | .stop timer | .delete timer => s.active.erase timer
        | .other => s.active } := by
  unfold process at moved
  split at moved
  · rename_i command commands _ queued
    exact ⟨command, commands, queued, (Option.some.inj moved).symm⟩
  · cases moved

/-- Processing a command keeps the order. -/
theorem Orderly.process (orderly : s.Orderly) (moved : s.process = some t) : t.Orderly := by
  obtain ⟨command, commands, queued, rfl⟩ := process_cases moved
  have known : ∀ c ∈ command :: commands, c.Known s.created.length := queued ▸ orderly.known
  have pairwise := queued ▸ orderly.startsFirst
  refine ⟨fun c member => known c (by simp [member]), fun timer active => ?_,
    (List.pairwise_cons.mp pairwise).2⟩
  -- Only a start command makes a timer active, and that timer was created.
  cases command with
  | start started =>
    rcases Finset.mem_insert.mp active with rfl | active
    · exact known (.start timer) (by simp)
    · exact orderly.active timer active
  | stop stopped | delete stopped => exact orderly.active timer (Finset.mem_of_mem_erase active)
  | other => exact orderly.active timer active

/-- Processing a command ends the timer that it ends, so that no told timer becomes untold. -/
theorem OnlyAlive.process {current : Option ℕ} (only : s.OnlyAlive current) (orderly : s.Orderly)
    (moved : s.process = some t) : t.OnlyAlive current := by
  obtain ⟨command, commands, queued, rfl⟩ := process_cases moved
  have first := (List.pairwise_cons.mp (queued ▸ orderly.startsFirst)).1
  intro timer alive
  -- A timer that is ended by this command is not started again by a later one.
  have ended : ¬ command.Ends timer := by
    intro ends
    rcases alive with active | starts
    · rcases ends with rfl | rfl <;> simp at active
    · exact first _ starts timer ends rfl
  have before : s.Alive timer := by
    rcases alive with active | starts
    · cases command with
      | start started =>
        rcases Finset.mem_insert.mp active with rfl | active
        · exact .inr (by simp [queued])
        · exact .inl active
      | stop stopped | delete stopped => exact .inl (Finset.mem_of_mem_erase active)
      | other => exact .inl active
    · exact .inr (by rw [queued]; simp [starts])
  refine (only timer before).imp_right fun ⟨c, member, ends⟩ => ⟨c, ?_, ends⟩
  rw [queued, List.cons_append, List.mem_cons] at member
  exact member.resolve_left fun same => ended (same ▸ ends)

/-- A timer that expires without having been told to end is the one that is allowed. -/
theorem OnlyAlive.expire {current : Option ℕ} (only : s.OnlyAlive current)
    (moved : s.expire timer = some t) (untold : ¬ s.Told timer) : current = some timer := by
  unfold Service.expire at moved
  split_ifs at moved with expires
  exact (only timer (.inl expires.2)).resolve_right untold

/-- The expiry of a timer starts its callback and is the end of the timer. -/
theorem expire_cases (moved : s.expire timer = some t) :
    s.callback = none ∧ t = { s with active := s.active.erase timer, callback := some timer } := by
  unfold Service.expire at moved
  split_ifs at moved with expires
  exact ⟨expires.1, (Option.some.inj moved).symm⟩

/-- The expiry of a timer keeps the order. -/
theorem Orderly.expire (orderly : s.Orderly) (moved : s.expire timer = some t) : t.Orderly := by
  obtain ⟨-, rfl⟩ := expire_cases moved
  exact ⟨orderly.known, fun other active => orderly.active other (Finset.mem_of_mem_erase active),
    orderly.startsFirst⟩

/-- The expiry of a timer makes no other timer alive. -/
theorem OnlyAlive.of_expire {current : Option ℕ} (only : s.OnlyAlive current)
    (moved : s.expire timer = some t) : t.OnlyAlive current := by
  obtain ⟨-, rfl⟩ := expire_cases moved
  intro other alive
  exact only other (alive.imp_left Finset.mem_of_mem_erase)

/-- The service without what its timers were created for. -/
def forget (s : Service α) : Service Unit := { s with created := s.created.map fun _ => () }

/-- A command is sent whatever the timers were created for. -/
@[simp] theorem forget_put :
    (s.put capacity command).forget = s.forget.put capacity command := by
  unfold put
  by_cases room : s.commands.length < capacity
  · rw [if_pos room]
    exact (if_pos room).symm
  · rw [if_neg room]
    exact (if_neg room).symm

/-- A timer gets its number whatever it is created for. -/
@[simp] theorem forget_create : (s.create payload).forget = s.forget.create () := by
  simp [forget, create]

/-- The task processes the same commands, whatever the timers were created for. -/
theorem forget_process : s.forget.process = s.process.map forget := by
  cases s with
  | mk created active commands refused callback =>
    cases callback with
    | some timer => rfl
    | none => cases commands <;> rfl

/-- The same timers expire, whatever they were created for. -/
theorem forget_expire : s.forget.expire timer = (s.expire timer).map forget := by
  unfold expire
  by_cases expires : s.callback = none ∧ timer ∈ s.active
  · rw [if_pos expires]
    exact if_pos expires
  · rw [if_neg expires]
    exact if_neg expires

/-- As many timers were created, whatever for. -/
@[simp] theorem length_created_forget : s.forget.created.length = s.created.length :=
  List.length_map _

end Service

end Timers
