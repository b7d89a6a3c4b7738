import EasyEvse.Threads.ConditionVariable

/-! What a single statement does, and who holds the locks while the tasks take turns. -/

namespace EasyEvse.Threads.ConditionVariable

open Transition

variable {τ : Type} [DecidableEq τ] {c d : ConditionVariable τ} {move : Move τ}
  {moves : List (Move τ)}

/-- Everything that can happen next, with what it asks for and what it does. -/
inductive Does (c : ConditionVariable τ) : Move τ → ConditionVariable τ → Prop
  | lock {t : τ} (place : c.place t = .outside) (free : c.mutexOwner = none) :
    Does c (.lock t) { c with mutexOwner := some t }
  | unlock {t : τ} (place : c.place t = .outside) (mine : c.mutexOwner = some t) :
    Does c (.unlock t) { c with mutexOwner := none }
  | wait {t : τ} {timed : Bool} (place : c.place t = .outside) (mine : c.mutexOwner = some t) :
    Does c (.wait t timed) (goto t (.registering timed) c)
  | notify {t : τ} {all : Bool} (place : c.place t = .outside) :
    Does c (.notify t all) (goto t (.notifying all) c)
  | register {t : τ} {timed : Bool} (place : c.place t = .registering timed)
    (free : c.listOwner = none) :
    Does c (.advance t) (goto t (.pushing timed) { c with listOwner := some t })
  | push {t : τ} {timed : Bool} (place : c.place t = .pushing timed) :
    Does c (.advance t) (goto t (.pushed timed) { c with queue := c.queue ++ [t] })
  | pushed {t : τ} {timed : Bool} (place : c.place t = .pushed timed) :
    Does c (.advance t) (goto t (.releasing timed) { c with listOwner := none })
  | release {t : τ} {timed : Bool} (place : c.place t = .releasing timed) :
    Does c (.advance t) (goto t (.sleeping timed) { c with mutexOwner := none })
  | wake {t : τ} {timed : Bool} (place : c.place t = .sleeping timed)
    (told : 0 < c.ulNotifiedValue t) : Does c (.advance t) (goto t (.relocking false) (c.clear t))
  | expire {t : τ} (place : c.place t = .sleeping true) (untold : c.ulNotifiedValue t = 0) :
    Does c (.expire t) (goto t (.relocking true) c)
  | relock {t : τ} {fTimeout : Bool} (place : c.place t = .relocking fTimeout)
    (free : c.mutexOwner = none) :
    Does c (.advance t)
      (goto t (if fTimeout then .cancelling else .outside) { c with mutexOwner := some t })
  | cancel {t : τ} (place : c.place t = .cancelling) (free : c.listOwner = none) :
    Does c (.advance t) (goto t .removing { c with listOwner := some t })
  | remove {t : τ} (place : c.place t = .removing) :
    Does c (.advance t) (goto t .removed { c with queue := c.queue.filter (· ≠ t) })
  | removed {t : τ} (place : c.place t = .removed) :
    Does c (.advance t) (goto t .outside { c with listOwner := none })
  | open {t : τ} {all : Bool} (place : c.place t = .notifying all) (free : c.listOwner = none) :
    Does c (.advance t) (goto t (.looking all) { c with listOwner := some t })
  | nobody {t : τ} {all : Bool} (place : c.place t = .looking all) (empty : c.queue = []) :
    Does c (.advance t) (goto t .notified c)
  | pop {t front : τ} {rest : List τ} {all : Bool} (place : c.place t = .looking all)
    (queued : c.queue = front :: rest) :
    Does c (.advance t) (goto t (.giving all front) { c with queue := rest })
  | give {t front : τ} {all : Bool} (place : c.place t = .giving all front) :
    Does c (.advance t)
      (goto t (if all then .looking all else .notified) (c.xTaskNotifyGive front))
  | close {t : τ} (place : c.place t = .notified) :
    Does c (.advance t) (goto t .outside { c with listOwner := none })
  | notifyGive {t : τ} : Does c (.notifyGive t) (c.xTaskNotifyGive t)

omit [DecidableEq τ] in
/-- The mutex is taken when it is free, and is then the task's. -/
theorem lockMutex_eq {t : τ} (locked : c.lockMutex t = some d) :
    c.mutexOwner = none ∧ { c with mutexOwner := some t } = d := by
  simpa [lockMutex] using locked

omit [DecidableEq τ] in
/-- The semaphore of the list is taken when it is there, and is then the task's. -/
theorem lockList_eq {t : τ} (locked : c.lockList t = some d) :
    c.listOwner = none ∧ { c with listOwner := some t } = d := by
  simpa [lockList] using locked

/-- The next statement of a task is one of those above. -/
theorem advance_does {t : τ} (moved : c.advance t = some d) : Does c (.advance t) d := by
  -- One case for each place of the task.
  cases place : c.place t with
  | outside => simp [advance, place] at moved
  -- A place with a lock needs that the lock is free.
  | registering timed =>
    obtain ⟨locked, taken, same⟩ := Option.map_eq_some_iff.mp
      (by simpa [advance, place] using moved)
    obtain ⟨free, rfl⟩ := lockList_eq taken
    exact same ▸ .register place free
  | pushing timed =>
    obtain rfl : goto t (.pushed timed) { c with queue := c.queue ++ [t] } = d := by
      simpa [advance, place] using moved
    exact .push place
  | pushed timed =>
    obtain rfl : goto t (.releasing timed) c.unlockList = d := by
      simpa [advance, place] using moved
    exact .pushed place
  | releasing timed =>
    obtain rfl : goto t (.sleeping timed) c.unlockMutex = d := by
      simpa [advance, place] using moved
    exact .release place
  -- A task that sleeps without a timeout wakes up when it is told, and only then.
  | sleeping timed =>
    obtain ⟨told, rfl⟩ : 0 < c.ulNotifiedValue t ∧ goto t (.relocking false) (c.clear t) = d := by
      simpa [advance, place] using moved
    exact .wake place told
  | relocking fTimeout =>
    obtain ⟨locked, taken, same⟩ := Option.map_eq_some_iff.mp
      (by simpa [advance, place] using moved)
    obtain ⟨free, rfl⟩ := lockMutex_eq taken
    exact same ▸ .relock place free
  | cancelling =>
    obtain ⟨locked, taken, same⟩ := Option.map_eq_some_iff.mp
      (by simpa [advance, place] using moved)
    obtain ⟨free, rfl⟩ := lockList_eq taken
    exact same ▸ .cancel place free
  | removing =>
    have same : goto t .removed { c with queue := c.queue.filter (· ≠ t) } = d := by
      simpa [advance, place] using moved
    exact same ▸ .remove place
  | removed =>
    obtain rfl : goto t .outside c.unlockList = d := by simpa [advance, place] using moved
    exact .removed place
  | notifying all =>
    obtain ⟨locked, taken, same⟩ := Option.map_eq_some_iff.mp
      (by simpa [advance, place] using moved)
    obtain ⟨free, rfl⟩ := lockList_eq taken
    exact same ▸ .open place free
  -- What is found on the list decides the next place.
  | looking all =>
    cases queued : c.queue with
    | nil =>
      obtain rfl : goto t .notified c = d := by simpa [advance, place, queued] using moved
      exact .nobody place queued
    | cons front rest =>
      obtain rfl : goto t (.giving all front) { c with queue := rest } = d := by
        simpa [advance, place, queued] using moved
      exact .pop place queued
  | giving all front =>
    have same : goto t (if all then .looking all else .notified) (c.xTaskNotifyGive front) = d := by
      simpa [advance, place] using moved
    exact same ▸ .give place
  | notified =>
    obtain rfl : goto t .outside c.unlockList = d := by simpa [advance, place] using moved
    exact .close place

/-- Whatever happens is one of the above. -/
theorem step_does (moved : step c move = some d) : Does c move d := by
  -- One case for each kind of move, with what it asks for.
  cases move with
  | lock t =>
    obtain ⟨place, locked⟩ : c.place t = .outside ∧ c.lockMutex t = some d := by
      simpa [step] using moved
    obtain ⟨free, rfl⟩ := lockMutex_eq locked
    exact .lock place free
  | unlock t =>
    obtain ⟨⟨place, mine⟩, rfl⟩ :
        (c.place t = .outside ∧ c.mutexOwner = some t) ∧ c.unlockMutex = d := by
      simpa [step] using moved
    exact .unlock place mine
  | wait t timed =>
    obtain ⟨⟨place, mine⟩, rfl⟩ :
        (c.place t = .outside ∧ c.mutexOwner = some t) ∧ goto t (.registering timed) c = d := by
      simpa [step] using moved
    exact .wait place mine
  | notify t all =>
    obtain ⟨place, rfl⟩ : c.place t = .outside ∧ goto t (.notifying all) c = d := by
      simpa [step] using moved
    exact .notify place
  -- The next statement of a task depends on its place.
  | advance t => exact advance_does moved
  | expire t =>
    obtain ⟨⟨place, untold⟩, rfl⟩ :
        (c.place t = .sleeping true ∧ c.ulNotifiedValue t = 0) ∧
          goto t (.relocking true) c = d := by
      simpa [step] using moved
    exact .expire place untold
  | notifyGive t =>
    obtain rfl : c.xTaskNotifyGive t = d := by simpa [step] using moved
    exact .notifyGive

/-- The locks are with the tasks whose statements run with them. -/
structure Locked (c : ConditionVariable τ) : Prop where
  list : ∀ t, c.listOwner = some t ↔ (c.place t).HoldsList
  mutex : ∀ t, (c.place t).HoldsMutex → c.mutexOwner = some t
  without : ∀ t, (c.place t).GaveMutexUp → c.mutexOwner ≠ some t

omit [DecidableEq τ] in
theorem locked_created : Locked (created (τ := τ)) where
  list t := by simp [created, Place.HoldsList]
  mutex t holds := by simp [created, Place.HoldsMutex] at holds
  without t gave := by simp [created]

omit [DecidableEq τ] in
/-- No two tasks hold the list. -/
theorem Locked.alone {t u : τ} (locked : Locked c) (one : (c.place t).HoldsList)
    (other : (c.place u).HoldsList) : t = u := by
  -- The list has one owner, who is both tasks.
  have first := (locked.list t).mpr one
  have second := (locked.list u).mpr other
  exact Option.some.inj (first.symm.trans second)

/-- A statement leaves the list with the tasks whose statements run with it locked. -/
theorem Does.list (does : Does c move d) (locked : Locked c) (t : τ) :
    d.listOwner = some t ↔ (d.place t).HoldsList := by
  -- One case for each statement, of that task or of another one.
  have before := locked.list
  cases does <;> grind [Place.HoldsList]

/-- A statement leaves the mutex with the tasks whose statements run with it locked. -/
theorem Does.mutex (does : Does c move d) (locked : Locked c) (t : τ)
    (holds : (d.place t).HoldsMutex) : d.mutexOwner = some t := by
  -- A task that takes the mutex finds it free, and so nobody else has it.
  have before := locked.mutex
  have without := locked.without
  cases does <;> grind [Place.HoldsMutex, Place.GaveMutexUp]

/-- A task that gave the mutex up does not have it. -/
theorem Does.without (does : Does c move d) (locked : Locked c) (t : τ)
    (gave : (d.place t).GaveMutexUp) : d.mutexOwner ≠ some t := by
  -- Who sleeps has released the mutex, and takes it again when it goes on.
  have before := locked.mutex
  have without := locked.without
  cases does <;> grind [Place.HoldsMutex, Place.GaveMutexUp]

/-- The locks stay with the tasks whose statements run with them. -/
theorem Does.locked (does : Does c move d) (locked : Locked c) : Locked d where
  list := does.list locked
  mutex := does.mutex locked
  without := does.without locked

end EasyEvse.Threads.ConditionVariable
