import Mathlib.Logic.Function.Basic
import EasyEvse.Transition.Run

/-! The condition variable of the tasks: a list of waiting tasks, over task notifications. -/

namespace EasyEvse.Threads

open Transition

/-- Where a task stands in the functions of a condition variable: before which statement. -/
inductive Place (τ : Type)
  | outside
  -- The waits, with and without a timeout.
  | registering (timed : Bool)
  | pushing (timed : Bool)
  | pushed (timed : Bool)
  | releasing (timed : Bool)
  | sleeping (timed : Bool)
  | relocking (fTimeout : Bool)
  -- The wait with a timeout, once that has passed.
  | cancelling
  | removing
  | removed
  -- The signal, and the broadcast, which goes on until the list is empty.
  | notifying (all : Bool)
  | looking (all : Bool)
  | giving (all : Bool) (t : τ)
  | notified
  deriving DecidableEq, Repr

namespace Place

variable {τ : Type}

/-- The statements that run with the list of waiting tasks locked. -/
def HoldsList : Place τ → Prop
  | .pushing _ | .pushed _ | .removing | .removed | .looking _ | .giving _ _ | .notified => True
  | _ => False

/-- The statements of the waits that run with the mutex of the caller locked. -/
def HoldsMutex : Place τ → Prop
  | .registering _ | .pushing _ | .pushed _ | .releasing _ => True
  | .cancelling | .removing | .removed => True
  | _ => False

/-- The statements of the waits that run with the mutex of the caller given up. -/
def GaveMutexUp : Place τ → Prop
  | .sleeping _ | .relocking _ => True
  | _ => False

/-- A task on the list waits for a notification, or is about to. -/
def Registered : Place τ → Prop
  | .pushed _ | .releasing _ | .sleeping _ => True
  | _ => False

/-- A broadcast that has yet to find the list empty. -/
def Broadcasting : Place τ → Prop
  | .notifying true | .looking true | .giving true _ => True
  | _ => False

/-- A signal or a broadcast that may still take a task from the list, or notify one it took. -/
def Underway : Place τ → Prop
  | .notifying _ | .looking _ | .giving _ _ => True
  | _ => False

instance : DecidablePred (Registered (τ := τ)) := fun place => by
  cases place <;> unfold Registered <;> infer_instance

instance : DecidablePred (Underway (τ := τ)) := fun place => by
  cases place <;> unfold Underway <;> infer_instance

end Place

/-- A condition variable, the mutex its waits are called with, and the tasks that use them. -/
structure ConditionVariable (τ : Type) where
  queue : List τ := []
  /-- The task that took the semaphore of the list. -/
  listOwner : Option τ := none
  mutexOwner : Option τ := none
  ulNotifiedValue : τ → ℕ := fun _ => 0
  place : τ → Place τ := fun _ => .outside

/-- What a task, or the clock, does next. -/
inductive Move (τ : Type)
  | lock (t : τ)
  | unlock (t : τ)
  | wait (t : τ) (timed : Bool)
  | notify (t : τ) (all : Bool)
  /-- The next statement of the function that the task is in. -/
  | advance (t : τ)
  | expire (t : τ)
  /-- A notification that does not come from the condition variable. -/
  | notifyGive (t : τ)
  deriving DecidableEq, Repr

namespace ConditionVariable

variable {τ : Type} [DecidableEq τ]

/-- The task goes on to another statement. -/
def goto (t : τ) (place : Place τ) (c : ConditionVariable τ) : ConditionVariable τ :=
  { c with place := Function.update c.place t place }

def xTaskNotifyGive (t : τ) (c : ConditionVariable τ) : ConditionVariable τ :=
  { c with ulNotifiedValue := Function.update c.ulNotifiedValue t (c.ulNotifiedValue t + 1) }

/-- The notifications of the task are taken all at once. -/
def clear (t : τ) (c : ConditionVariable τ) : ConditionVariable τ :=
  { c with ulNotifiedValue := Function.update c.ulNotifiedValue t 0 }

/-- Take the semaphore of the list, as soon as it is there. -/
def lockList (t : τ) (c : ConditionVariable τ) : Option (ConditionVariable τ) :=
  if c.listOwner = none then some { c with listOwner := some t } else none

def unlockList (c : ConditionVariable τ) : ConditionVariable τ := { c with listOwner := none }

/-- Take the mutex, as soon as it is there. -/
def lockMutex (t : τ) (c : ConditionVariable τ) : Option (ConditionVariable τ) :=
  if c.mutexOwner = none then some { c with mutexOwner := some t } else none

def unlockMutex (c : ConditionVariable τ) : ConditionVariable τ := { c with mutexOwner := none }

/-- The next statement of a task that is in one of the functions. -/
def advance (t : τ) (c : ConditionVariable τ) : Option (ConditionVariable τ) :=
  match c.place t with
  | .outside => none
  | .registering timed => (c.lockList t).map (goto t (.pushing timed))
  | .pushing timed => some (goto t (.pushed timed) { c with queue := c.queue ++ [t] })
  | .pushed timed => some (goto t (.releasing timed) c.unlockList)
  | .releasing timed => some (goto t (.sleeping timed) c.unlockMutex)
  | .sleeping _ =>
    if 0 < c.ulNotifiedValue t then some (goto t (.relocking false) (c.clear t)) else none
  | .relocking fTimeout =>
    (c.lockMutex t).map (goto t (if fTimeout then .cancelling else .outside))
  | .cancelling => (c.lockList t).map (goto t .removing)
  | .removing => some (goto t .removed { c with queue := c.queue.filter (· ≠ t) })
  | .removed => some (goto t .outside c.unlockList)
  | .notifying all => (c.lockList t).map (goto t (.looking all))
  | .looking all =>
    match c.queue with
    | [] => some (goto t .notified c)
    | front :: rest => some (goto t (.giving all front) { c with queue := rest })
  | .giving all front =>
    -- A broadcast looks at the list again, and a signal is done with its first task.
    some (goto t (if all then .looking all else .notified) (c.xTaskNotifyGive front))
  | .notified => some (goto t .outside c.unlockList)

/-- The tasks take turns in any order, one statement at a time. -/
def step : Step (ConditionVariable τ) (Move τ) := fun c move =>
  match move with
  | .lock t => if c.place t = .outside then c.lockMutex t else none
  | .unlock t =>
    if c.place t = .outside ∧ c.mutexOwner = some t then some c.unlockMutex else none
  -- The mutex is taken before the wait is entered.
  | .wait t timed =>
    if c.place t = .outside ∧ c.mutexOwner = some t then some (goto t (.registering timed) c)
    else none
  | .notify t all => if c.place t = .outside then some (goto t (.notifying all) c) else none
  | .advance t => c.advance t
  -- A timeout is reported if there still is no notification.
  | .expire t =>
    if c.place t = .sleeping true ∧ c.ulNotifiedValue t = 0 then some (goto t (.relocking true) c)
    else none
  | .notifyGive t => some (c.xTaskNotifyGive t)

/-- Nobody waits, and nobody has locked anything. -/
def created : ConditionVariable τ := {}

section Laws

variable {t u : τ} {place : Place τ} {c : ConditionVariable τ}

@[simp, grind =] theorem goto_queue : (goto t place c).queue = c.queue := rfl
@[simp, grind =] theorem goto_listOwner : (goto t place c).listOwner = c.listOwner := rfl
@[simp, grind =] theorem goto_mutexOwner : (goto t place c).mutexOwner = c.mutexOwner := rfl
@[simp, grind =] theorem goto_ulNotifiedValue :
    (goto t place c).ulNotifiedValue u = c.ulNotifiedValue u := rfl

@[simp, grind =] theorem xTaskNotifyGive_queue : (c.xTaskNotifyGive t).queue = c.queue := rfl
@[simp, grind =] theorem xTaskNotifyGive_place : (c.xTaskNotifyGive t).place u = c.place u := rfl
@[simp, grind =] theorem xTaskNotifyGive_listOwner :
    (c.xTaskNotifyGive t).listOwner = c.listOwner := rfl
@[simp, grind =] theorem xTaskNotifyGive_mutexOwner :
    (c.xTaskNotifyGive t).mutexOwner = c.mutexOwner := rfl

@[simp, grind =] theorem clear_queue : (c.clear t).queue = c.queue := rfl
@[simp, grind =] theorem clear_place : (c.clear t).place u = c.place u := rfl
@[simp, grind =] theorem clear_listOwner : (c.clear t).listOwner = c.listOwner := rfl
@[simp, grind =] theorem clear_mutexOwner : (c.clear t).mutexOwner = c.mutexOwner := rfl

/-- A task stands where it went to, and every other one where it stood. -/
@[simp, grind =] theorem goto_place :
    (goto t place c).place u = if u = t then place else c.place u := by
  simp [goto, Function.update_apply]

/-- A notification is one more for its task. -/
@[simp, grind =] theorem xTaskNotifyGive_ulNotifiedValue : (c.xTaskNotifyGive t).ulNotifiedValue u =
    if u = t then c.ulNotifiedValue t + 1 else c.ulNotifiedValue u := by
  simp [xTaskNotifyGive, Function.update_apply]

/-- A task that took its notifications has none left. -/
@[simp, grind =] theorem clear_ulNotifiedValue : (c.clear t).ulNotifiedValue u =
    if u = t then 0 else c.ulNotifiedValue u := by
  simp [clear, Function.update_apply]

end Laws

end ConditionVariable

end EasyEvse.Threads
