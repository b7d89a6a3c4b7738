import EasyEvse.Threads.Wakeups

/-! Without timeouts every notification reaches a task that waits for one and has none yet. -/

namespace EasyEvse.Threads

open Transition

namespace Place

variable {τ : Type}

/-- The statements that only a wait with a timeout comes to. -/
def WithTimeout : Place τ → Prop
  | .registering true | .pushing true | .pushed true | .releasing true | .sleeping true => True
  | .relocking true | .cancelling | .removing | .removed => True
  | _ => False

end Place

/-- No timeout is asked for, and only the condition variable notifies. -/
def Move.Plain {τ : Type} : Move τ → Prop
  | .wait _ true | .notifyGive _ => False
  | _ => True

namespace ConditionVariable

variable {τ : Type} [DecidableEq τ] {c d : ConditionVariable τ} {move : Move τ}
  {moves : List (Move τ)}

/-- The list, the notifications under way and those not taken yet name every waiting task once. -/
structure Tidy (c : ConditionVariable τ) : Prop where
  nodup : c.queue.Nodup
  queued : ∀ t ∈ c.queue, (c.place t).Registered ∧ c.ulNotifiedValue t = 0
  giving : ∀ u all t, c.place u = .giving all t →
    (c.place t).Registered ∧ c.ulNotifiedValue t = 0 ∧ t ∉ c.queue
  told : ∀ t, 0 < c.ulNotifiedValue t → (c.place t).Registered
  untimed : ∀ t, ¬ (c.place t).WithTimeout

omit [DecidableEq τ] in
theorem tidy_created : Tidy (created (τ := τ)) where
  nodup := List.nodup_nil
  queued t member := by simp [created] at member
  giving u all t giving := by simp [created] at giving
  told t told := by simp [created] at told
  untimed t timed := by simp [created, Place.WithTimeout] at timed

/-- Without timeouts nobody comes to the statements that deal with one. -/
theorem Does.untimed (does : Does c move d) (plain : move.Plain) (tidy : Tidy c) (t : τ) :
    ¬ (d.place t).WithTimeout := by
  -- One case for each statement: the branches with a timeout are entered from such a wait.
  have before := tidy.untimed
  cases does <;> grind [Place.WithTimeout, Move.Plain]

/-- A notification that was not taken yet is one of a task that waits. -/
theorem Does.told (does : Does c move d) (plain : move.Plain) (tidy : Tidy c) (t : τ)
    (told : 0 < d.ulNotifiedValue t) : (d.place t).Registered := by
  -- A statement that notifies does so only for a task that was on the list.
  have before := tidy.told
  have giving := tidy.giving
  have untimed := tidy.untimed
  cases does <;> grind [Place.Registered, Place.WithTimeout, Move.Plain]

/-- Who is on the list waits, and has not been notified. -/
theorem Does.waiting (does : Does c move d) (plain : move.Plain) (tidy : Tidy c) (t : τ)
    (queued : t ∈ d.queue) :
    (d.place t).Registered ∧ d.ulNotifiedValue t = 0 := by
  -- Who comes to the list has just begun to wait, and has taken its notifications.
  have before := tidy.queued
  have giving := tidy.giving
  have told := tidy.told
  have untimed := tidy.untimed
  cases does <;> grind [Place.Registered, Place.WithTimeout, Move.Plain]

/-- A task puts itself on the list when it is not there, so that it is there once. -/
theorem Does.nodup (does : Does c move d) (tidy : Tidy c) : d.queue.Nodup := by
  -- Only the push adds to the list, and that task was not there.
  have before := tidy.nodup
  have queued := tidy.queued
  cases does <;> grind [Place.Registered, List.Nodup.filter, List.nodup_append]

/-- Who is taken from the list to be notified is no longer there, and has not been notified. -/
theorem Does.picked (does : Does c move d) (plain : move.Plain) (locked : Locked c)
    (tidy : Tidy c) (u : τ) (all : Bool) (t : τ) (picked : d.place u = .giving all t) :
    (d.place t).Registered ∧ d.ulNotifiedValue t = 0 ∧ t ∉ d.queue := by
  -- All parts of the invariant are needed here, and that only one task holds the list.
  have nodup := tidy.nodup
  have queued := tidy.queued
  have giving := tidy.giving
  have told := tidy.told
  have untimed := tidy.untimed
  have list := locked.list
  cases does <;> grind [Place.Registered, Place.HoldsList, Place.WithTimeout, Move.Plain]

/-- The bookkeeping stays tidy as long as nobody asks for a timeout. -/
theorem Does.tidy (does : Does c move d) (plain : move.Plain) (locked : Locked c)
    (tidy : Tidy c) : Tidy d where
  nodup := does.nodup tidy
  queued := does.waiting plain tidy
  giving := does.picked plain locked tidy
  told := does.told plain tidy
  untimed := does.untimed plain tidy

/-- A statement that notifies a task finds it waiting, without a notification so far. -/
def ToWaiting (c : ConditionVariable τ) (move : Move τ) : Prop :=
  ∀ u all t, move = .advance u → c.place u = .giving all t →
    (c.place t).Registered ∧ c.ulNotifiedValue t = 0

/--
Without timeouts each notification goes to a task that waits and has not been notified.

None is swallowed by a task that does not wait, however the tasks take turns.
-/
theorem notified_once (plain : ∀ move ∈ moves, move.Plain) :
    Meets ToWaiting step (created (τ := τ)) moves := by
  -- Every plain move keeps the locks and the bookkeeping.
  refine @meets_of_invariant _ _ _ _ _ (fun s => Locked s ∧ Tidy s) (fun _ move => move.Plain) _
    ?_ ?_ ⟨locked_created, tidy_created⟩ (meets_of_forall plain)
  · intro s move next kept allowed moved
    have does := step_does moved
    exact ⟨does.locked kept.1, does.tidy allowed kept.1 kept.2⟩
  · -- The task that was picked still waits when it is notified.
    intro s move next kept allowed moved u all t same giving
    obtain ⟨registered, untold, -⟩ := kept.2.giving u all t giving
    exact ⟨registered, untold⟩

/-- Two tasks wait, and a third one signals twice. -/
theorem notified_once_signals : Meets ToWaiting step (created (τ := Fin 3))
    ([.lock 0, .wait 0 false] ++ List.replicate 4 (.advance 0) ++ [.lock 1, .wait 1 false] ++
      List.replicate 4 (.advance 1) ++ [.notify 2 false] ++ List.replicate 4 (.advance 2) ++
      [.notify 2 false] ++ List.replicate 4 (.advance 2)) :=
  notified_once (by simp [Move.Plain, List.replicate])

/-- A signal is lost on a task whose timeout has just passed, while another one waits for it. -/
theorem signal_lost : ∃ c, run step (created (τ := Fin 3))
    ([.lock 0, .wait 0 true] ++ List.replicate 4 (.advance 0) ++ [.lock 1, .wait 1 false] ++
      List.replicate 4 (.advance 1) ++ [.expire 0, .notify 2 false] ++
      List.replicate 4 (.advance 2) ++ List.replicate 4 (.advance 0) ++ [.unlock 0]) = some c ∧
    c.place 0 = .outside ∧ c.place 2 = .outside ∧
      c.place 1 = .sleeping false ∧ c.ulNotifiedValue 1 = 0 :=
  ⟨_, rfl, rfl, rfl, rfl, rfl⟩

end ConditionVariable

end EasyEvse.Threads
