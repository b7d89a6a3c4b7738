import Mathlib.Data.List.Nodup
import EasyEvse.Threads.Statements

/-! No wake-up is lost: who waits is on the list until somebody notifies it. -/

namespace EasyEvse.Threads.ConditionVariable

open Transition

variable {τ : Type} [DecidableEq τ] {c d : ConditionVariable τ} {move : Move τ}
  {moves more : List (Move τ)}

/-- Who is registered is on the list, or is just being notified, or has a notification. -/
def Listed (c : ConditionVariable τ) : Prop :=
  ∀ t, (c.place t).Registered → c.ulNotifiedValue t = 0 →
    t ∈ c.queue ∨ ∃ u all, c.place u = .giving all t

/-- A task that is still on its way to notify another one after a statement. -/
theorem Does.giving {t u : τ} {all : Bool} (does : Does c move d)
    (giving : c.place u = .giving all t) (untold : d.ulNotifiedValue t = 0) :
    d.place u = .giving all t := by
  -- Nobody but the task itself ends what it is about to give.
  cases does <;> grind

/-- Who is on the list stays there until it is taken from it to be notified. -/
theorem Does.queued {t : τ} (does : Does c move d) (queued : t ∈ c.queue)
    (registered : (d.place t).Registered) :
    t ∈ d.queue ∨ ∃ u all, d.place u = .giving all t := by
  -- The list loses a task in two statements only.
  cases does with
  | @pop u front rest all place same =>
    -- The front is picked to be notified, and the rest stays.
    rw [same] at queued
    rcases List.mem_cons.mp queued with rfl | behind
    · exact .inr ⟨u, all, by simp⟩
    · exact .inl behind
  | @remove u place =>
    -- Only a task that is no longer registered takes itself from the list.
    refine .inl (List.mem_filter.mpr ⟨queued, ?_⟩)
    have other : t ≠ u := by
      rintro rfl
      simp [Place.Registered] at registered
    simpa using other
  | _ => exact .inl (by simp [queued])

/-- A task registers by putting itself on the list, and takes its notifications when it wakes. -/
theorem Does.registered {t : τ} (does : Does c move d) (registered : (d.place t).Registered)
    (untold : d.ulNotifiedValue t = 0) :
    (c.place t).Registered ∧ c.ulNotifiedValue t = 0 ∨ t ∈ d.queue := by
  -- One case for each statement of the task itself, and the others leave it as it is.
  cases does <;> grind [Place.Registered]

/-- No statement makes the list forget a task that waits. -/
theorem Does.listed (does : Does c move d) (listed : Listed c) : Listed d := by
  -- The task was registered before, or it has just put itself on the list.
  intro t registered untold
  rcases does.registered registered untold with ⟨before, still⟩ | queued
  · rcases listed t before still with queued | ⟨u, all, giving⟩
    · exact does.queued queued registered
    · exact .inr ⟨u, all, does.giving giving untold⟩
  · exact .inl queued

/-- In every run the locks are with their tasks, and nobody who waits is forgotten. -/
theorem run_listed (ran : run step created moves = some c) : Locked c ∧ Listed c := by
  -- Nobody waits at the start.
  have start : Locked (created (τ := τ)) ∧ Listed (created (τ := τ)) :=
    ⟨locked_created, fun t registered => by simp [created, Place.Registered] at registered⟩
  exact @run_invariant _ _ _ _ _ _ (fun s => Locked s ∧ Listed s)
    (fun kept moved => ⟨(step_does moved).locked kept.1, (step_does moved).listed kept.2⟩)
    start ran

omit [DecidableEq τ] in
/-- Who finds the list empty knows that everybody who waits has been notified. -/
theorem Listed.all_notified {t u : τ} (listed : Listed c) (locked : Locked c)
    (looking : (c.place u).HoldsList) (notGiving : ∀ all t, c.place u ≠ .giving all t)
    (empty : c.queue = []) (registered : (c.place t).Registered) : 0 < c.ulNotifiedValue t := by
  -- A task without a notification is on the list, or somebody notifies it just now.
  by_contra untold
  rcases listed t registered (by omega) with queued | ⟨other, all, giving⟩
  · simp [empty] at queued
  · -- Whoever notifies a task holds the list, and that is the task that looks at it.
    have same := locked.alone looking (by rw [giving]; trivial)
    exact notGiving all t (same ▸ giving)

/-- Between its call and its return, a broadcast has not found the list empty. -/
theorem Does.broadcasting {t u : τ} (does : Does c move d) (locked : Locked c) (listed : Listed c)
    (broadcasting : (c.place u).Broadcasting) (registered : (c.place t).Registered)
    (untold : c.ulNotifiedValue t = 0) : (d.place u).Broadcasting := by
  -- Only a broadcast that finds the list empty ends.
  cases does with
  | @nobody other all place empty =>
    -- The task that waits would have been notified.
    have told : ¬ (other = u) := by
      rintro rfl
      have := listed.all_notified locked (u := other) (by rw [place]; trivial)
        (by simp [place]) empty registered
      omega
    simpa [Ne.symm told] using broadcasting
  | _ => grind [Place.Broadcasting]

/-- A task leaves its wait with a notification, or after its timeout. -/
theorem Does.stays {t : τ} (does : Does c move d) (registered : (c.place t).Registered)
    (untold : c.ulNotifiedValue t = 0) :
    0 < d.ulNotifiedValue t ∨ d.place t = .relocking true ∨
      (d.place t).Registered ∧ d.ulNotifiedValue t = 0 := by
  -- One case for each statement of the task itself; the others can only notify it.
  cases does <;> grind [Place.Registered]

/--
While a broadcast runs, every task that waited at its call is notified, or its wait times out.

The tasks may take turns in any way meanwhile, and other code may notify them as well.
-/
theorem broadcast_wakes {t u : τ} (ran : run step created moves = some c)
    (called : c.place u = .notifying true) (waits : (c.place t).Registered)
    (went : run step c more = some d) (returned : d.place u = .outside) :
    ∃ e, Visits step c more e ∧ (0 < e.ulNotifiedValue t ∨ e.place t = .relocking true) := by
  -- A task that was notified before the call has what it needs.
  by_cases untold : c.ulNotifiedValue t = 0
  -- Until it is told the task stays on the list, and so the broadcast does not end.
  · have invariant := run_listed ran
    have outcome := @run_until _ _ _ _ _ _
      (fun s => (Locked s ∧ Listed s) ∧ (s.place u).Broadcasting ∧
        (s.place t).Registered ∧ s.ulNotifiedValue t = 0)
      (fun s => 0 < s.ulNotifiedValue t ∨ s.place t = .relocking true) (fun _ _ => True)
      (fun kept _ moved => by
        obtain ⟨⟨locked, listed⟩, broadcasting, registered, untold⟩ := kept
        have does := step_does moved
        rcases does.stays registered untold with told | expired | waiting
        · exact .inl (.inl told)
        · exact .inl (.inr expired)
        · exact .inr ⟨⟨does.locked locked, does.listed listed⟩,
            does.broadcasting locked listed broadcasting registered untold, waiting⟩)
      ⟨invariant, by rw [called]; trivial, waits, untold⟩ (meets_of_forall fun _ _ => trivial) went
    rcases outcome with reached | ⟨-, broadcasting, -⟩
    · exact reached
    · -- The broadcast has returned, so it is not underway.
      rw [returned] at broadcasting
      exact broadcasting.elim
  · exact ⟨c, visits_start, .inl (by omega)⟩

/-- Two of three tasks wait, one of them with a timeout. -/
def twoWait : List (Move (Fin 3)) :=
  [.lock 0, .wait 0 false] ++ List.replicate 4 (.advance 0) ++ [.lock 1, .wait 1 true] ++
    List.replicate 4 (.advance 1)

/-- The third task broadcasts, and the timeout passes meanwhile. -/
theorem broadcast_wakes_two : ∃ c, run step created (twoWait ++ [.notify 2 true]) = some c ∧
    ∃ e, Visits step c ([.advance 2, .expire 1] ++ List.replicate 6 (.advance 2)) e ∧
      (0 < e.ulNotifiedValue 0 ∨ e.place 0 = .relocking true) :=
  ⟨_, rfl, broadcast_wakes (t := 0) (u := 2)
    (show run step created (twoWait ++ [.notify 2 true]) = some _ from rfl) rfl trivial rfl rfl⟩

end EasyEvse.Threads.ConditionVariable
