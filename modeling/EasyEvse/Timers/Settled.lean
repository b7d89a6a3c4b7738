import Mathlib.Data.Finset.Card
import EasyEvse.Timers.Service

/-! What the timers come to once their task has caught up with the commands. -/

namespace Timers

/-- What a command makes of the active timers. -/
def Command.apply (active : Finset ℕ) : Command → Finset ℕ
  | .start timer => insert timer active
  | .stop timer | .delete timer => active.erase timer
  | .other => active

namespace Service

variable {α : Type*} {capacity timer : ℕ} {command : Command} {commands : List Command}
  {payload : α} {s t : Service α} {running fewer : Finset ℕ}

/-- The timers that are active once all commands are processed. -/
def settled (s : Service α) : Finset ℕ := s.commands.foldl Command.apply s.active

/-- At most one timer is active now, and after each of the commands that wait. -/
def Single (s : Service α) : Prop :=
  ∀ front, front <+: s.commands → (front.foldl Command.apply s.active).card ≤ 1

/-- Fewer active timers come to fewer. -/
theorem apply_mono (less : fewer ⊆ running) :
    Command.apply fewer command ⊆ Command.apply running command := by
  cases command with
  | start timer => exact Finset.insert_subset_insert timer less
  | stop timer | delete timer => exact Finset.erase_subset_erase timer less
  | other => exact less

/-- Fewer active timers come to fewer after any commands. -/
theorem foldl_apply_mono (less : fewer ⊆ running) :
    commands.foldl Command.apply fewer ⊆ commands.foldl Command.apply running := by
  -- Each command is applied to both, and the induction goes on from there.
  induction commands generalizing fewer running with
  | nil => exact less
  | cons command commands ih => exact ih (apply_mono less)

/-- Nothing runs before anything was started. -/
theorem Single.initial : Single ({} : Service α) := by
  intro front isPrefix
  simp [List.prefix_nil.mp isPrefix]

/-- At most one timer is active at any time. -/
theorem Single.card_active_le (single : s.Single) : s.active.card ≤ 1 := single [] List.nil_prefix

/-- A new timer does not run yet. -/
theorem Single.create (single : s.Single) : (s.create payload).Single := single

/-- Where no command is refused in the end, none was refused before. -/
theorem refused_of_put (accepted : (s.put capacity command).refused = []) : s.refused = [] := by
  rcases put_cases capacity command s with ⟨-, same⟩ | ⟨-, refused⟩
  · rw [← same, accepted]
  · rw [accepted] at refused
    simp at refused

/-- A command that is not refused is queued. -/
theorem queued_of_accepted (accepted : (s.put capacity command).refused = s.refused) :
    (s.put capacity command).commands = s.commands ++ [command] := by
  rcases put_cases capacity command s with ⟨queued, -⟩ | ⟨-, refused⟩
  · exact queued
  · -- A refused command would be one more than were refused before.
    rw [accepted] at refused
    exact absurd refused (by simp)

/-- A command that is accepted is the last one to be processed. -/
theorem settled_put (accepted : (s.put capacity command).refused = s.refused) :
    (s.put capacity command).settled = Command.apply s.settled command := by
  have frame := @put_frame _ capacity command s
  rw [settled, settled, queued_of_accepted accepted, frame.2.1, List.foldl_append]
  rfl

/-- A command keeps at most one timer active if it starts none beside another. -/
theorem Single.put (single : s.Single)
    (accepted : (s.put capacity command).refused = s.refused)
    (one : (Command.apply s.settled command).card ≤ 1) : (s.put capacity command).Single := by
  have frame := @put_frame _ capacity command s
  have queued := queued_of_accepted accepted
  intro front isPrefix
  rw [queued] at isPrefix
  -- The new command is part of the whole queue alone.
  rcases List.prefix_concat_iff.mp isPrefix with whole | part
  · rw [whole, ← queued, ← settled, settled_put accepted]
    exact one
  · rw [frame.2.1]
    exact single front part

/-- A command that is processed is one of those that were to be processed. -/
theorem settled_process (moved : s.process = some t) : t.settled = s.settled := by
  obtain ⟨command, commands, queued, rfl⟩ := process_cases moved
  rw [settled, settled, queued]
  cases command <;> rfl

/-- A command that is processed keeps at most one timer active. -/
theorem Single.process (single : s.Single) (moved : s.process = some t) : t.Single := by
  obtain ⟨command, commands, queued, rfl⟩ := process_cases moved
  intro front isPrefix
  have before := single (command :: front) (by
    rw [queued]
    exact List.cons_prefix_cons.mpr ⟨rfl, isPrefix⟩)
  cases command <;> exact before

/-- Where fewer timers are active, no more than before become active. -/
theorem Single.of_subset (single : s.Single) (same : t.commands = s.commands)
    (less : t.active ⊆ s.active) : t.Single := by
  intro front isPrefix
  exact (Finset.card_le_card (foldl_apply_mono less)).trans (single front (same ▸ isPrefix))

/-- Where fewer timers are active, no more than before settle. -/
theorem settled_subset (same : t.commands = s.commands) (less : t.active ⊆ s.active) :
    t.settled ⊆ s.settled := by
  rw [settled, settled, same]
  exact foldl_apply_mono less

end Service

end Timers
