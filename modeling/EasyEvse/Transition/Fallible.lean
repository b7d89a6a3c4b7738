import Mathlib.Data.List.Basic

/-! Operations that return a state or throw, one after the other and in loops. -/

namespace Transition

variable {ε α σ : Type*} {f : σ → α → Except ε σ} {P : σ → Prop} {l : List α} {s t : σ}

/-- If one operation after another returns, so do both. -/
theorem returns_of_bind {β : Type*} {first : Except ε α} {next : α → Except ε β} {result : β}
    (returned : first.bind next = .ok result) :
    ∃ between, first = .ok between ∧ next between = .ok result := by
  cases first with
  | error error => cases returned
  | ok between => exact ⟨between, rfl, returned⟩

/-- What every round of a loop keeps, the loop keeps if it returns. -/
theorem foldlM_keeps (keeps : ∀ a ∈ l, ∀ s t, P s → f s a = .ok t → P t) (start : P s)
    (finish : l.foldlM f s = .ok t) : P t := by
  -- The rounds are taken one at a time, each from where the one before left the state.
  induction l generalizing s with
  | nil => cases finish; exact start
  | cons a l ih =>
    rw [List.foldlM_cons] at finish
    obtain ⟨next, moved, rest⟩ := returns_of_bind finish
    exact ih (fun b member => keeps b (List.mem_cons_of_mem a member))
      (keeps a List.mem_cons_self s next start moved) rest

/-- A loop returns if every round does, from any state that the rounds before may leave. -/
theorem foldlM_returns (round : ∀ a ∈ l, ∀ s, P s → ∃ t, f s a = .ok t ∧ P t) (start : P s) :
    ∃ t, l.foldlM f s = .ok t ∧ P t := by
  induction l generalizing s with
  | nil => exact ⟨s, rfl, start⟩
  | cons a l ih =>
    obtain ⟨next, moved, held⟩ := round a List.mem_cons_self s start
    obtain ⟨t, finish, holds⟩ := ih (fun b member => round b (List.mem_cons_of_mem a member)) held
    exact ⟨t, by rw [List.foldlM_cons, moved]; exact finish, holds⟩

/-- Looking whether something holds of all returns if looking at every one does. -/
theorem allM_returns {look : α → Except ε Bool} (one : ∀ a ∈ l, ∃ b, look a = .ok b) :
    ∃ b, l.allM look = .ok b := by
  induction l with
  | nil => exact ⟨true, rfl⟩
  | cons a l ih =>
    obtain ⟨b, looked⟩ := one a List.mem_cons_self
    obtain ⟨rest, all⟩ := ih fun c member => one c (List.mem_cons_of_mem a member)
    cases b with
    | true => exact ⟨rest, by simp only [List.allM, looked]; exact all⟩
    | false => exact ⟨false, by simp only [List.allM, looked]; rfl⟩

end Transition
