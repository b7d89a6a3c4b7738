import Mathlib.Data.List.Basic

/-! Machines that answer every input, and states that no sequence of inputs can tell apart. -/

namespace Transition

/-- One input moves the state and is answered. -/
abbrev Machine (σ ι ω : Type*) := σ → ι → σ × ω

section Observation

variable {σ ι ω : Type*} {m : Machine σ ι ω} {s t : σ} {i : ι} {is js : List ι}

/-- The state after every input from left to right. -/
def after (m : Machine σ ι ω) (s : σ) (is : List ι) : σ := is.foldl (fun s i => (m s i).1) s

/-- The answers to every input from left to right. -/
def answers (m : Machine σ ι ω) (s : σ) : List ι → List ω
  | [] => []
  | i :: is => (m s i).2 :: answers m (m s i).1 is

/-- No sequence of inputs is answered differently in two states. -/
def Indistinct (m : Machine σ ι ω) (s t : σ) : Prop := ∀ is, answers m s is = answers m t is

@[simp] theorem after_nil : after m s [] = s := rfl

@[simp] theorem after_cons : after m s (i :: is) = after m (m s i).1 is := rfl

/-- Inputs in a row lead where the later ones lead from the state after the earlier ones. -/
theorem after_append : after m s (is ++ js) = after m (after m s is) js :=
  List.foldl_append

/-- What is not told apart is not told apart by its next answer, nor after it. -/
theorem Indistinct.step (same : Indistinct m s t) (i : ι) :
    (m s i).2 = (m t i).2 ∧ Indistinct m (m s i).1 (m t i).1 := by
  -- The inputs that begin with this one are among all inputs.
  constructor
  · exact List.cons.inj (same [i]) |>.1
  · exact fun is => List.cons.inj (same (i :: is)) |>.2

/-- What is not told apart is not told apart after any inputs. -/
theorem Indistinct.after (same : Indistinct m s t) (is : List ι) :
    Indistinct m (after m s is) (after m t is) := by
  -- The inputs are taken one at a time, from both states.
  induction is generalizing s t with
  | nil => exact same
  | cons i is ih => exact ih (same.step i).2

/-- States in a relation that every input keeps and answers alike are not told apart. -/
theorem Indistinct.of_relation {R : σ → σ → Prop}
    (keeps : ∀ {s t}, R s t → ∀ i, (m s i).2 = (m t i).2 ∧ R (m s i).1 (m t i).1)
    (start : R s t) : Indistinct m s t := by
  intro is
  -- Each input is answered alike, and leads to states that are related again.
  induction is generalizing s t with
  | nil => rfl
  | cons i is ih =>
    obtain ⟨alike, next⟩ := keeps start i
    rw [answers, answers, alike, ih next]

end Observation

end Transition
