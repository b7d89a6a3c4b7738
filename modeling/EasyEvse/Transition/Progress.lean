import EasyEvse.Transition.Run

/-! What one participant brings about by its own steps, whatever the others do in between. -/

namespace Transition

variable {σ ι : Type*} [DecidableEq ι]

/--
Some input leads to a goal, whatever other inputs come in between.

Until the goal was reached the input is always enabled, and it has not been taken very often.
-/
def Inevitable (guard : σ → ι → Prop) (step : Step σ ι) (i : ι) (goal : σ → Prop) (s : σ) : Prop :=
  ∃ bound, ∀ is t, Meets guard step s is → run step s is = some t →
    (∃ u, Visits step s is u ∧ goal u) ∨ (step t i).isSome ∧ is.count i < bound

/-- A goal that is reached is inevitable. -/
theorem inevitable_of_goal {guard : σ → ι → Prop} {step : Step σ ι} {i : ι} {goal : σ → Prop}
    {s : σ} (reached : goal s) : Inevitable guard step i goal s :=
  ⟨0, fun _ _ _ _ => .inl ⟨s, visits_start, reached⟩⟩

/-- What is inevitable brings about everything that it entails. -/
theorem Inevitable.imp {guard : σ → ι → Prop} {step : Step σ ι} {i : ι} {goal other : σ → Prop}
    {s : σ} (inevitable : Inevitable guard step i goal s) (entails : ∀ {u}, goal u → other u) :
    Inevitable guard step i other s := by
  obtain ⟨bound, leads⟩ := inevitable
  exact ⟨bound, fun is t guarded finish => (leads is t guarded finish).imp_left
    fun ⟨u, visited, reached⟩ => ⟨u, visited, entails reached⟩⟩

section Rank

variable {step : Step σ ι} {guard : σ → ι → Prop} {Inv goal : σ → Prop} {rank : σ → ℕ} {s t : σ}
  {i : ι} {is : List ι}

/-- Until the goal is reached, the steps of the input are paid for by the rank. -/
theorem count_add_rank_le
    (keeps : ∀ {s j t}, Inv s → guard s j → step s j = some t →
      goal t ∨ Inv t ∧ rank t ≤ rank s)
    (advances : ∀ {s t}, Inv s → guard s i → step s i = some t → goal t ∨ rank t < rank s)
    (start : Inv s) (guarded : Meets guard step s is) (finish : run step s is = some t) :
    (∃ u, Visits step s is u ∧ goal u) ∨ Inv t ∧ is.count i + rank t ≤ rank s := by
  -- Each step either reaches the goal or hands on what is left of the rank.
  induction is generalizing s with
  | nil =>
    simp only [run_nil, Option.some.injEq] at finish
    subst finish
    exact .inr ⟨start, by simp⟩
  | cons j is ih =>
    obtain ⟨next, moved, rest⟩ := Option.bind_eq_some_iff.mp finish
    obtain ⟨allowed, guarded⟩ := guarded next moved
    rcases keeps start allowed moved with reached | ⟨kept, notMore⟩
    · exact .inl ⟨next, visits_cons moved visits_start, reached⟩
    rcases ih kept guarded rest with ⟨u, visited, reached⟩ | ⟨kept, paid⟩
    · exact .inl ⟨u, visits_cons moved visited, reached⟩
    rw [List.count_cons]
    by_cases own : j = i
    · subst own
      rcases advances start allowed moved with reached | less
      · exact .inl ⟨next, visits_cons moved visits_start, reached⟩
      · exact .inr ⟨kept, by simp only [beq_self_eq_true, if_true]; omega⟩
    · exact .inr ⟨kept, by rw [if_neg (by simpa using own)]; omega⟩

/-- A goal is inevitable if the input is always enabled, and only it is needed to get closer. -/
theorem inevitable_of_rank (enabled : ∀ {s}, Inv s → (step s i).isSome)
    (keeps : ∀ {s j t}, Inv s → guard s j → step s j = some t →
      goal t ∨ Inv t ∧ rank t ≤ rank s)
    (advances : ∀ {s t}, Inv s → guard s i → step s i = some t → goal t ∨ rank t < rank s)
    (start : Inv s) : Inevitable guard step i goal s := by
  refine ⟨rank s + 1, fun is t guarded finish => ?_⟩
  have paid : (∃ u, Visits step s is u ∧ goal u) ∨ Inv t ∧ is.count i + rank t ≤ rank s :=
    count_add_rank_le keeps advances start guarded finish
  rcases paid with reached | ⟨kept, paid⟩
  · exact .inl reached
  · exact .inr ⟨enabled kept, by omega⟩

end Rank

end Transition
