import Mathlib.Data.List.Basic
import Mathlib.Data.List.Induction
import Mathlib.Data.Option.Basic

/-! Finite runs of partial labelled steps, and the rules that carry facts along them. -/

namespace Transition

variable {σ ι τ κ : Type*}

/-- One input moves the state, unless the input is not enabled there. -/
abbrev Step (σ ι : Type*) := σ → ι → Option σ

/-- The state after consuming every input from left to right. -/
def run (step : Step σ ι) (s : σ) : List ι → Option σ
  | [] => some s
  | i :: is => (step s i).bind fun next => run step next is

/-- A state some prefix of the inputs leads to. -/
def Visits (step : Step σ ι) (s : σ) (is : List ι) (t : σ) : Prop :=
  -- The empty prefix is allowed, so a run visits the state it starts from.
  ∃ front, front <+: is ∧ run step s front = some t

/-- Every step the run takes meets the guard in the state it is taken from. -/
def Meets (guard : σ → ι → Prop) (step : Step σ ι) (s : σ) : List ι → Prop
  | [] => True
  -- A step that is not enabled ends the run, and asks for nothing.
  | i :: is => ∀ next ∈ step s i, guard s i ∧ Meets guard step next is

/-- Meeting a decidable guard is decidable, by following the run. -/
instance decidableMeets (guard : σ → ι → Prop) (step : Step σ ι)
    [∀ s i, Decidable (guard s i)] : ∀ s is, Decidable (Meets guard step s is)
  | _, [] => isTrue trivial
  | s, i :: is =>
    -- Only one state can come next, and the rest is decided there.
    have : ∀ next, Decidable (guard s i ∧ Meets guard step next is) := fun next =>
      have := decidableMeets guard step next is
      inferInstance
    inferInstanceAs (Decidable (∀ next ∈ step s i, guard s i ∧ Meets guard step next is))

/-- Every step the run takes meets a guard on the inputs before it. -/
def MeetsAfter (guard : List ι → ι → Prop) (step : Step σ ι) (s : σ) (is : List ι) : Prop :=
  ∀ front i, front ++ [i] <+: is → ∀ t, run step s (front ++ [i]) = some t → guard front i

/-- A state reachable from one of the initial states. -/
def Reachable (init : σ → Prop) (step : Step σ ι) (t : σ) : Prop :=
  ∃ s is, init s ∧ run step s is = some t

section Runs

variable {step : Step σ ι} {s t u : σ} {i : ι} {is js : List ι}

@[simp] theorem run_nil : run step s [] = some s := rfl

@[simp] theorem run_cons :
    run step s (i :: is) = (step s i).bind fun next => run step next is := rfl

/-- A run splits wherever its inputs do. -/
theorem run_append : run step s (is ++ js) = (run step s is).bind fun mid => run step mid js := by
  -- The first inputs are consumed one at a time, so the start stays quantified over.
  induction is generalizing s with
  | nil => simp
  | cons i is ih =>
    cases moved : step s i with
    | none => simp [moved]
    | some next => simp [moved, ih]

/-- A step that is enabled everywhere is run by folding it. -/
theorem run_total {apply : σ → ι → σ} :
    run (fun s i => some (apply s i)) s is = some (is.foldl apply s) := by
  -- No input is ever refused, so the run follows the fold.
  induction is generalizing s with
  | nil => rfl
  | cons i is ih => exact ih

/-- The last input is consumed in the state the earlier ones lead to. -/
theorem run_snoc : run step s (is ++ [i]) = (run step s is).bind fun mid => step mid i := by
  -- The first inputs are left as they are, and the last one is consumed after them.
  rw [run_append]
  cases run step s is with
  | none => rfl
  | some mid => cases moved : step mid i <;> simp [moved]

/-- Two runs join end to end. -/
theorem run_trans (first : run step s is = some t) (second : run step t js = some u) :
    run step s (is ++ js) = some u := by
  simp [run_append, first, second]

/-- A run visits the state it starts from. -/
theorem visits_start : Visits step s is s := ⟨[], List.nil_prefix, rfl⟩

/-- A run visits the state it ends in. -/
theorem visits_end (finish : run step s is = some t) : Visits step s is t :=
  ⟨is, List.prefix_refl is, finish⟩

/-- Everything the rest of a run visits, the whole run visits. -/
theorem visits_cons (moved : step s i = some t) (rest : Visits step t is u) :
    Visits step s (i :: is) u := by
  obtain ⟨front, isPrefix, reached⟩ := rest
  exact ⟨i :: front, by simpa using isPrefix, by simp [moved, reached]⟩

/-- A longer run visits what its front visits. -/
theorem Visits.append (visited : Visits step s is u) : Visits step s (is ++ js) u := by
  obtain ⟨front, isPrefix, reached⟩ := visited
  exact ⟨front, isPrefix.trans (List.prefix_append is js), reached⟩

/-- What is visited from the end of a run is visited by the run that goes on. -/
theorem Visits.after (first : run step s is = some t) (visited : Visits step t js u) :
    Visits step s (is ++ js) u := by
  obtain ⟨front, isPrefix, reached⟩ := visited
  exact ⟨is ++ front, List.prefix_append_right_inj is |>.mpr isPrefix, run_trans first reached⟩

/-- What a run visits is its start, or is visited by the rest after its first step. -/
theorem visits_cons_iff : Visits step s (i :: is) u ↔
    u = s ∨ ∃ next, step s i = some next ∧ Visits step next is u := by
  -- The prefix that is run is empty, or begins with the first step.
  constructor
  · intro ⟨front, isPrefix, reached⟩
    cases front with
    | nil => exact Or.inl (by simpa using reached.symm)
    | cons j front =>
      obtain ⟨rfl, shorter⟩ := List.cons_prefix_cons.mp isPrefix
      obtain ⟨next, moved, ran⟩ := Option.bind_eq_some_iff.mp reached
      exact Or.inr ⟨next, moved, front, shorter, ran⟩
  · intro visited
    rcases visited with rfl | ⟨next, moved, rest⟩
    · exact visits_start
    · exact visits_cons moved rest

/-- What the empty run visits is its start alone. -/
@[simp] theorem visits_nil_iff : Visits step s [] u ↔ u = s := by
  constructor
  · intro ⟨front, isPrefix, reached⟩
    obtain rfl := List.prefix_nil.mp isPrefix
    simpa using reached.symm
  · intro same
    subst same
    exact visits_start

/-- A guard met by a whole run is met by its front, and by its rest where the front leads. -/
theorem meets_append {guard : σ → ι → Prop} : Meets guard step s (is ++ js) ↔
    Meets guard step s is ∧ ∀ mid, run step s is = some mid → Meets guard step mid js := by
  -- The guard is looked at in every state of the first run, so the induction follows that.
  induction is generalizing s with
  | nil => simp [Meets]
  | cons i is ih =>
    cases moved : step s i with
    | none => simp [Meets, moved]
    | some next => simp [Meets, moved, ih, and_assoc]

/-- An invariant that every step keeps holds at the end of every run. -/
theorem run_invariant {Inv : σ → Prop}
    (keeps : ∀ {s i t}, Inv s → step s i = some t → Inv t)
    (start : Inv s) (finish : run step s is = some t) : Inv t := by
  -- Each step hands the invariant on to the state it leads to.
  induction is generalizing s with
  | nil => simp only [run_nil, Option.some.injEq] at finish; exact finish ▸ start
  | cons i is ih =>
    obtain ⟨next, moved, rest⟩ := Option.bind_eq_some_iff.mp finish
    exact ih (keeps start moved) rest

/-- An invariant that every guarded step keeps holds at the end of every guarded run. -/
theorem run_guarded_invariant {Inv : σ → Prop} {guard : σ → ι → Prop}
    (keeps : ∀ {s i t}, Inv s → guard s i → step s i = some t → Inv t)
    (start : Inv s) (guarded : Meets guard step s is) (finish : run step s is = some t) :
    Inv t := by
  -- The guard of the first step allows it, and the others are left to the induction.
  induction is generalizing s with
  | nil => simp only [run_nil, Option.some.injEq] at finish; exact finish ▸ start
  | cons i is ih =>
    obtain ⟨next, moved, rest⟩ := Option.bind_eq_some_iff.mp finish
    obtain ⟨allowed, guarded⟩ := guarded next moved
    exact ih (keeps start allowed moved) guarded rest

/-- A fact about the inputs so far and the state they lead to, proved one input at a time. -/
theorem run_history_invariant {Inv : List ι → σ → Prop} {guard : σ → ι → Prop}
    (keeps : ∀ {is s i t}, Inv is s → guard s i → step s i = some t → Inv (is ++ [i]) t)
    (start : Inv [] s) (guarded : Meets guard step s is) (finish : run step s is = some t) :
    Inv is t := by
  -- The history grows at its end, so the induction peels off the last input.
  induction is using List.reverseRecOn generalizing t with
  | nil => simp only [run_nil, Option.some.injEq] at finish; exact finish ▸ start
  | append_singleton is i ih =>
    rw [run_snoc] at finish
    obtain ⟨mid, front, moved⟩ := Option.bind_eq_some_iff.mp finish
    obtain ⟨frontGuarded, lastGuarded⟩ := meets_append.mp guarded
    exact keeps (ih frontGuarded front) (lastGuarded mid front t moved).1 moved

/-- Every state visited by a guarded run satisfies an invariant the guarded steps keep. -/
theorem visits_guarded_invariant {Inv : σ → Prop} {guard : σ → ι → Prop}
    (keeps : ∀ {s i t}, Inv s → guard s i → step s i = some t → Inv t)
    (start : Inv s) (guarded : Meets guard step s is) (visited : Visits step s is t) : Inv t := by
  -- What is visited is the end of a shorter run that meets the guard as well.
  obtain ⟨front, ⟨back, rfl⟩, reached⟩ := visited
  exact run_guarded_invariant keeps start (meets_append.mp guarded).1 reached

/-- What an invariant shows of every step is met by a guarded run that keeps the invariant. -/
theorem meets_of_invariant {Inv : σ → Prop} {guard P : σ → ι → Prop}
    (keeps : ∀ {s i t}, Inv s → guard s i → step s i = some t → Inv t)
    (shows : ∀ {s i t}, Inv s → guard s i → step s i = some t → P s i) (start : Inv s)
    (guarded : Meets guard step s is) : Meets P step s is := by
  -- Each step is judged in a state in which the invariant holds.
  induction is generalizing s with
  | nil => trivial
  | cons i is ih =>
    intro next moved
    obtain ⟨allowed, rest⟩ := guarded next moved
    exact ⟨shows start allowed moved, ih (keeps start allowed moved) rest⟩

/-- What is underway in a guarded run is still underway at its end, or was reached on the way. -/
theorem run_until {Inv Goal : σ → Prop} {guard : σ → ι → Prop}
    (keeps : ∀ {s i t}, Inv s → guard s i → step s i = some t → Goal t ∨ Inv t)
    (start : Inv s) (guarded : Meets guard step s is) (finish : run step s is = some t) :
    (∃ u, Visits step s is u ∧ Goal u) ∨ Inv t := by
  -- Once a step reaches the goal the rest of the run does not matter.
  induction is generalizing s with
  | nil =>
    simp only [run_nil, Option.some.injEq] at finish
    exact .inr (finish ▸ start)
  | cons i is ih =>
    obtain ⟨next, moved, rest⟩ := Option.bind_eq_some_iff.mp finish
    obtain ⟨allowed, guarded⟩ := guarded next moved
    rcases keeps start allowed moved with reached | underway
    · exact .inl ⟨next, visits_cons moved visits_start, reached⟩
    · rcases ih underway guarded rest with ⟨u, visited, reached⟩ | underway
      · exact .inl ⟨u, visits_cons moved visited, reached⟩
      · exact .inr underway

/--
A guard is exact when keeping it preserves the invariant and breaking it shows at once.

The run then stays good throughout if and only if every one of its steps meets the guard.
-/
theorem always_good_iff_meets {Inv Good : σ → Prop} {guard : σ → ι → Prop}
    (keeps : ∀ {s i t}, Inv s → guard s i → step s i = some t → Inv t)
    (good : ∀ {s}, Inv s → Good s)
    (breaks : ∀ {s i t}, Inv s → ¬ guard s i → step s i = some t → ¬ Good t)
    (start : Inv s) : (∀ t, Visits step s is t → Good t) ↔ Meets guard step s is := by
  constructor
  · -- Until the first broken guard the invariant holds, and there the state turns bad.
    intro always
    induction is generalizing s with
    | nil => trivial
    | cons i is ih =>
      intro next moved
      have allowed : guard s i := by
        by_contra refused
        exact breaks start refused moved (always next (visits_cons moved visits_start))
      exact ⟨allowed, ih (keeps start allowed moved)
        fun t visited => always t (visits_cons moved visited)⟩
  · intro guarded t visited
    exact good (visits_guarded_invariant keeps start guarded visited)

/-- An invariant of the inputs so far holds after every front whose steps are allowed. -/
theorem run_front_invariant {Inv : List ι → σ → Prop} {guard : List ι → ι → Prop}
    (keeps : ∀ {is s i t}, Inv is s → guard is i → step s i = some t → Inv (is ++ [i]) t)
    (allowed : ∀ {front i mid t}, front ++ [i] <+: is → run step s front = some mid →
      Inv front mid → step mid i = some t → guard front i)
    (start : Inv [] s) {front : List ι} (isPrefix : front <+: is)
    (finish : run step s front = some t) : Inv front t := by
  -- The front grows at its end, and its last step is allowed after the shorter one.
  induction front using List.reverseRecOn generalizing t with
  | nil => simp only [run_nil, Option.some.injEq] at finish; exact finish ▸ start
  | append_singleton front i ih =>
    rw [run_snoc] at finish
    obtain ⟨mid, reached, moved⟩ := Option.bind_eq_some_iff.mp finish
    have before := ih ((List.prefix_append front [i]).trans isPrefix) reached
    exact keeps before (allowed isPrefix reached before moved) moved

/--
A guard on the inputs so far is exact when keeping it preserves the invariant and breaking it shows.

The run then stays good throughout if and only if every step meets the guard after its history.
-/
theorem always_good_iff_meetsAfter {Inv : List ι → σ → Prop} {Good : σ → Prop}
    {guard : List ι → ι → Prop}
    (keeps : ∀ {is s i t}, Inv is s → guard is i → step s i = some t → Inv (is ++ [i]) t)
    (good : ∀ {is s}, Inv is s → Good s)
    (breaks : ∀ {is s i t}, Inv is s → ¬ guard is i → step s i = some t → ¬ Good t)
    (start : Inv [] s) :
    (∀ t, Visits step s is t → Good t) ↔ MeetsAfter guard step s is := by
  constructor
  · intro always
    -- A step that broke the guard would lead to a bad state, which the run visits.
    have allowed {front : List ι} {i : ι} {mid t : σ} (isPrefix : front ++ [i] <+: is)
        (reached : run step s front = some mid) (inv : Inv front mid)
        (moved : step mid i = some t) : guard front i := by
      by_contra refused
      have ran : run step s (front ++ [i]) = some t := by simp [run_snoc, reached, moved]
      exact breaks inv refused moved (always t ⟨front ++ [i], isPrefix, ran⟩)
    intro front i isPrefix t ran
    obtain ⟨mid, reached, moved⟩ := Option.bind_eq_some_iff.mp (run_snoc ▸ ran)
    have shorter : front <+: is := (List.prefix_append front [i]).trans isPrefix
    exact allowed isPrefix reached (run_front_invariant keeps allowed start shorter reached) moved
  · intro guarded t ⟨front, isPrefix, reached⟩
    refine good (run_front_invariant keeps ?_ start isPrefix reached)
    intro front i mid next longer ran _ moved
    exact guarded front i longer next (by simp [run_snoc, ran, moved])

/-- Two guards that agree wherever the invariant holds are met by the same runs. -/
theorem meets_congr {Inv : σ → Prop} {guard other : σ → ι → Prop}
    (keeps : ∀ {s i t}, Inv s → step s i = some t → Inv t)
    (agree : ∀ {s i}, Inv s → (guard s i ↔ other s i)) (start : Inv s) :
    Meets guard step s is ↔ Meets other step s is := by
  -- Each step is judged in a state in which the invariant holds.
  induction is generalizing s with
  | nil => exact Iff.rfl
  | cons i is ih =>
    refine forall₂_congr fun next moved => ?_
    rw [agree start, ih (keeps start moved)]

/-- A machine that follows each guarded step of another follows its guarded runs. -/
theorem run_simulation {more : Step τ ι} {R : σ → τ → Prop} {guard : σ → ι → Prop} {u : τ}
    (follows : ∀ {s i t u}, R s u → guard s i → step s i = some t →
      ∃ v, more u i = some v ∧ R t v)
    (start : R s u) (guarded : Meets guard step s is) (finish : run step s is = some t) :
    ∃ v, run more u is = some v ∧ R t v := by
  -- The first step leads to related states, from which the rest of the run is followed.
  induction is generalizing s u with
  | nil =>
    obtain rfl := Option.some.inj finish
    exact ⟨u, rfl, start⟩
  | cons i is ih =>
    obtain ⟨next, moved, rest⟩ := Option.bind_eq_some_iff.mp finish
    obtain ⟨allowed, guarded⟩ := guarded next moved
    obtain ⟨beside, along, related⟩ := follows start allowed moved
    obtain ⟨v, ran, last⟩ := ih related guarded rest
    exact ⟨v, by rw [run_cons, along]; exact ran, last⟩

/-- A guard is met by a run exactly if it is met by a run with more in its states. -/
theorem meets_map {more : Step τ ι} {guard : σ → ι → Prop} (forget : τ → σ) {u : τ}
    (simulates : ∀ u i, step (forget u) i = (more u i).map forget) :
    Meets guard step (forget u) is ↔ Meets (fun u i => guard (forget u) i) more u is := by
  -- The two runs go on together, one step after the other.
  induction is generalizing u with
  | nil => exact Iff.rfl
  | cons i is ih =>
    cases moved : more u i with
    | none => simp [Meets, simulates, moved]
    | some next => simp [Meets, simulates, moved, ih]

/-- A run that meets two guards meets both of them at every step. -/
theorem Meets.and {guard other : σ → ι → Prop} (guarded : Meets guard step s is)
    (also : Meets other step s is) : Meets (fun s i => guard s i ∧ other s i) step s is := by
  -- The two guards are met side by side, one step after the other.
  induction is generalizing s with
  | nil => trivial
  | cons i is ih =>
    intro next moved
    obtain ⟨allowed, rest⟩ := guarded next moved
    obtain ⟨allowed', rest'⟩ := also next moved
    exact ⟨⟨allowed, allowed'⟩, ih rest rest'⟩

/-- What all inputs satisfy is met by every run. -/
theorem meets_of_forall {P : ι → Prop} (all : ∀ i ∈ is, P i) :
    Meets (fun _ i => P i) step s is := by
  induction is generalizing s with
  | nil => trivial
  | cons i is ih =>
    exact fun next _ => ⟨all i (by simp), ih fun j member => all j (by simp [member])⟩

/-- What all inputs satisfy can be added to a guard. -/
theorem Meets.and_all {guard : σ → ι → Prop} {P : ι → Prop} (guarded : Meets guard step s is)
    (all : ∀ i ∈ is, P i) : Meets (fun s i => guard s i ∧ P i) step s is := by
  -- The inputs of the rest of a run are among those of the whole.
  induction is generalizing s with
  | nil => trivial
  | cons i is ih =>
    intro next moved
    obtain ⟨allowed, rest⟩ := guarded next moved
    exact ⟨⟨allowed, all i (by simp)⟩, ih rest fun j member => all j (by simp [member])⟩

end Runs

section Loops

variable {step : Step σ Unit} {s t u : σ} {rounds : List Unit}

/-- A loop takes its rounds up to a state from which there is no other one. -/
def Ends (step : Step σ Unit) (s : σ) (rounds : List Unit) (t : σ) : Prop :=
  run step s rounds = some t ∧ step t () = none

/-- A loop without a first round ends where it starts. -/
theorem ends_of_none (stops : step s () = none) : Ends step s [] s := ⟨rfl, stops⟩

/-- A first round comes before those of the rest of the loop. -/
theorem Ends.cons (moved : step s () = some t) (rest : Ends step t rounds u) :
    Ends step s (() :: rounds) u :=
  ⟨by rw [run_cons, moved]; exact rest.1, rest.2⟩

end Loops

section Reachability

variable {init : σ → Prop} {step : Step σ ι} {t : σ}

/-- An invariant of the initial states that every step keeps holds in every reachable state. -/
theorem Reachable.invariant {Inv : σ → Prop} (reached : Reachable init step t)
    (starts : ∀ {s}, init s → Inv s)
    (keeps : ∀ {s i t}, Inv s → step s i = some t → Inv t) : Inv t := by
  obtain ⟨first, inputs, initial, ran⟩ := reached
  exact run_invariant keeps (starts initial) ran

/-- One more step from a reachable state leads to a reachable state. -/
theorem Reachable.snoc {s : σ} {i : ι} (reached : Reachable init step s)
    (moved : step s i = some t) : Reachable init step t := by
  obtain ⟨first, inputs, initial, ran⟩ := reached
  exact ⟨first, inputs ++ [i], initial, by simp [run_snoc, ran, moved]⟩

end Reachability

end Transition
