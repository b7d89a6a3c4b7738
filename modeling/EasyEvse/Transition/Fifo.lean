import Mathlib.Data.List.Basic

/-! A line that is served from its front, with what is taken given back, and that may be thinned. -/

namespace Transition

variable {α : Type*}

/-- What is settled, what was taken from the front of the line, and what waits in it. -/
structure Fifo (α : Type*) where
  settled : List α
  taken : Option α
  waiting : List α

namespace Fifo

/-- Everything there is, from the oldest on. -/
def line (q : Fifo α) : List α := q.settled ++ (q.taken.toList ++ q.waiting)

/-- Moves with what arrives by them. What is spared is never thinned out. -/
inductive Moves (spared : α → Bool) : Fifo α → List α → Fifo α → Prop
  | refl (q : Fifo α) : Moves spared q [] q
  | arrive (q : Fifo α) (a : α) : Moves spared q [a] { q with waiting := q.waiting ++ [a] }
  | take (settled : List α) (a : α) (waiting : List α) :
    Moves spared ⟨settled, none, a :: waiting⟩ [] ⟨settled, some a, waiting⟩
  | giveBack (settled : List α) (a : α) (waiting : List α) :
    Moves spared ⟨settled, some a, waiting⟩ [] ⟨settled, none, a :: waiting⟩
  | settle (settled : List α) (a : α) (waiting : List α) :
    Moves spared ⟨settled, some a, waiting⟩ [] ⟨settled ++ [a], none, waiting⟩
  | thin (q : Fifo α) {fewer : List α} (sublist : fewer.Sublist q.waiting)
      (same : fewer.filter spared = q.waiting.filter spared) :
    Moves spared q [] { q with waiting := fewer }
  | trans {p q r : Fifo α} {arrived later : List α} (first : Moves spared p arrived q)
      (second : Moves spared q later r) : Moves spared p (arrived ++ later) r

/-- What arrived is in line in its order, and nothing that is spared is missing. -/
structure Accounts (spared : α → Bool) (arrived : List α) (q : Fifo α) : Prop where
  sublist : q.line.Sublist arrived
  same : q.line.filter spared = arrived.filter spared

variable {spared : α → Bool} {p q : Fifo α} {arrived before : List α}

/-- Nothing has arrived yet, and nothing is there. -/
theorem Accounts.start : Accounts spared [] ⟨[], none, []⟩ := ⟨.slnil, rfl⟩

/-- Moves that keep everything in line account for what arrived. -/
theorem Accounts.of_line (accounts : Accounts spared before p) (same : q.line = p.line) :
    Accounts spared before q :=
  ⟨same ▸ accounts.sublist, same ▸ accounts.same⟩

/-- After any moves everything that arrived is accounted for, in its order. -/
theorem Moves.accounts (moves : Moves spared p arrived q) (accounts : Accounts spared before p) :
    Accounts spared (before ++ arrived) q := by
  -- Only an arrival and the thinning change what is in line.
  induction moves generalizing before with
  | refl q => rwa [List.append_nil]
  | arrive q a =>
    have longer : line { q with waiting := q.waiting ++ [a] } = q.line ++ [a] := by
      simp only [line, List.append_assoc]
    refine ⟨longer ▸ accounts.sublist.append (.refl [a]), ?_⟩
    rw [longer, List.filter_append, accounts.same, List.filter_append]
  | take settled a waiting | giveBack settled a waiting =>
    rw [List.append_nil]
    exact accounts.of_line rfl
  | settle settled a waiting =>
    rw [List.append_nil]
    exact accounts.of_line (by simp [line])
  | thin q sublist same =>
    rw [List.append_nil]
    refine ⟨?_, ?_⟩
    · exact (List.Sublist.append (.refl q.settled)
        (List.Sublist.append (.refl q.taken.toList) sublist)).trans accounts.sublist
    · rw [← accounts.same, line, line, List.filter_append, List.filter_append, same,
        ← List.filter_append, ← List.filter_append]
  | trans first second ihFirst ihSecond =>
    rw [← List.append_assoc]
    exact ihSecond (ihFirst accounts)

end Fifo

end Transition
