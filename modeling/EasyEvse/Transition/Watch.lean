import Mathlib.Data.List.Chain

/-! A listener that is told of the changes of a value, from a copy of what it was told last. -/

namespace Transition

/-- What a listener was told last, and everything it was told. -/
structure Watch (α : Type*) where
  cached : α
  /-- The oldest comes first. -/
  told : List α := []
  deriving DecidableEq, Repr

namespace Watch

variable {α : Type*} {onlyIfChanged delivered : Bool} {first current : α} {w : Watch α}

/-- What the listener takes the value to be, if it took it to be `first` in the beginning. -/
def heard (first : α) (w : Watch α) : α := w.told.getLastD first

/-- What is remembered is what the listener heard last. -/
def Honest (first : α) (w : Watch α) : Prop := w.cached = w.heard first

/-- What is remembered was told last, so that the listener was told something. -/
def Latest (w : Watch α) : Prop := w.told.getLast? = some w.cached

/-- The listener is never told what it was told last. -/
def NoRepeat (w : Watch α) : Prop := w.told.IsChain (· ≠ ·)

/-- What is told last is heard. -/
@[simp] theorem heard_append (told : List α) :
    heard first { cached := current, told := told ++ [current] } = current := by
  simp [heard]

variable [DecidableEq α]

/-- Tell the listener the current value, where it may be that it cannot be reached. -/
def refresh (onlyIfChanged delivered : Bool) (current : α) (w : Watch α) : Watch α :=
  -- A value that was not delivered is not remembered, so that it is told another time.
  if (!onlyIfChanged || w.cached ≠ current) && delivered then
    { cached := current, told := w.told ++ [current] }
  else w

/-- A listener that can be reached knows the current value. -/
@[simp] theorem refresh_cached : (w.refresh onlyIfChanged true current).cached = current := by
  unfold refresh
  split
  · rfl
  · -- Nothing was told, because what is remembered is the current value.
    simp_all

/-- A listener that cannot be reached is told nothing. -/
@[simp] theorem refresh_undelivered : w.refresh onlyIfChanged false current = w := by
  simp [refresh]

/-- What is remembered stays what was heard. -/
theorem Honest.refresh (honest : w.Honest first) :
    (w.refresh onlyIfChanged delivered current).Honest first := by
  unfold Watch.refresh
  split
  · exact (heard_append w.told).symm
  · exact honest

/-- What is told is remembered, and otherwise nothing changes. -/
theorem Latest.refresh (latest : w.Latest) :
    (w.refresh onlyIfChanged delivered current).Latest := by
  unfold Watch.refresh
  split
  · exact List.getLast?_concat
  · exact latest

/-- Telling changes only tells nothing twice in a row. -/
theorem NoRepeat.refresh (latest : w.Latest) (distinct : w.NoRepeat) :
    (w.refresh true delivered current).NoRepeat := by
  unfold Watch.refresh
  split
  · rename_i changed
    refine List.isChain_append.mpr ⟨distinct, List.isChain_singleton _, ?_⟩
    intro last isLast next isNext
    -- What was told last is what is remembered, which the new value differs from.
    have same : w.cached = last := Option.some.inj (latest.symm.trans isLast)
    simp_all
  · exact distinct

end Watch

end Transition
