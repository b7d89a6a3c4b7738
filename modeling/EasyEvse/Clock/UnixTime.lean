import Mathlib.Algebra.Group.Nat.Defs
import Mathlib.Data.List.Chain

/-! The Unix time of the station, which is kept as a base for the ticks since boot. -/

namespace EasyEvse.Clock

def configTickRateHz : UInt32 := 1000

def portTickPeriodMs : UInt32 := 1000 / configTickRateHz

/-- The tick counter at a time since boot in milliseconds. It starts over when it is full. -/
def tickCount (time : ℕ) : UInt32 := UInt32.ofNat time

def getMsSinceBoot (ticks : UInt32) : UInt32 := ticks * (1000 / configTickRateHz)

def getSecondsSinceBoot (ticks : UInt32) : UInt32 := getMsSinceBoot ticks / 1000

/-- Set the Unix time, which leaves a base without the seconds since boot. -/
def setUnixTime (sec ticks : UInt32) : UInt32 := sec - getSecondsSinceBoot ticks

/-- The Unix time, for which the seconds since boot are added to the base. -/
def getUnixTime (unixTimeBase ticks : UInt32) : UInt32 := unixTimeBase + getSecondsSinceBoot ticks

section Running

variable {sec base ticks : UInt32} {set now : ℕ}

/-- The seconds since boot are the whole seconds that the counter shows. -/
@[simp] theorem getSecondsSinceBoot_toNat :
    (getSecondsSinceBoot ticks).toNat = ticks.toNat / 1000 := by
  simp [getSecondsSinceBoot, getMsSinceBoot, configTickRateHz]

/-- The Unix time that was set at one time runs on until another time. -/
def RunsOn (sec : UInt32) (set now : ℕ) : Prop :=
  getUnixTime (setUnixTime sec (tickCount set)) (tickCount now) =
    UInt32.ofNat (sec.toNat + now / 1000 - set / 1000)

instance : Decidable (RunsOn sec set now) := inferInstanceAs (Decidable (_ = _))

/-- How far the seconds of the counter lag behind, in milliseconds. A round has 296 too many. -/
def lag (time : ℕ) : ℕ := time / 2 ^ 32 * 296 % 1000

/--
The counter shows as many seconds between two times as there are.

It came round a multiple of a thousand times in between, and either both times fall into the part of
a second by which the counter lags, or none of them does.
-/
def InPhase (set now : ℕ) : Prop :=
  now / 2 ^ 32 % 1000 = set / 2 ^ 32 % 1000 ∧ (now % 1000 < lag now ↔ set % 1000 < lag set)

instance : Decidable (InPhase set now) := inferInstanceAs (Decidable (_ ∧ _))

/-- The seconds that went by with the rounds of the counter, without a part of a second. -/
def roundSeconds (rounds : ℕ) : ℕ := rounds * 2 ^ 32 / 1000

/-- The counter does not show the seconds of its rounds, and one more before its lag is over. -/
theorem seconds_split (time : ℕ) : time / 1000 = time % 2 ^ 32 / 1000 +
    (roundSeconds (time / 2 ^ 32) + if time % 1000 < lag time then 1 else 0) := by
  unfold lag roundSeconds
  -- A second that is cut off by a round of the counter begins before the lag is over.
  split_ifs <;> omega

/-- A thousand rounds take whole seconds, as many as a counter of seconds can show. -/
theorem roundSeconds_thousand (rounds : ℕ) :
    roundSeconds rounds = 2 ^ 32 * (rounds / 1000) + roundSeconds (rounds % 1000) := by
  have split : rounds * 2 ^ 32 = rounds % 1000 * 2 ^ 32 + 2 ^ 32 * (rounds / 1000) * 1000 := by
    omega
  rw [roundSeconds, split, Nat.add_mul_div_right _ _ (by omega), roundSeconds, Nat.add_comm]

/-- More rounds take more seconds. -/
theorem roundSeconds_lt {rounds other : ℕ} (fewer : rounds < other) :
    roundSeconds rounds + 1 < roundSeconds other := by
  unfold roundSeconds
  omega

/-- Fewer rounds than a thousand take fewer seconds than a counter of seconds can show. -/
theorem roundSeconds_small {rounds : ℕ} (few : rounds < 1000) :
    roundSeconds rounds + 1 < 2 ^ 32 := roundSeconds_lt few

/-- The seconds of two numbers of rounds agree exactly if the rounds do, up to a thousand. -/
theorem roundSeconds_congr {rounds other carry carry' : ℕ} (one : carry ≤ 1) (one' : carry' ≤ 1) :
    (roundSeconds rounds + carry) % 2 ^ 32 = (roundSeconds other + carry') % 2 ^ 32 ↔
      rounds % 1000 = other % 1000 ∧ carry = carry' := by
  have small := roundSeconds_small (Nat.mod_lt rounds (by omega : 1000 > 0))
  have small' := roundSeconds_small (Nat.mod_lt other (by omega : 1000 > 0))
  rw [roundSeconds_thousand rounds, roundSeconds_thousand other]
  constructor
  · -- Different rounds are more than a second apart, which no carry makes up for.
    intro same
    rcases Nat.lt_trichotomy (rounds % 1000) (other % 1000) with fewer | equal | more
    · have apart := roundSeconds_lt fewer
      omega
    · exact ⟨equal, by rw [equal] at same; omega⟩
    · have apart := roundSeconds_lt more
      omega
  · rintro ⟨equal, rfl⟩
    rw [equal]
    omega

/-- The Unix time runs on exactly if both times leave out the same seconds. -/
theorem runsOn_iff_congr (later : set ≤ now) : RunsOn sec set now ↔
    (now / 1000 - now % 2 ^ 32 / 1000) % 2 ^ 32 = (set / 1000 - set % 2 ^ 32 / 1000) % 2 ^ 32 := by
  have seconds : set / 1000 ≤ now / 1000 := by omega
  have size := sec.toNat_lt
  unfold RunsOn getUnixTime setUnixTime tickCount
  -- The second that was set is on both sides, whatever it is, and cancels.
  rw [← UInt32.toNat_inj]
  simp only [UInt32.toNat_add, UInt32.toNat_sub, getSecondsSinceBoot_toNat, UInt32.toNat_ofNat']
  omega

/-- The Unix time runs on from one time to another exactly if the counter is in phase. -/
theorem runs_on_iff (sec : UInt32) (set now : ℕ) (later : set ≤ now) :
    RunsOn sec set now ↔ InPhase set now := by
  have split := seconds_split now
  have split' := seconds_split set
  rw [runsOn_iff_congr later, Nat.sub_eq_of_eq_add' split, Nat.sub_eq_of_eq_add' split',
    roundSeconds_congr (by split_ifs <;> omega) (by split_ifs <;> omega), InPhase]
  refine and_congr_right fun _ => ?_
  -- What is left of the carries is whether both are there.
  by_cases before : now % 1000 < lag now <;> simp [before, eq_comm]

/-- A time that is set at the start of the station, and read before the counter starts over. -/
theorem runs_on_iff_first : 0 ≤ 2 ^ 32 - 1 ∧ RunsOn 1704067200 0 (2 ^ 32 - 1) :=
  ⟨by decide, (runs_on_iff 1704067200 0 (2 ^ 32 - 1) (by decide)).mpr (by decide)⟩

/-- As the counter starts over, the Unix time jumps back to what was set at the start. -/
theorem runs_on_jumps : ¬ ∀ (sec : UInt32) (set now : ℕ), set ≤ now → RunsOn sec set now := by
  intro always
  have jumps : ¬ RunsOn 1704067200 0 (2 ^ 32) := by decide
  exact jumps (always 1704067200 0 (2 ^ 32) (by decide))

end Running

/-- What a program is told when it asks for the time of day. -/
structure Timeval where
  tvSec : ℕ
  tvUsec : ℕ
  deriving DecidableEq, Repr

/-- One time of day is not after another. -/
def Timeval.le (tv other : Timeval) : Prop :=
  tv.tvSec < other.tvSec ∨ tv.tvSec = other.tvSec ∧ tv.tvUsec ≤ other.tvUsec

instance : DecidableRel Timeval.le := fun _ _ => inferInstanceAs (Decidable (_ ∨ _))

/-- The two readings of the counter that one call makes. Time may pass between them. -/
structure Readings where
  ticks : UInt32
  unixTicks : UInt32
  deriving DecidableEq, Repr

/-- The time of day. The fraction of the second is read before the second. -/
def gettimeofday (unixTimeBase : UInt32) (readings : Readings) : Timeval :=
  let msSinceBoot := readings.ticks.toUInt64 * portTickPeriodMs.toUInt64
  { tvSec := (getUnixTime unixTimeBase readings.unixTicks).toNat
    tvUsec := (msSinceBoot % 1000 * 1000).toNat }

/-- The readings of successive calls, none of which is before an earlier one. -/
def Ordered (calls : List Readings) : Prop :=
  (calls.flatMap fun readings => [readings.ticks, readings.unixTicks]).Pairwise (· ≤ ·)

instance : DecidablePred Ordered := fun _ => inferInstanceAs (Decidable (List.Pairwise _ _))

/--
A second call is not told a time before that of the first.

The first call may see a new second begin between its readings, as long as the second call does not
end in this second before the fraction comes round. And the Unix time must not start over.
-/
def InOrder (unixTimeBase : UInt32) (first second : Readings) : Prop :=
  ¬ (first.ticks.toNat / 1000 < first.unixTicks.toNat / 1000 ∧
      first.unixTicks.toNat / 1000 = second.unixTicks.toNat / 1000 ∧
      second.ticks.toNat % 1000 < first.ticks.toNat % 1000) ∧
    (unixTimeBase.toNat + first.unixTicks.toNat / 1000) / 2 ^ 32 =
      (unixTimeBase.toNat + second.unixTicks.toNat / 1000) / 2 ^ 32

instance (base : UInt32) : DecidableRel (InOrder base) := fun _ _ =>
  inferInstanceAs (Decidable (_ ∧ _))

section Monotone

variable {base : UInt32} {first second : Readings} {calls : List Readings} {a b c : Timeval}

theorem Timeval.le_trans (before : a.le b) (after : b.le c) : a.le c := by
  unfold Timeval.le at *
  omega

/-- The fraction of a second that is told is that of the first reading. -/
theorem gettimeofday_tvUsec :
    (gettimeofday base first).tvUsec = first.ticks.toNat % 1000 * 1000 := by
  have size := first.ticks.toNat_lt
  simp [gettimeofday, portTickPeriodMs, configTickRateHz]
  -- A tick takes a millisecond, and their number fits into the type of the product.
  omega

/-- The second that is told is that of the second reading, unless the Unix time starts over. -/
theorem gettimeofday_tvSec : (gettimeofday base first).tvSec =
    (base.toNat + first.unixTicks.toNat / 1000) % 2 ^ 32 := by
  simp [gettimeofday, getUnixTime]

/-- Two successive calls are told times in order exactly under the stated condition. -/
theorem le_iff_inOrder (reads : first.ticks ≤ first.unixTicks)
    (next : first.unixTicks ≤ second.ticks) (reads' : second.ticks ≤ second.unixTicks) :
    (gettimeofday base first).le (gettimeofday base second) ↔ InOrder base first second := by
  have size := second.unixTicks.toNat_lt
  rw [UInt32.le_iff_toNat_le] at reads next reads'
  rw [Timeval.le, gettimeofday_tvSec, gettimeofday_tvSec, gettimeofday_tvUsec, gettimeofday_tvUsec,
    InOrder]
  omega

/-- The two readings of the first call come before those of the next one, and so on. -/
theorem Ordered.cons (ordered : Ordered (first :: second :: calls)) :
    first.ticks ≤ first.unixTicks ∧ first.unixTicks ≤ second.ticks ∧
      second.ticks ≤ second.unixTicks ∧ Ordered (second :: calls) := by
  simp only [Ordered, List.flatMap_cons, List.cons_append, List.nil_append,
    List.pairwise_cons] at ordered ⊢
  -- Each reading is compared with all that come later, of which the next one is enough.
  obtain ⟨fromFirst, fromSecond, rest⟩ := ordered
  exact ⟨fromFirst _ (by simp), fromSecond _ (by simp), rest.1 _ (by simp), rest⟩

instance : Trans Timeval.le Timeval.le Timeval.le := ⟨Timeval.le_trans⟩

/-- Successive calls are told times in order exactly if each two that follow each other are. -/
theorem told_in_order_iff (base : UInt32) (calls : List Readings) (ordered : Ordered calls) :
    (calls.map (gettimeofday base)).Pairwise Timeval.le ↔ calls.IsChain (InOrder base) := by
  rw [← List.isChain_iff_pairwise, List.isChain_map]
  -- The first call is compared with the second, and the others are left to the induction.
  induction calls with
  | nil => simp
  | cons first calls ih =>
    cases calls with
    | nil => simp
    | cons second calls =>
      obtain ⟨reads, next, reads', rest⟩ := ordered.cons
      rw [List.isChain_cons_cons, List.isChain_cons_cons, ih rest, le_iff_inOrder reads next reads']

/-- A call that sees a new second begin is followed by one that ends in a later second. -/
theorem told_in_order_iff_across : Ordered [⟨1999, 2000⟩, ⟨2998, 3000⟩] ∧
    ([⟨1999, 2000⟩, ⟨2998, 3000⟩].map (gettimeofday 1704067200)).Pairwise Timeval.le :=
  ⟨by decide, (told_in_order_iff 1704067200 _ (by decide)).mpr (by simp; decide)⟩

/-- A call that sees a new second begin is told the fraction of the old one with it. -/
theorem told_out_of_order : ¬ ∀ (base : UInt32) (calls : List Readings), Ordered calls →
    (calls.map (gettimeofday base)).Pairwise Timeval.le := by
  intro always
  have fails : ¬ ([⟨1999, 2000⟩, ⟨2001, 2001⟩].map (gettimeofday 1704067200)).Pairwise
      Timeval.le := by decide
  exact fails (always 1704067200 [⟨1999, 2000⟩, ⟨2001, 2001⟩] (by decide))

end Monotone

end EasyEvse.Clock
