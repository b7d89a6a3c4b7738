import Mathlib.Algebra.Group.Nat.Defs
import Mathlib.Data.List.DropRight
import Mathlib.Tactic.Common

/-! Strings of the standard library, whose positions are sizes of 32 bits. -/

namespace EasyEvse.Text

/-- The type of sizes and positions. -/
abbrev SizeT := UInt32

/-- The largest size, which is no position of any string. -/
def npos : SizeT := -1

/-- A position that was looked for. -/
def positionOf : Option ℕ → SizeT
  | some i => .ofNat i
  | none => npos

/-- The exception for a position behind the end of a string. -/
inductive OutOfRange
  | outOfRange
  deriving DecidableEq, Repr

/-- A string, which is always shorter than the largest size. -/
@[ext] structure StdString (α : Type*) where
  chars : List α
  fits : chars.length < npos.toNat
  deriving DecidableEq

namespace StdString

variable {α : Type*} (s : StdString α)

/-- A shorter string made from another one. -/
def shorten (chars : List α) (shorter : chars.length ≤ s.chars.length) : StdString α :=
  ⟨chars, shorter.trans_lt s.fits⟩

/-- Whether the string has no characters. -/
def empty : Bool :=
  s.chars.isEmpty

/-- The characters from a position on, at most as many as asked for. -/
def substr (pos count : SizeT) : Except OutOfRange (StdString α) :=
  if s.chars.length < pos.toNat then .error .outOfRange
  else .ok (s.shorten ((s.chars.drop pos.toNat).take count.toNat) (by
    rw [List.length_take, List.length_drop]
    omega))

/-- Without the characters from a position on, at most as many as asked for. -/
def erase (pos count : SizeT) : Except OutOfRange (StdString α) :=
  if s.chars.length < pos.toNat then .error .outOfRange
  else .ok (s.shorten (s.chars.take pos.toNat ++ s.chars.drop (pos.toNat + count.toNat))
    (by
      rw [List.length_append, List.length_take, List.length_drop]
      omega))

/-- A part that starts in the string is copied. -/
theorem substr_eq {pos : SizeT} (inside : pos.toNat ≤ s.chars.length) (count : SizeT) :
    ∃ part, s.substr pos count = .ok part ∧
      part.chars = (s.chars.drop pos.toNat).take count.toNat :=
  ⟨_, if_neg (not_lt.mpr inside), rfl⟩

/-- A part that starts in the string is erased. -/
theorem erase_eq {pos : SizeT} (inside : pos.toNat ≤ s.chars.length) (count : SizeT) :
    ∃ rest, s.erase pos count = .ok rest ∧
      rest.chars = s.chars.take pos.toNat ++ s.chars.drop (pos.toNat + count.toNat) :=
  ⟨_, if_neg (not_lt.mpr inside), rfl⟩

/-- One more than the length of a string is a size as well. -/
theorem length_succ_lt : s.chars.length + 1 < 2 ^ 32 := by
  have fits := s.fits
  have largest : npos.toNat = 2 ^ 32 - 1 := rfl
  omega

/-- As many characters as no string has are all that are left. -/
theorem drop_npos (pos : ℕ) : s.chars.drop (pos + npos.toNat) = [] :=
  List.drop_eq_nil_of_le (s.fits.le.trans (Nat.le_add_left _ _))

/-- A part without a bound ends with the string. -/
theorem substr_npos {pos : SizeT} (inside : pos.toNat ≤ s.chars.length) :
    ∃ part, s.substr pos npos = .ok part ∧ part.chars = s.chars.drop pos.toNat := by
  obtain ⟨part, copied, chars⟩ := s.substr_eq inside npos
  refine ⟨part, copied, chars.trans (List.take_of_length_le ?_)⟩
  rw [List.length_drop]
  exact (Nat.sub_le _ _).trans s.fits.le

/-- A position in a string is the same number as a size. -/
theorem toNat_ofNat {i : ℕ} (inside : i ≤ s.chars.length) : (UInt32.ofNat i).toNat = i := by
  have short := s.length_succ_lt
  rw [UInt32.toNat_ofNat']
  exact Nat.mod_eq_of_lt (by omega)

section Find

variable [DecidableEq α]

/-- The first position of a character, from a position on. -/
def find (c : α) (pos : SizeT) : SizeT :=
  positionOf (((s.chars.drop pos.toNat).findIdx? (· = c)).map (pos.toNat + ·))

/-- The first position of a character other than those of a set. -/
def findFirstNotOf (set : List α) : SizeT :=
  positionOf (s.chars.findIdx? (· ∉ set))

/-- The last position of a character other than those of a set. -/
def findLastNotOf (set : List α) : SizeT :=
  positionOf ((s.chars.reverse.findIdx? (· ∉ set)).map (s.chars.length - 1 - ·))

/-- What is found is the first of its kind, and what is not found is not there. -/
theorem find_cases (c : α) (pos : SizeT) :
    (s.find c pos = npos ∧ c ∉ s.chars.drop pos.toNat) ∨ s.find c pos ≠ npos ∧
      ∃ front rest, s.chars.drop pos.toNat = front ++ c :: rest ∧ c ∉ front ∧
        (s.find c pos).toNat = pos.toNat + front.length := by
  cases found : (s.chars.drop pos.toNat).findIdx? (· = c) with
  | none =>
    -- The largest size stands for no position.
    rw [List.findIdx?_eq_none_iff] at found
    refine .inl ⟨?_, fun among => by simpa using found c among⟩
    rw [find, List.findIdx?_eq_none_iff.mpr found]
    rfl
  | some i =>
    -- The text is cut at the character, with what was passed over in front of it.
    obtain ⟨inside, here, before⟩ := List.findIdx?_eq_some_iff_getElem.mp found
    have here := of_decide_eq_true here
    have position : (s.find c pos).toNat = pos.toNat + i := by
      rw [find, found]
      rw [List.length_drop] at inside
      exact s.toNat_ofNat (by change pos.toNat + i ≤ _; omega)
    refine .inr ⟨fun none => ?_, (s.chars.drop pos.toNat).take i,
      (s.chars.drop pos.toNat).drop (i + 1), ?_, ?_, ?_⟩
    · -- A position in the string is no largest size.
      have fits := s.fits
      rw [List.length_drop] at inside
      rw [none] at position
      omega
    · rw [← here, List.getElem_cons_drop, List.take_append_drop]
    · rw [List.mem_take_iff_getElem]
      rintro ⟨j, earlier, same⟩
      exact before j (by omega) (decide_eq_true same)
    · rw [List.length_take_of_le inside.le, position]

/-- What is found is in the string, at the position or behind it. -/
theorem find_inside {c : α} {pos : SizeT} (found : s.find c pos ≠ npos) :
    pos.toNat ≤ (s.find c pos).toNat ∧ (s.find c pos).toNat < s.chars.length := by
  rcases s.find_cases c pos with ⟨missing, -⟩ | ⟨-, front, rest, parts, -, position⟩
  · exact absurd missing found
  · have lengths := congrArg List.length parts
    rw [List.length_drop, List.length_append, List.length_cons] at lengths
    omega

/-- The position behind one that is found does not wrap around. -/
theorem find_succ {c : α} {pos : SizeT} (found : s.find c pos ≠ npos) :
    (s.find c pos + 1).toNat = (s.find c pos).toNat + 1 := by
  have inside := (s.find_inside found).2
  have short := s.length_succ_lt
  rw [UInt32.toNat_add]
  exact Nat.mod_eq_of_lt (by change (s.find c pos).toNat + 1 < 2 ^ 32; omega)

/-- What is in front of the next one is cut out, and the rest starts behind that one. -/
theorem substr_find {c : α} {pos : SizeT} (found : s.find c pos ≠ npos) :
    ∃ front, s.substr pos (s.find c pos - pos) = .ok front ∧ c ∉ front.chars ∧
      s.chars.drop pos.toNat = front.chars ++ c :: s.chars.drop (s.find c pos + 1).toNat := by
  obtain ⟨behind, inside⟩ := s.find_inside found
  rcases s.find_cases c pos with ⟨missing, -⟩ | ⟨-, front, rest, parts, first, position⟩
  · exact absurd missing found
  · obtain ⟨item, copied, chars⟩ := s.substr_eq (behind.trans inside.le) (s.find c pos - pos)
    have width : (s.find c pos - pos).toNat = front.length := by
      rw [UInt32.toNat_sub_of_le _ _ (UInt32.le_iff_toNat_le.mpr behind)]
      omega
    have cut : item.chars = front := by
      rw [chars, parts, width, List.take_left]
    -- The rest is what is left without the front and without the character itself.
    have after : s.chars.drop (s.find c pos + 1).toNat = rest := by
      rw [s.find_succ found, position, Nat.add_assoc, ← List.drop_drop, parts, ← List.drop_drop,
        List.drop_left, List.drop_one, List.tail_cons]
    exact ⟨item, copied, cut ▸ first, by rw [after, cut, parts]⟩

/-- What is not found is not there. -/
theorem not_mem_of_find {c : α} {pos : SizeT} (missing : s.find c pos = npos) :
    c ∉ s.chars.drop pos.toNat := by
  rcases s.find_cases c pos with ⟨-, none⟩ | ⟨found, -⟩
  · exact none
  · exact absurd missing found

/-- Without a position in front, all characters are of the set. -/
private theorem dropWhile_of_none {chars set : List α} (found : chars.findIdx? (· ∉ set) = none) :
    chars.dropWhile (· ∈ set) = [] := by
  rw [List.findIdx?_eq_none_iff] at found
  exact List.dropWhile_eq_nil_iff.mpr fun c among => by simpa using found c among

/-- The characters in front of the first position are those of the set. -/
private theorem dropWhile_of_some {chars set : List α} {i : ℕ}
    (found : chars.findIdx? (· ∉ set) = some i) : chars.dropWhile (· ∈ set) = chars.drop i := by
  have first := (List.findIdx?_eq_some_iff_findIdx_eq.mp found).2
  simp_rw [decide_not] at first
  rw [List.dropWhile_eq_drop_findIdx_not, first]

/-- Erasing up to the first other character drops those of the set in front. -/
theorem erase_findFirstNotOf (set : List α) :
    ∃ rest, s.erase 0 (s.findFirstNotOf set) = .ok rest ∧
      rest.chars = s.chars.dropWhile (· ∈ set) := by
  have start : (0 : SizeT).toNat ≤ s.chars.length := Nat.zero_le _
  obtain ⟨rest, erased, chars⟩ := s.erase_eq start (s.findFirstNotOf set)
  refine ⟨rest, erased, chars.trans ?_⟩
  change s.chars.drop (0 + _) = _
  cases found : s.chars.findIdx? (· ∉ set) with
  | none =>
    -- No position is the largest count, with which the whole string is erased.
    rw [findFirstNotOf, found, positionOf, drop_npos, dropWhile_of_none found]
  | some i =>
    have inside := (List.findIdx?_eq_some_iff_getElem.mp found).1
    rw [findFirstNotOf, found, positionOf, s.toNat_ofNat inside.le, Nat.zero_add,
      dropWhile_of_some found]

/-- Erasing behind the last other character drops those of the set at the end. -/
theorem erase_findLastNotOf (set : List α) :
    ∃ rest, s.erase (s.findLastNotOf set + 1) npos = .ok rest ∧
      rest.chars = s.chars.rdropWhile (· ∈ set) := by
  cases found : s.chars.reverse.findIdx? (· ∉ set) with
  | none =>
    -- The position behind none is the first one, from which the whole string is erased.
    have first : s.findLastNotOf set + 1 = 0 := by
      rw [findLastNotOf, found, Option.map_none]
      decide
    have start : (0 : SizeT).toNat ≤ s.chars.length := Nat.zero_le _
    obtain ⟨rest, erased, chars⟩ := s.erase_eq start npos
    rw [first]
    refine ⟨rest, erased, chars.trans ?_⟩
    rw [drop_npos, List.append_nil, List.rdropWhile, dropWhile_of_none found]
    rfl
  | some i =>
    have inside := (List.findIdx?_eq_some_iff_getElem.mp found).1
    rw [List.length_reverse] at inside
    -- Behind the character are as many as stand in front of it in the reversed string.
    have behind : (s.findLastNotOf set + 1).toNat = s.chars.length - i := by
      rw [findLastNotOf, found, Option.map_some, positionOf, UInt32.toNat_add,
        s.toNat_ofNat (by omega)]
      have short := s.length_succ_lt
      have one : (1 : SizeT).toNat = 1 := rfl
      rw [one, Nat.mod_eq_of_lt (by omega)]
      omega
    obtain ⟨rest, erased, chars⟩ := s.erase_eq (behind.trans_le (Nat.sub_le _ _)) npos
    refine ⟨rest, erased, chars.trans ?_⟩
    rw [drop_npos, List.append_nil, behind, List.rdropWhile, dropWhile_of_some found,
      List.reverse_drop, List.reverse_reverse, List.length_reverse]

end Find

end StdString

end EasyEvse.Text
