import EasyEvse.Text.StdString
import EasyEvse.Text.Tokens

/-! The points at which a transaction starts or stops, read from the text of a variable. -/

namespace EasyEvse.Ocpp

open Text

/-- The character between two points. -/
def comma : UInt8 :=
  ','.toUInt8

/-- The characters that are trimmed. -/
def blanks : List UInt8 :=
  [' '.toUInt8, '\t'.toUInt8]

/-- One item, trimmed in front and then behind. -/
def trimWhitespace (item : StdString UInt8) : Except OutOfRange (StdString UInt8) := do
  let item ← item.erase 0 (item.findFirstNotOf blanks)
  item.erase (item.findLastNotOf blanks + 1) npos

/-- An item is added to the points unless nothing is left of it. -/
def pushItem (points : List (StdString UInt8)) (item : StdString UInt8) :
    List (StdString UInt8) :=
  if item.empty then points else points ++ [item]

/-- Trimming never fails, and drops the blanks at both ends. -/
theorem trimWhitespace_eq (item : StdString UInt8) :
    ∃ trimmed, trimWhitespace item = .ok trimmed ∧
      trimmed.chars = trim (· ∈ blanks) item.chars := by
  -- What is left of the first erasure is what the second one starts from.
  obtain ⟨middle, front, dropped⟩ := item.erase_findFirstNotOf blanks
  obtain ⟨trimmed, back, rest⟩ := middle.erase_findLastNotOf blanks
  refine ⟨trimmed, ?_, by rw [rest, dropped, trim]⟩
  rw [trimWhitespace, front]
  exact back

/-- What is added of an item is its token, if it has one. -/
theorem pushItem_chars {item trimmed : StdString UInt8}
    (trims : trimmed.chars = trim (· ∈ blanks) item.chars) (points : List (StdString UInt8)) :
    (pushItem points trimmed).map (·.chars) =
      points.map (·.chars) ++ token? (· ∈ blanks) item.chars := by
  -- An item of blanks alone is trimmed to nothing, and is not added.
  rw [pushItem, StdString.empty, token?, ← trims]
  by_cases none : trimmed.chars = []
  · simp [none]
  · simp [none]

section Loop

variable (pointList : StdString UInt8)

/-- The loop over the commas, and then the item behind the last one. -/
def extractLoop (start : SizeT) (points : List (StdString UInt8)) :
    Except OutOfRange (List (StdString UInt8)) := do
  let «end» := pointList.find comma start
  if found : «end» ≠ npos then
    let item ← pointList.substr start («end» - start)
    let item ← trimWhitespace item
    extractLoop («end» + 1) (pushItem points item)
  else
    let lastItem ← pointList.substr start npos
    let lastItem ← trimWhitespace lastItem
    return pushItem points lastItem
termination_by pointList.chars.length - start.toNat
decreasing_by
  have inside := pointList.find_inside found
  have next := pointList.find_succ found
  omega

/-- The points of a list, in order. -/
def extractStartStopPoints : Except OutOfRange (List (StdString UInt8)) :=
  if pointList.empty then .ok [] else extractLoop pointList 0 []

/-- From a position on, the loop adds the tokens that stand behind it. -/
theorem extractLoop_eq {start : SizeT} (inside : start.toNat ≤ pointList.chars.length)
    (points : List (StdString UInt8)) :
    ∃ result, extractLoop pointList start points = .ok result ∧
      result.map (·.chars) = points.map (·.chars) ++
        tokens comma (· ∈ blanks) (pointList.chars.drop start.toNat) := by
  -- The induction follows the loop, whose points are those of the text in front of the start.
  induction start, points using extractLoop.induct pointList with
  | case1 start points «end» found ih =>
    -- The item in front of the comma is taken, and the loop goes on behind it.
    obtain ⟨item, copied, first, parts⟩ := pointList.substr_find found
    obtain ⟨trimmed, trims, left⟩ := trimWhitespace_eq item
    have next : («end» + 1).toNat = «end».toNat + 1 := pointList.find_succ found
    have within : «end».toNat < pointList.chars.length := (pointList.find_inside found).2
    obtain ⟨result, goes, adds⟩ := ih trimmed (by omega)
    refine ⟨result, ?_, ?_⟩
    · rw [extractLoop, dif_pos found, copied]
      change (trimWhitespace item >>= _) = _
      rw [trims]
      exact goes
    · rw [adds, pushItem_chars left, parts, tokens_append_sep _ _ first, List.append_assoc]
  | case2 start points «end» missing =>
    -- Without another comma, the rest of the list is the last item.
    have single := pointList.not_mem_of_find (not_not.mp missing)
    obtain ⟨lastItem, copied, chars⟩ := pointList.substr_npos inside
    obtain ⟨trimmed, trims, left⟩ := trimWhitespace_eq lastItem
    refine ⟨pushItem points trimmed, ?_, ?_⟩
    · rw [extractLoop, dif_neg missing, copied]
      change (trimWhitespace lastItem >>= _) = _
      rw [trims]
      rfl
    · rw [pushItem_chars left, chars, tokens_of_not_mem _ _ single]

/-- The points of a list are its tokens, and those of joined tokens are the tokens joined. -/
theorem extractStartStopPoints_tokens :
    ∃ points, extractStartStopPoints pointList = .ok points ∧
      points.map (·.chars) = tokens comma (· ∈ blanks) pointList.chars ∧
      ∀ listed : List (Padded comma (· ∈ blanks)), pointList.chars = joined listed →
        points.map (·.chars) = listed.map Padded.token := by
  have exact : ∃ points, extractStartStopPoints pointList = .ok points ∧
      points.map (·.chars) = tokens comma (· ∈ blanks) pointList.chars := by
    rw [extractStartStopPoints]
    split_ifs with none
    · -- The tokens of no text are none.
      rw [List.isEmpty_iff.mp none]
      exact ⟨[], rfl, rfl⟩
    · exact extractLoop_eq pointList (Nat.zero_le _) []
  obtain ⟨points, result, all⟩ := exact
  refine ⟨points, result, all, fun listed written => ?_⟩
  rw [all, written, tokens_joined (by decide)]

end Loop

/-- A word of other characters, with all blanks on both sides of it. -/
def betweenBlanks (word : List UInt8) (some : word ≠ [])
    (others : ∀ c ∈ word, c ≠ comma ∧ c ∉ blanks) : Padded comma (· ∈ blanks) where
  front := blanks
  token := word
  back := blanks
  front_blank := fun _ => decide_eq_true
  back_blank := fun _ => decide_eq_true
  token_ne := some
  single := fun among => (others comma among).1 rfl
  starts := fun c first => by simpa using (others c (List.mem_of_mem_head? first)).2
  ends := fun c last => by simpa using (others c (List.mem_of_mem_getLast? last)).2

/-- Two points, written with blanks around each of them. -/
def connectedAuthorized : List (Padded comma (· ∈ blanks)) :=
  [betweenBlanks ("EVConnected".toList.map Char.toUInt8) (by simp) (by decide +kernel),
    betweenBlanks ("Authorized".toList.map Char.toUInt8) (by simp) (by decide +kernel)]

/-- The two points are read back from what is written for them. -/
theorem extractStartStopPoints_two :
    ∃ points, extractStartStopPoints ⟨joined connectedAuthorized, by decide +kernel⟩ = .ok points ∧
      points.map (·.chars) = ["EVConnected", "Authorized"].map (·.toList.map Char.toUInt8) := by
  obtain ⟨points, result, -, back⟩ :=
    extractStartStopPoints_tokens ⟨joined connectedAuthorized, by decide +kernel⟩
  exact ⟨points, result, back connectedAuthorized rfl⟩

end EasyEvse.Ocpp
