import Mathlib.Data.List.DropRight
import Mathlib.Tactic.Common

/-! The tokens of a text: what stands between the separators, without the blanks around it. -/

namespace EasyEvse.Text

variable {α : Type*}

/-- A text without the blanks in front of it and behind it. -/
def trim (blank : α → Bool) (text : List α) : List α :=
  (text.dropWhile blank).rdropWhile blank

/-- A text is kept if neither its first nor its last character is blank. -/
theorem trim_of_ends {blank : α → Bool} {text : List α}
    (starts : ∀ c ∈ text.head?, ¬ blank c) (ends : ∀ c ∈ text.getLast?, ¬ blank c) :
    trim blank text = text := by
  -- The first character stops the one side, and the last one the other.
  cases text with
  | nil => rfl
  | cons first rest =>
    rw [trim, List.dropWhile_cons_of_neg (starts first rfl), List.rdropWhile_eq_self_iff]
    intro some
    exact ends _ (List.getLast_mem_getLast? some)

/-- Blanks in front of a text are dropped. -/
theorem trim_append_left {blank : α → Bool} {front : List α} (blanks : ∀ c ∈ front, blank c)
    (text : List α) : trim blank (front ++ text) = trim blank text := by
  rw [trim, List.dropWhile_append_of_pos blanks, trim]

/-- Blanks behind a text that starts with another character are dropped. -/
theorem trim_append_right {blank : α → Bool} {text back : List α} (some : text ≠ [])
    (starts : ∀ c ∈ text.head?, ¬ blank c) (blanks : ∀ c ∈ back, blank c) :
    trim blank (text ++ back) = trim blank text := by
  obtain ⟨first, rest, rfl⟩ := List.exists_cons_of_ne_nil some
  have first := starts first rfl
  -- Nothing is dropped in front, so that only the end of the text is looked at.
  rw [trim, trim, List.cons_append, List.dropWhile_cons_of_neg first,
    List.dropWhile_cons_of_neg first, ← List.cons_append]
  rw [List.rdropWhile, List.rdropWhile, List.reverse_append,
    List.dropWhile_append_of_pos (by simpa using blanks)]

/-- A token with the blanks written around it. -/
structure Padded (sep : α) (blank : α → Bool) where
  front : List α
  token : List α
  back : List α
  front_blank : ∀ c ∈ front, blank c
  back_blank : ∀ c ∈ back, blank c
  token_ne : token ≠ []
  single : sep ∉ token
  starts : ∀ c ∈ token.head?, ¬ blank c
  ends : ∀ c ∈ token.getLast?, ¬ blank c

variable {sep : α} {blank : α → Bool}

namespace Padded

/-- What is written for a token. -/
def written (padded : Padded sep blank) : List α :=
  padded.front ++ padded.token ++ padded.back

/-- The blanks around a token are trimmed, and nothing else. -/
theorem trim_written (padded : Padded sep blank) : trim blank padded.written = padded.token := by
  -- One side after the other is dropped, and the token itself has no blank at its ends.
  rw [written, List.append_assoc, trim_append_left padded.front_blank,
    trim_append_right padded.token_ne padded.starts padded.back_blank,
    trim_of_ends padded.starts padded.ends]

/-- No separator is written for a token if the separator is no blank. -/
theorem sep_not_mem_written (padded : Padded sep blank) (apart : ¬ blank sep) :
    sep ∉ padded.written := by
  rw [written, List.mem_append, List.mem_append]
  rintro ((front | token) | back)
  · exact apart (padded.front_blank sep front)
  · exact padded.single token
  · exact apart (padded.back_blank sep back)

end Padded

/-- Tokens with separators between them. -/
def joined (listed : List (Padded sep blank)) : List α :=
  [sep].intercalate (listed.map Padded.written)

variable [DecidableEq α] (sep blank)

/-- The tokens of a text, in order. -/
def tokens (text : List α) : List (List α) :=
  ((text.splitOn sep).map (trim blank)).filter (· ≠ [])

/-- The only token of a text without a separator, if there is one. -/
def token? (text : List α) : List (List α) :=
  [trim blank text].filter (· ≠ [])

/-- A text without a separator has one token at most. -/
theorem tokens_of_not_mem {text : List α} (single : sep ∉ text) :
    tokens sep blank text = token? blank text := by
  rw [tokens, List.splitOn_eq_singleton single, List.map_singleton, token?]

/-- The first separator ends the first token. -/
theorem tokens_append_sep {front : List α} (first : sep ∉ front) (rest : List α) :
    tokens sep blank (front ++ sep :: rest) = token? blank front ++ tokens sep blank rest := by
  rw [tokens, List.splitOn_append_cons_self_of_not_mem first, List.map_cons,
    ← List.singleton_append, List.filter_append, ← token?, ← tokens]

variable {sep blank}

/-- The tokens that were written are read back, whatever blanks stand around them. -/
theorem tokens_joined (apart : ¬ blank sep) (listed : List (Padded sep blank)) :
    tokens sep blank (joined listed) = listed.map Padded.token := by
  -- Every piece is trimmed to its token, and no token is empty.
  have trimmed : ((listed.map Padded.written).map (trim blank)).filter (· ≠ []) =
      listed.map Padded.token := by
    rw [List.map_map, List.map_congr_left fun padded _ => padded.trim_written,
      List.filter_eq_self]
    intro token among
    obtain ⟨padded, -, rfl⟩ := List.mem_map.mp among
    exact decide_eq_true padded.token_ne
  cases listed with
  | nil =>
    -- Without any token nothing is written, and the one empty piece is dropped.
    rw [joined, List.map_nil, List.intercalate_nil, tokens_of_not_mem _ _ List.not_mem_nil]
    rfl
  | cons first rest =>
    -- No piece has a separator in it, so that the text is cut into the pieces again.
    rw [joined, tokens, List.splitOn_intercalate sep _ (by simp), trimmed]
    intro piece among
    obtain ⟨padded, -, rfl⟩ := List.mem_map.mp among
    exact padded.sep_not_mem_written apart

end EasyEvse.Text
