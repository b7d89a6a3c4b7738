import Mathlib.Data.List.Basic
import Mathlib.Data.List.Induction
import Mathlib.Data.List.ModifyLast

/-! Logs in which some entries open a span and some close it, one span at a time. -/

namespace Transition

variable {κ : Type*} (opens closes : κ → Prop) [DecidablePred opens] [DecidablePred closes]

/--
The opening and closing entries take turns.

The flag says whether a span is open before the first entry of the log.
-/
def Alternates : Bool → List κ → Prop
  | _, [] => True
  | isOpen, entry :: log =>
    -- An entry that is both kinds counts as an opening.
    if opens entry then isOpen = false ∧ Alternates true log
    else if closes entry then isOpen = true ∧ Alternates false log
    else Alternates isOpen log

/-- Whether a span is open after a log, given whether one was open before it. -/
def openAfter (isOpen : Bool) (log : List κ) : Bool :=
  log.foldl (fun isOpen entry =>
    if opens entry then true else if closes entry then false else isOpen) isOpen

/-- The opening entries in order, each with the number of closings before the next opening. -/
def spans (log : List κ) : List (κ × ℕ) :=
  log.foldl (fun found entry =>
    if opens entry then found ++ [(entry, 0)]
    -- A closing without any opening before it is not counted.
    else if closes entry then found.modifyLast fun span => (span.1, span.2 + 1)
    else found) []

/-- Every entry of a log is one that the entries before it allow. -/
def Lawful (law : List κ → κ → Prop) (log : List κ) : Prop :=
  ∀ front entry back, log = front ++ entry :: back → law front entry

/-- A log kept by opening only when nothing is open, and closing only what is. -/
inductive Kept : List κ → Bool → Prop
  | start : Kept [] false
  | opening {log entry} (kept : Kept log false) (does : opens entry) : Kept (log ++ [entry]) true
  | closing {log entry} (kept : Kept log true) (never : ¬ opens entry) (does : closes entry) :
      Kept (log ++ [entry]) false
  | other {log entry isOpen} (kept : Kept log isOpen) (never : ¬ opens entry)
      (neither : ¬ closes entry) : Kept (log ++ [entry]) isOpen

section Laws

variable {opens closes} {log more : List κ} {entry : κ} {isOpen : Bool}

omit [DecidablePred opens] [DecidablePred closes] in
/-- The empty log is lawful. -/
theorem lawful_nil {law : List κ → κ → Prop} : Lawful law [] := by
  intro front entry back split
  simp at split

omit [DecidablePred opens] [DecidablePred closes] in
/-- A log stays lawful with every entry that it allows. -/
theorem lawful_snoc {law : List κ → κ → Prop} :
    Lawful law (log ++ [entry]) ↔ Lawful law log ∧ law log entry := by
  constructor
  · intro lawful
    refine ⟨fun front earlier back split => ?_, lawful log entry [] rfl⟩
    exact lawful front earlier (back ++ [entry]) (by simp [split])
  · intro ⟨lawful, allowed⟩ front last back split
    -- The entry in question is the last one, or there are others behind it.
    rcases List.eq_nil_or_concat back with none | ⟨rest, final, some⟩
    · subst none
      obtain ⟨rfl, rfl⟩ : log = front ∧ entry = last := by simpa using split
      exact allowed
    · rw [some, List.concat_eq_append, ← List.cons_append, ← List.append_assoc] at split
      exact lawful front last rest (List.append_inj_left' split rfl)

omit [DecidablePred opens] [DecidablePred closes] in
/-- Entries that neither open nor close are free to be made. -/
theorem Kept.others (kept : Kept opens closes log isOpen)
    (neutral : ∀ entry ∈ more, ¬ opens entry ∧ ¬ closes entry) :
    Kept opens closes (log ++ more) isOpen := by
  -- Each of the entries is made on its own, and leaves the flag alone.
  induction more generalizing log with
  | nil => simpa using kept
  | cons entry more ih =>
    have here := neutral entry (by simp)
    have rest := ih (kept.other here.1 here.2) fun entry member => neutral entry (by simp [member])
    simpa using rest

/-- The last entry decides whether a span is open, unless it is neither kind. -/
theorem openAfter_snoc : openAfter opens closes isOpen (log ++ [entry]) =
    if opens entry then true else if closes entry then false
    else openAfter opens closes isOpen log := by
  simp [openAfter, -Bool.if_true_left, -Bool.if_false_left]

/-- Entries of neither kind decide nothing. -/
theorem openAfter_undecided (never : ∀ entry ∈ more, ¬ opens entry ∧ ¬ closes entry) :
    openAfter opens closes isOpen (log ++ more) = openAfter opens closes isOpen log := by
  -- The last entry is of neither kind, and the flag is that of the log before it.
  induction more using List.reverseRecOn with
  | nil => simp
  | append_singleton more entry ih =>
    obtain ⟨notOpens, notCloses⟩ := never entry (by simp)
    rw [← List.append_assoc, openAfter_snoc, if_neg notOpens, if_neg notCloses]
    exact ih fun other member => never other (by simp [member])

/-- After some opening and no closing a span is open. -/
theorem openAfter_opened (some : ∃ entry ∈ more, opens entry)
    (never : ∀ entry ∈ more, ¬ closes entry) :
    openAfter opens closes isOpen (log ++ more) = true := by
  -- The last entry that decides anything is an opening.
  induction more using List.reverseRecOn with
  | nil => simp at some
  | append_singleton more entry ih =>
    rw [← List.append_assoc, openAfter_snoc]
    by_cases last : opens entry
    · simp [last]
    · -- The opening is earlier, and nothing closed it since.
      obtain ⟨opening, member, does⟩ := some
      have earlier : opening ∈ more := by
        rcases List.mem_append.mp member with before | same
        · exact before
        · exact absurd (List.mem_singleton.mp same ▸ does) last
      rw [if_neg last, if_neg (never entry (by simp))]
      exact ih ⟨opening, earlier, does⟩ fun other member => never other (by simp [member])

/-- After some closing and no opening no span is open. -/
theorem openAfter_closed (some : ∃ entry ∈ more, closes entry)
    (never : ∀ entry ∈ more, ¬ opens entry) :
    openAfter opens closes isOpen (log ++ more) = false := by
  -- The last entry that decides anything is a closing.
  induction more using List.reverseRecOn with
  | nil => simp at some
  | append_singleton more entry ih =>
    rw [← List.append_assoc, openAfter_snoc, if_neg (never entry (by simp))]
    by_cases last : closes entry
    · simp [last]
    · obtain ⟨closing, member, does⟩ := some
      have earlier : closing ∈ more := by
        rcases List.mem_append.mp member with before | same
        · exact before
        · exact absurd (List.mem_singleton.mp same ▸ does) last
      rw [if_neg last]
      exact ih ⟨closing, earlier, does⟩ fun other member => never other (by simp [member])

/-- A span that is open after a log was opened in it, and not closed since. -/
theorem openAfter_iff (apart : ∀ entry, opens entry → ¬ closes entry) :
    openAfter opens closes false log = true ↔
      ∃ front entry back, log = front ++ entry :: back ∧ opens entry ∧
        ∀ later ∈ back, ¬ closes later := by
  -- The deciding opening is the last entry, or it is one of those before it.
  constructor
  · induction log using List.reverseRecOn with
    | nil => simp [openAfter]
    | append_singleton log last ih =>
      intro isOpen
      rw [openAfter_snoc] at isOpen
      split_ifs at isOpen with opening closing
      · exact ⟨log, last, [], rfl, opening, by simp⟩
      · obtain ⟨front, entry, back, rfl, does, never⟩ := ih isOpen
        refine ⟨front, entry, back ++ [last], by simp, does, fun later member => ?_⟩
        rcases List.mem_append.mp member with before | same
        · exact never later before
        · rw [List.mem_singleton.mp same]; exact closing
  · intro ⟨front, entry, back, split, does, never⟩
    subst split
    refine openAfter_opened ⟨entry, by simp, does⟩ fun later member => ?_
    rcases List.mem_cons.mp member with rfl | after
    · exact apart _ does
    · exact never later after

/-- The last entry adds to the spans, unless it is neither kind. -/
theorem spans_snoc : spans opens closes (log ++ [entry]) =
    if opens entry then spans opens closes log ++ [(entry, 0)]
    else if closes entry then
      (spans opens closes log).modifyLast fun span => (span.1, span.2 + 1)
    else spans opens closes log := by
  simp [spans]

/-- The entries up to the last take turns, and then the last has its turn. -/
theorem alternates_snoc : Alternates opens closes isOpen (log ++ [entry]) ↔
    Alternates opens closes isOpen log ∧
      Alternates opens closes (openAfter opens closes isOpen log) [entry] := by
  -- The flag changes with every entry, so it stays quantified over.
  induction log generalizing isOpen with
  | nil => simp [Alternates, openAfter]
  | cons first log ih =>
    unfold openAfter at ih ⊢
    by_cases opening : opens first
    · simp only [List.cons_append, Alternates, opening, if_true, ih, List.foldl_cons, and_assoc]
    · by_cases closing : closes first
      · simp only [List.cons_append, Alternates, opening, closing, if_true, if_false, ih,
          List.foldl_cons, and_assoc]
      · simp only [List.cons_append, Alternates, opening, closing, if_false, ih, List.foldl_cons]

/-- In a kept log the openings and closings take turns, an opening first. -/
theorem Kept.alternates (kept : Kept opens closes log isOpen) :
    Alternates opens closes false log ∧ openAfter opens closes false log = isOpen := by
  -- Each entry is one that the flag allows, and the flag is that of the log before it.
  induction kept with
  | start => exact ⟨trivial, rfl⟩
  | opening _ does ih =>
    rw [alternates_snoc, openAfter_snoc, ih.2]
    simp [Alternates, does, ih.1]
  | closing _ never does ih =>
    rw [alternates_snoc, openAfter_snoc, ih.2]
    simp [Alternates, never, does, ih.1]
  | other _ never neither ih =>
    rw [alternates_snoc, openAfter_snoc, ih.2]
    simp [Alternates, never, neither, ih.1]

/-- In a kept log one span more was opened than closed exactly while one is open. -/
theorem Kept.count (apart : ∀ entry, opens entry → ¬ closes entry)
    (kept : Kept opens closes log isOpen) :
    log.countP (fun entry => opens entry) =
      log.countP (fun entry => closes entry) + isOpen.toNat := by
  -- An opening raises one count and the flag, and a closing raises the other and lowers it.
  induction kept with
  | start => rfl
  | @opening log entry _ does ih => simp [List.countP_append, ih, does, apart entry does]
  | closing _ never does ih => simp [List.countP_append, ih, never, does]
  | other _ never neither ih => simp [List.countP_append, ih, never, neither]

/-- A log has as many spans as openings. -/
theorem length_spans (log : List κ) :
    (spans opens closes log).length = log.countP fun entry => opens entry := by
  -- Only an opening adds a span.
  induction log using List.reverseRecOn with
  | nil => rfl
  | append_singleton log entry ih =>
    -- Counting a closing changes the last span, and not how many there are.
    have same : ((spans opens closes log).modifyLast fun span => (span.1, span.2 + 1)).length =
        (spans opens closes log).length := by
      rcases List.eq_nil_or_concat (spans opens closes log) with none | ⟨done, last, some⟩
      · rw [none]; rfl
      · rw [some, List.concat_eq_append, List.modifyLast_concat]; simp
    rw [spans_snoc, List.countP_append, ← ih]
    by_cases opening : opens entry
    · simp [opening]
    · by_cases closing : closes entry <;> simp [opening, closing, same]

/--
Where nothing closes but what was opened since the last closing, no span is closed twice.

The last span is not closed yet exactly while it is open.
-/
theorem spans_closed_once
    (lawful : Lawful (fun front entry =>
      closes entry → openAfter opens closes false front = true) log) :
    (∀ span ∈ spans opens closes log, span.2 ≤ 1) ∧
      (openAfter opens closes false log = true →
        ∃ done entry, spans opens closes log = done ++ [(entry, 0)]) := by
  -- A closing adds to the last span only, and that one was not closed before.
  induction log using List.reverseRecOn with
  | nil => simp [spans, openAfter]
  | append_singleton log entry ih =>
    obtain ⟨earlier, allowed⟩ := lawful_snoc.mp lawful
    obtain ⟨once, unclosed⟩ := ih earlier
    rw [spans_snoc, openAfter_snoc]
    by_cases opening : opens entry
    · simp only [if_pos opening, List.mem_append, List.mem_singleton]
      refine ⟨fun span member => ?_, fun _ => ⟨_, entry, rfl⟩⟩
      rcases member with before | rfl
      · exact once span before
      · exact Nat.zero_le 1
    · by_cases closing : closes entry
      · obtain ⟨done, opened, found⟩ := unclosed (allowed closing)
        simp only [if_neg opening, if_pos closing, found, List.modifyLast_concat]
        refine ⟨fun span member => ?_, fun isOpen => by simp at isOpen⟩
        rcases List.mem_append.mp member with before | last
        · exact once span (by rw [found]; exact List.mem_append_left _ before)
        · exact Nat.le_of_eq (congrArg Prod.snd (List.mem_singleton.mp last))
      · simp only [if_neg opening, if_neg closing]
        exact ⟨once, unclosed⟩

/-- In a kept log every span but an open one was closed exactly once. -/
theorem Kept.closedOnce (kept : Kept opens closes log isOpen) :
    ∃ done, (∀ span ∈ done, span.2 = 1) ∧
      if isOpen then ∃ entry, spans opens closes log = done ++ [(entry, 0)]
      else spans opens closes log = done := by
  -- All spans but the last are done with, and the flag says whether the last one is.
  induction kept with
  | start => exact ⟨[], by simp, rfl⟩
  | @opening log entry _ does ih =>
    obtain ⟨done, once, found⟩ := ih
    refine ⟨done, once, entry, ?_⟩
    simpa [spans_snoc, does] using found
  | closing _ never does ih =>
    -- The open span is the last one, and it is closed for the first time.
    obtain ⟨done, once, opened, found⟩ := ih
    refine ⟨done ++ [(opened, 1)], ?_, ?_⟩
    · intro span member
      rcases List.mem_append.mp member with before | last
      · exact once span before
      · rw [List.mem_singleton.mp last]
    · simp [spans_snoc, never, does, found, List.modifyLast_concat]
  | other _ never neither ih =>
    obtain ⟨done, once, found⟩ := ih
    exact ⟨done, once, by simpa [spans_snoc, never, neither] using found⟩

/-- As many spans as there are closings, counted from the front, were closed exactly once. -/
theorem Kept.take_closed (apart : ∀ entry, opens entry → ¬ closes entry)
    (kept : Kept opens closes log isOpen) {n : ℕ}
    (closed : n ≤ log.countP fun entry => closes entry) :
    ∀ span ∈ (spans opens closes log).take n, span.2 = 1 := by
  -- There are as many spans that are done with as there are closings.
  intro span member
  obtain ⟨done, once, found⟩ := kept.closedOnce
  have total : (spans opens closes log).length =
      log.countP (fun entry => closes entry) + isOpen.toNat := by
    rw [length_spans, kept.count apart]
  cases isOpen with
  | false =>
    rw [show spans opens closes log = done from found] at member
    exact once span (List.mem_of_mem_take member)
  | true =>
    -- The open span is the last one, and lies beyond the closings.
    obtain ⟨entry, found⟩ := found
    rw [found] at total member
    have short : n ≤ done.length := by
      simp only [List.length_append, List.length_singleton, Bool.toNat_true] at total
      omega
    rw [List.take_append_of_le_length short] at member
    exact once span (List.mem_of_mem_take member)

end Laws

end Transition
