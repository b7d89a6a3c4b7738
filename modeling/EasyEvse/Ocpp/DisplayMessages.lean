import Mathlib.Data.List.TakeWhile
import EasyEvse.Clock.Order

/-! Messages for the display: one that is not valid now also stops those that come after it. -/

namespace EasyEvse.Ocpp

open Clock

/-- How urgently a message is displayed. -/
inductive MessagePriority
  | alwaysFront | inFront | normalCycle
  deriving DecidableEq, Repr

/-- The answer to a request with messages. -/
inductive DisplayMessageStatus
  | accepted | notSupportedMessageFormat | rejected | notSupportedPriority | notSupportedState
  | unknownTransaction | languageNotSupported
  deriving DecidableEq, Repr

/-- A message for the display, and the time during which it is to be displayed. -/
structure DisplayMessage where
  priority : Option MessagePriority := none
  timestampFrom : Option DateTime := none
  timestampTo : Option DateTime := none
  message : String
  deriving DecidableEq

/-- What the loop over the messages keeps from one message to the next. -/
structure DisplayLoop where
  validMessage : Bool := true
  status : DisplayMessageStatus := .accepted
  ocppDisplayMessagesStr : List String
  deriving DecidableEq

namespace DisplayLoop

variable (now : DateTime) (s : DisplayLoop) (message : DisplayMessage)

/-- The time is before that of the message or after it. -/
def outside : Bool :=
  (message.timestampFrom.any fun timestampFrom => now.lt timestampFrom.toDateTimeImpl) ||
    message.timestampTo.any fun timestampTo => now.gt timestampTo.toDateTimeImpl

/-- One message. The flag is cleared for a message that is not valid, and never set again. -/
def step : DisplayLoop :=
  let validMessage := if outside now message then false else s.validMessage
  if validMessage then
    { s with
      validMessage
      -- Messages of any other priority, or of none, are accepted and not displayed.
      ocppDisplayMessagesStr :=
        if message.priority = some .alwaysFront then
          s.ocppDisplayMessagesStr ++ [message.message]
        else s.ocppDisplayMessagesStr }
  else { s with validMessage, status := .rejected }

end DisplayLoop

/-- The callback for a request with messages: the answer, and the messages to display after it. -/
def setDisplayMessageCb (now : DateTime) (ocppDisplayMessagesStr : List String)
    (displayMessages : List DisplayMessage) : DisplayMessageStatus × List String :=
  let s := displayMessages.foldl (DisplayLoop.step now) { ocppDisplayMessagesStr }
  (s.status, s.ocppDisplayMessagesStr)

namespace DisplayMessage

/-- The present time lies in the time of the message, as far as that is given. -/
def Valid (now : DateTime) (message : DisplayMessage) : Prop :=
  (∀ timestampFrom ∈ message.timestampFrom, timestampFrom.toTimePointS ≤ now.toTimePointS) ∧
    ∀ timestampTo ∈ message.timestampTo, now.toTimePointS ≤ timestampTo.toTimePointS

/-- The message is to be displayed now. -/
def Shown (now : DateTime) (message : DisplayMessage) : Prop :=
  message.Valid now ∧ message.priority = some .alwaysFront

instance (now : DateTime) : DecidablePred (Valid now) := fun _ =>
  inferInstanceAs (Decidable ((∀ _ ∈ _, _) ∧ ∀ _ ∈ _, _))

instance (now : DateTime) : DecidablePred (Shown now) := fun _ =>
  inferInstanceAs (Decidable (_ ∧ _))

/-- The texts that are to be displayed now, in order. -/
def textsShown (now : DateTime) (messages : List DisplayMessage) : List String :=
  (messages.filter (Shown now)).map message

end DisplayMessage

open DisplayMessage

section Judging

variable {now : DateTime} {s : DisplayLoop} {message : DisplayMessage}
  {messages : List DisplayMessage} {texts : List String}

/-- The two comparisons of the loop ask whether the message is valid. -/
theorem outside_eq : DisplayLoop.outside now message = decide (¬ message.Valid now) := by
  rw [Bool.eq_iff_iff, decide_eq_true_iff, DisplayLoop.outside, Valid]
  -- A bound that is not there is kept by every time.
  cases message.timestampFrom <;> cases message.timestampTo <;>
    simp [DateTime.lt_iff, DateTime.gt_iff, UInt32.not_le, imp_iff_not_or]

/-- While the flag is set, a valid message is displayed if it is to be. -/
theorem step_valid (flag : s.validMessage = true) (valid : message.Valid now) :
    DisplayLoop.step now s message = { s with
      ocppDisplayMessagesStr := s.ocppDisplayMessagesStr ++ textsShown now [message] } := by
  by_cases front : message.priority = some .alwaysFront <;>
    simp [DisplayLoop.step, outside_eq, valid, flag, front, textsShown, Shown]

/-- Once a message was refused, nothing changes any more. -/
theorem step_refused (flag : s.validMessage = false) (status : s.status = .rejected) :
    DisplayLoop.step now s message = s := by
  obtain ⟨validMessage, answer, texts⟩ := s
  obtain rfl : validMessage = false := flag
  obtain rfl : answer = .rejected := status
  simp [DisplayLoop.step]

/-- A message that is not valid is refused. -/
theorem step_invalid (invalid : ¬ message.Valid now) :
    DisplayLoop.step now s message = { s with validMessage := false, status := .rejected } := by
  simp [DisplayLoop.step, outside_eq, invalid]

/-- Once a message was refused, the others are refused as well. -/
theorem foldl_refused (flag : s.validMessage = false) (status : s.status = .rejected) :
    messages.foldl (DisplayLoop.step now) s = s := by
  induction messages with
  | nil => rfl
  | cons message messages ih => rw [List.foldl_cons, step_refused flag status, ih]

/-- The messages before the first one that is not valid are judged one by one. -/
theorem foldl_valid (flag : s.validMessage = true) :
    (messages.foldl (DisplayLoop.step now) s).ocppDisplayMessagesStr =
        s.ocppDisplayMessagesStr ++ textsShown now (messages.takeWhile (Valid now)) ∧
      (messages.foldl (DisplayLoop.step now) s).status =
        if ∀ message ∈ messages, message.Valid now then s.status else .rejected := by
  -- The flag stays set up to the first refusal, and after it the loop does not matter.
  induction messages generalizing s with
  | nil => simp [textsShown]
  | cons message messages ih =>
    rw [List.foldl_cons]
    by_cases valid : message.Valid now
    · -- The text of this message, if any, stands before those of the rest.
      rw [step_valid flag valid]
      obtain ⟨texts, status⟩ := @ih { s with
        ocppDisplayMessagesStr := s.ocppDisplayMessagesStr ++ textsShown now [message] } flag
      refine ⟨texts.trans ?_, status.trans (by simp [valid])⟩
      simp [textsShown, valid, List.filter_cons]
      split_ifs <;> simp
    · -- The flag is never set again, so that the rest is refused as well.
      rw [step_invalid valid, foldl_refused rfl rfl]
      simp [textsShown, valid]

/-- The callback displays what is to be displayed before the first message that is not valid. -/
theorem setDisplayMessageCb_eq : setDisplayMessageCb now texts messages =
    (if ∀ message ∈ messages, message.Valid now then .accepted else .rejected,
      texts ++ textsShown now (messages.takeWhile (Valid now))) := by
  obtain ⟨shown, status⟩ := @foldl_valid now { ocppDisplayMessagesStr := texts } messages rfl
  exact Prod.ext status shown

/-- No message that is to be displayed comes after one that is not valid. -/
def ShownFirst (now : DateTime) (messages : List DisplayMessage) : Prop :=
  messages.Pairwise fun earlier later => ¬ earlier.Valid now → ¬ later.Shown now

instance (now : DateTime) : DecidablePred (ShownFirst now) := fun _ =>
  inferInstanceAs (Decidable (List.Pairwise _ _))

/-- Nothing is to be displayed exactly if none of the messages is. -/
theorem textsShown_eq_nil : textsShown now messages = [] ↔
    ∀ message ∈ messages, ¬ message.Shown now := by
  simp [textsShown, List.filter_eq_nil_iff]

/-- Where none of the messages is to be displayed, none of the first ones is. -/
theorem takeWhile_noneShown (noneShown : ∀ message ∈ messages, ¬ message.Shown now) :
    textsShown now (messages.takeWhile (Valid now)) = [] := by
  rw [textsShown_eq_nil]
  exact fun message member => noneShown message (List.takeWhile_subset _ member)

/-- Nothing to be displayed is left out exactly if it all comes first. -/
theorem takeWhile_shown : textsShown now (messages.takeWhile (Valid now)) =
    textsShown now messages ↔ ShownFirst now messages := by
  unfold ShownFirst
  -- Each message is compared with all that come after it.
  induction messages with
  | nil => simp
  | cons message messages ih =>
    rw [List.pairwise_cons, ← ih]
    by_cases valid : message.Valid now
    · -- A valid message is displayed or not, in both lists alike.
      by_cases shown : message.Shown now <;> simp [textsShown, valid, shown]
    · -- Behind a message that is not valid, there must be nothing to be displayed.
      have hidden : ¬ message.Shown now := fun shown => valid shown.1
      have left : textsShown now ((message :: messages).takeWhile (Valid now)) = [] := by
        simp [textsShown, valid]
      have all : textsShown now (message :: messages) = textsShown now messages := by
        simp [textsShown, hidden]
      rw [left, all, eq_comm, textsShown_eq_nil]
      constructor
      · intro noneShown
        refine ⟨fun later member _ => noneShown later member, ?_⟩
        rw [takeWhile_noneShown noneShown, textsShown_eq_nil.mpr noneShown]
      · exact fun both later member => both.1 later member valid

/-- The callback displays what is to be displayed, and refuses if a message is not valid. -/
def JudgedSingly (now : DateTime) (texts : List String) (messages : List DisplayMessage) : Prop :=
  (setDisplayMessageCb now texts messages).2 = texts ++ textsShown now messages ∧
    ((setDisplayMessageCb now texts messages).1 = .rejected ↔
      ∃ message ∈ messages, ¬ message.Valid now)

/-- In another order the same messages are displayed, and the answer is the same. -/
def OrderFree (now : DateTime) (texts : List String) (messages : List DisplayMessage) : Prop :=
  ∀ other, other.Perm messages →
    (setDisplayMessageCb now texts other).2.Perm (setDisplayMessageCb now texts messages).2 ∧
      (setDisplayMessageCb now texts other).1 = (setDisplayMessageCb now texts messages).1

instance (now : DateTime) (texts : List String) : DecidablePred (JudgedSingly now texts) :=
  fun _ => inferInstanceAs (Decidable (_ ∧ _))

/-- The answer is right in any case, and the messages are if those to be displayed come first. -/
theorem judgedSingly_iff : JudgedSingly now texts messages ↔ ShownFirst now messages := by
  rw [JudgedSingly, setDisplayMessageCb_eq, List.append_cancel_left_eq, takeWhile_shown]
  refine and_iff_left ?_
  split_ifs with valid
  · simpa using valid
  · simpa using valid

/-- The order does not matter exactly if all messages are valid, or none is to be displayed. -/
theorem orderFree_iff : OrderFree now texts messages ↔
    (∀ message ∈ messages, message.Valid now) ∨ ∀ message ∈ messages, ¬ message.Shown now := by
  have answer : ∀ {other}, other.Perm messages → (setDisplayMessageCb now texts other).1 =
      (setDisplayMessageCb now texts messages).1 := by
    intro other perm
    simp only [setDisplayMessageCb_eq, perm.mem_iff]
  constructor
  · -- A message that is not valid hides one that is displayed, or does not, as the order has it.
    intro free
    by_contra mixed
    obtain ⟨⟨invalid, member, notValid⟩, shown, member', isShown⟩ := by simpa using mixed
    -- Two orders are compared: one that begins with the one, and one that begins with the other.
    have hidden := (free _ (List.perm_cons_erase member).symm).1
    have displayed := (free _ (List.perm_cons_erase member').symm).1
    have same := hidden.trans displayed.symm
    simp only [setDisplayMessageCb_eq, List.perm_append_left_iff] at same
    simp [textsShown, notValid, isShown, isShown.1] at same
  · intro alike other perm
    refine ⟨?_, answer perm⟩
    rw [setDisplayMessageCb_eq, setDisplayMessageCb_eq, List.perm_append_left_iff]
    rcases alike with valid | noneShown
    · -- Where all are valid, none is left out, and the texts come in the order of the messages.
      have valid' : ∀ message ∈ other, message.Valid now := fun message member =>
        valid message (perm.mem_iff.mp member)
      rw [List.takeWhile_eq_self_iff.mpr (by simpa using valid'),
        List.takeWhile_eq_self_iff.mpr (by simpa using valid)]
      exact (perm.filter _).map _
    · rw [takeWhile_noneShown noneShown,
        takeWhile_noneShown fun message member => noneShown message (perm.mem_iff.mp member)]

/--
Messages are judged one by one exactly if those to be displayed come before those not valid.

For the order of the messages not to matter, they must not be of both kinds.
-/
theorem judged_one_by_one (now : DateTime) (texts : List String)
    (messages : List DisplayMessage) :
    (JudgedSingly now texts messages ↔ ShownFirst now messages) ∧
    (OrderFree now texts messages ↔
      (∀ message ∈ messages, message.Valid now) ∨ ∀ message ∈ messages, ¬ message.Shown now) :=
  ⟨judgedSingly_iff, orderFree_iff⟩

/-- A message that was to be displayed until yesterday hides the one that is for today. -/
theorem judged_together : ¬ ∀ (now : DateTime) (texts : List String)
    (messages : List DisplayMessage),
    JudgedSingly now texts messages ∧ OrderFree now texts messages := by
  intro always
  have fails : ¬ JudgedSingly (.now 1704153600) []
      [{ priority := some .alwaysFront, timestampTo := some (.now 1704067200), message := "old" },
        { priority := some .alwaysFront, message := "new" }] := by
    decide +kernel
  exact fails (always _ _ _).1

end Judging

end EasyEvse.Ocpp
