import Mathlib.Algebra.GroupWithZero.Nat
import Mathlib.Data.Int.Notation
import Mathlib.Data.List.Basic

/-! A report that is too long for one message is split into several, each as long as allowed. -/

namespace EasyEvse.Provisioning

/-- Texts one after the other, with commas in between. -/
def commaSeparated : List String → String
  | [] => ""
  | [text] => text
  | text :: next :: texts => text ++ "," ++ commaSeparated (next :: texts)

/-- A text in a document, if nothing in it has to be escaped. -/
def dumpString (text : String) : String := "\"" ++ text ++ "\""

def dumpArray (elements : List String) : String := "[" ++ commaSeparated elements ++ "]"

def dumpObject (members : List (String × String)) : String :=
  "\x7b" ++ commaSeparated (members.map fun m => dumpString m.1 ++ ":" ++ m.2) ++ "\x7d"

/-- The request that reports data of the device model. -/
structure NotifyReportRequest (δ : Type) where
  requestId : ℤ
  generatedAt : String
  seqNo : ℕ := 0
  reportData : Option (List δ) := none
  tbc : Option Bool := none
  deriving DecidableEq, Repr

/-- A call with the identifier of its message. -/
structure NotifyReportCall (δ : Type) where
  messageId : String
  request : NotifyReportRequest δ
  deriving DecidableEq, Repr

section Splitter

variable {δ : Type} (dump : δ → String)

/-- What a call reports. -/
def NotifyReportCall.data (call : NotifyReportCall δ) : List δ := call.request.reportData.getD []

/-- The members of a request, sorted by their keys. -/
def NotifyReportRequest.members (request : NotifyReportRequest δ) : List (String × String) :=
  [("generatedAt", dumpString request.generatedAt)] ++
  (request.reportData.map fun data => ("reportData", dumpArray (data.map dump))).toList ++
  [("requestId", toString request.requestId), ("seqNo", toString request.seqNo)] ++
  (request.tbc.map fun tbc => ("tbc", toString tbc)).toList

/-- The text of a call as it is sent. -/
def NotifyReportCall.text (call : NotifyReportCall δ) : String :=
  dumpArray ["2", dumpString call.messageId, dumpString "NotifyReport",
    dumpObject (call.request.members dump)]

/-- A request with what all the parts of a report share. -/
def NotifyReportRequest.template (request : NotifyReportRequest δ) : NotifyReportRequest δ :=
  { requestId := request.requestId, generatedAt := request.generatedAt, tbc := some false }

/-- The size of a call without the data and the identifier of the message. -/
def jsonSkeletonSize (request : NotifyReportRequest δ) : ℕ :=
  (NotifyReportCall.text dump ⟨"", request.template⟩).utf8ByteSize + ",\"reportData\":".utf8ByteSize

/-- Data that still fits, where a text of some size was taken already, and what is left. -/
def takeMore (remainingSize : ℕ) : ℕ → List δ → List δ × List δ
  | _, [] => ([], [])
  | size, data :: rest =>
    -- Each piece is counted with a comma, and the first one that does not fit ends the message.
    let additionalJsonSize := (dump data).utf8ByteSize + 1
    if size + additionalJsonSize ≤ remainingSize then
      let more := takeMore remainingSize (size + additionalJsonSize) rest
      (data :: more.1, more.2)
    else ([], data :: rest)

/-- The data for the next message, which is one in any case, and what is left. -/
def createNextReportData (remainingSize : ℕ) : List δ → List δ × List δ
  | [] => ([], [])
  | data :: rest =>
    -- The first piece is taken whatever its size.
    let more := takeMore dump remainingSize (dumpArray [dump data]).utf8ByteSize rest
    (data :: more.1, more.2)

/-- The next message, and the data that is left. -/
def createNextPayload (original : NotifyReportRequest δ) (maxSize seqNo : ℕ) (data : List δ)
    (messageId : String) : NotifyReportCall δ × List δ :=
  -- The subtraction does not go below zero, where the first piece is still taken.
  let remainingSize := maxSize - (jsonSkeletonSize dump original + messageId.utf8ByteSize)
  let next := createNextReportData dump remainingSize data
  (⟨messageId, { original.template with
      reportData := some next.1
      tbc := some (!next.2.isEmpty)
      seqNo }⟩, next.2)

/-- Data is only left if some was taken. -/
theorem length_createNextReportData (remainingSize : ℕ) (data : List δ) :
    (createNextReportData dump remainingSize data).2 ≠ [] →
    (createNextReportData dump remainingSize data).2.length < data.length := by
  have shorter : ∀ size (l : List δ), (takeMore dump remainingSize size l).2.length ≤ l.length := by
    intro size l
    induction l generalizing size with
    | nil => simp [takeMore]
    | cons item rest ih =>
      simp only [takeMore]
      split
      · exact Nat.le_succ_of_le (ih _)
      · exact Nat.le_refl _
  -- The first piece is taken, and the rest does not grow.
  cases data with
  | nil => simp [createNextReportData]
  | cons item rest => exact fun _ => Nat.lt_succ_of_le (shorter _ rest)

/-- The loop over the data, which goes round once in any case. -/
def createPayloads (original : NotifyReportRequest δ) (maxSize : ℕ) (messageIds : ℕ → String)
    (seqNo : ℕ) (data : List δ) : List (NotifyReportCall δ) :=
  let next := createNextPayload dump original maxSize seqNo data (messageIds seqNo)
  if next.2 = [] then [next.1]
  else next.1 :: createPayloads original maxSize messageIds (seqNo + 1) next.2
termination_by data.length
decreasing_by exact length_createNextReportData _ _ _ ‹_›

/-- The calls that a report is sent with. -/
def createCallPayloads (original : NotifyReportRequest δ) (maxSize : ℕ)
    (messageIds : ℕ → String) : List (NotifyReportCall δ) :=
  match original.reportData with
  -- Without data there is nothing to split.
  | none => [⟨messageIds 0, original⟩]
  | some data => createPayloads dump original maxSize messageIds 0 data

/-- A report of one piece of data is not split, and any other one as far as it has to be. -/
def notifyReportReq (requestId : ℤ) (generatedAt : String) (reportData : List δ)
    (maxMessageSize : ℕ) (messageIds : ℕ → String) : List (NotifyReportCall δ) :=
  let req : NotifyReportRequest δ :=
    { requestId, generatedAt, reportData := some reportData, tbc := some false }
  if reportData.length ≤ 1 then [⟨messageIds 0, req⟩]
  else createCallPayloads dump req maxMessageSize messageIds

end Splitter

section Sizes

variable {δ : Type} {dump : δ → String}

/-- A call is as long as its skeleton, its identifier and its data, but for the other members. -/
theorem text_size {call : NotifyReportCall δ} {data : List δ} {tbc : Bool}
    (withData : call.request.reportData = some data) (withTbc : call.request.tbc = some tbc) :
    (call.text dump).utf8ByteSize + 1 + (if tbc then 1 else 0) =
      jsonSkeletonSize dump call.request + call.messageId.utf8ByteSize +
        (dumpArray (data.map dump)).utf8ByteSize + (toString call.request.seqNo).utf8ByteSize := by
  -- The skeleton has a sequence number of one digit, and the longer one of both truth values.
  have quote : "\"".utf8ByteSize = 1 := rfl
  have comma : ",".utf8ByteSize = 1 := rfl
  have colon : ":".utf8ByteSize = 1 := rfl
  have key : "reportData".utf8ByteSize = 10 := rfl
  have keyAfter : ",\"reportData\":".utf8ByteSize = 14 := rfl
  have zero : (Nat.repr 0).utf8ByteSize = 1 := rfl
  have yes : (toString true).utf8ByteSize = 4 := rfl
  have no : (toString false).utf8ByteSize = 5 := rfl
  unfold jsonSkeletonSize NotifyReportCall.text NotifyReportRequest.members
  rw [withData, withTbc]
  simp only [NotifyReportRequest.template, dumpArray, dumpObject, commaSeparated, dumpString,
    Option.map_some, Option.map_none, Option.toList_some, Option.toList_none, List.append_nil,
    List.cons_append, List.nil_append, List.map_cons, List.map_nil, String.utf8ByteSize_append]
  -- The two truth values differ by one byte.
  cases tbc <;> simp <;> omega

/-- The bytes that data adds to an array that is not empty. -/
def moreSize (dump : δ → String) (data : List δ) : ℕ :=
  (data.map fun d => (dump d).utf8ByteSize + 1).sum

/-- Every piece of data but the first one comes with a comma. -/
theorem dumpArray_size (first : δ) (data : List δ) :
    (dumpArray ((first :: data).map dump)).utf8ByteSize =
      (dumpArray [dump first]).utf8ByteSize + moreSize dump data := by
  have texts : (commaSeparated ((first :: data).map dump)).utf8ByteSize =
      (dump first).utf8ByteSize + moreSize dump data := by
    have comma : ",".utf8ByteSize = 1 := rfl
    induction data generalizing first with
    | nil => simp [commaSeparated, moreSize]
    | cons next rest ih =>
      have after := ih next
      simp only [List.map_cons] at after
      simp only [List.map_cons, commaSeparated, String.utf8ByteSize_append, after, moreSize,
        List.sum_cons, comma]
      omega
  -- The brackets are the same on both sides.
  simp only [dumpArray, String.utf8ByteSize_append, texts, commaSeparated]
  omega

/-- Nothing is lost between what is taken and what is left. -/
theorem takeMore_append (remainingSize size : ℕ) (data : List δ) :
    (takeMore dump remainingSize size data).1 ++ (takeMore dump remainingSize size data).2 =
      data := by
  -- The induction follows the recursion, with the size taken so far.
  induction data generalizing size with
  | nil => rfl
  | cons item rest ih =>
    simp only [takeMore]
    split
    · simp [ih]
    · rfl

/-- What is taken fits, if anything is taken. -/
theorem takeMore_fits (remainingSize size : ℕ) (data : List δ) :
    (takeMore dump remainingSize size data).1 = [] ∨
      size + moreSize dump (takeMore dump remainingSize size data).1 ≤ remainingSize := by
  induction data generalizing size with
  | nil => exact .inl rfl
  | cons item rest ih =>
    simp only [takeMore]
    split
    -- The piece fits by the test, and with more taken the bound is that of the last one.
    · rename_i fits
      right
      rcases ih (size + ((dump item).utf8ByteSize + 1)) with nothing | more
      · simp only [nothing, moreSize, List.map_cons, List.map_nil, List.sum_cons, List.sum_nil]
        omega
      · simp only [moreSize, List.map_cons, List.sum_cons] at more ⊢
        omega
    -- Nothing is taken.
    · exact .inl rfl

/-- Everything is taken exactly if it fits. -/
theorem takeMore_all (remainingSize size : ℕ) (data : List δ) :
    (takeMore dump remainingSize size data).2 = [] ↔
      data = [] ∨ size + moreSize dump data ≤ remainingSize := by
  induction data generalizing size with
  | nil => simp [takeMore]
  | cons item rest ih =>
    simp only [takeMore, moreSize, List.map_cons, List.sum_cons]
    split
    -- The piece fits, and everything is taken if the rest is.
    · rename_i fits
      rw [ih]
      cases rest with
      | nil => simpa [moreSize] using by omega
      | cons next rest =>
        simp only [reduceCtorEq, false_or, moreSize]
        omega
    -- The piece does not fit, and so the whole does not.
    · rename_i exceeds
      simp only [reduceCtorEq, false_or, false_iff]
      omega

end Sizes

section Parts

variable {δ : Type} {dump : δ → String} {original : NotifyReportRequest δ} {maxSize : ℕ}
  {messageIds : ℕ → String} {seqNo : ℕ} {data : List δ} {messageId : String}

/-- The parts of a report, one after the other, are all of it. -/
theorem createNextReportData_append (remainingSize : ℕ) :
    (createNextReportData dump remainingSize data).1 ++
      (createNextReportData dump remainingSize data).2 = data := by
  -- The first piece is taken, and the rest is divided.
  cases data with
  | nil => rfl
  | cons first rest => simp [createNextReportData, takeMore_append]

/-- A part holds one piece of data, or several that fit. -/
theorem createNextReportData_fits (remainingSize : ℕ) :
    (createNextReportData dump remainingSize data).1.length ≤ 1 ∨
      (dumpArray ((createNextReportData dump remainingSize data).1.map dump)).utf8ByteSize ≤
        remainingSize := by
  cases data with
  | nil => exact .inl (by simp [createNextReportData])
  | cons first rest =>
    simp only [createNextReportData]
    rw [dumpArray_size]
    have fits := @takeMore_fits _ dump remainingSize (dumpArray [dump first]).utf8ByteSize rest
    -- Without another piece there is one, and otherwise the size was tested.
    exact fits.imp (fun nothing => by simp [nothing]) id

/-- Only an empty report has a part without data. -/
theorem createNextReportData_ne_nil (remainingSize : ℕ) (some_data : data ≠ []) :
    (createNextReportData dump remainingSize data).1 ≠ [] := by
  cases data with
  | nil => exact absurd rfl some_data
  | cons first rest => simp [createNextReportData]

/-- A call is the part of a report with some number, of which more are to come or not. -/
structure IsPart (original : NotifyReportRequest δ) (messageIds : ℕ → String) (seqNo : ℕ)
    (toBeContinued : Bool) (call : NotifyReportCall δ) : Prop where
  messageId : call.messageId = messageIds seqNo
  requestId : call.request.requestId = original.requestId
  generatedAt : call.request.generatedAt = original.generatedAt
  seqNo : call.request.seqNo = seqNo
  tbc : call.request.tbc = some toBeContinued
  some_data : call.request.reportData = some call.data

/-- The next payload is a part, and the last one if nothing is left. -/
theorem createNextPayload_isPart :
    IsPart original messageIds seqNo
      (!(createNextPayload dump original maxSize seqNo data (messageIds seqNo)).2.isEmpty)
      (createNextPayload dump original maxSize seqNo data (messageIds seqNo)).1 :=
  ⟨rfl, rfl, rfl, rfl, rfl, rfl⟩

/-- The loop goes round once in any case. -/
theorem createPayloads_length_pos :
    0 < (createPayloads dump original maxSize messageIds seqNo data).length := by
  fun_induction createPayloads dump original maxSize messageIds seqNo data <;> simp

/-- The loop numbers its parts, and announces every one but the first. -/
theorem createPayloads_parts : ∀ (i : ℕ) (call : NotifyReportCall δ),
    (createPayloads dump original maxSize messageIds seqNo data)[i]? = some call →
    IsPart original messageIds (seqNo + i)
      (i + 1 < (createPayloads dump original maxSize messageIds seqNo data).length) call := by
  -- The induction follows the loop, with one part less each time.
  fun_induction createPayloads dump original maxSize messageIds seqNo data with
  | case1 seqNo data next finished =>
    intro i call at'
    cases i with
    -- The only part has the first number, and nothing is left.
    | zero =>
      obtain rfl : next.1 = call := by simpa using at'
      have part : IsPart original messageIds seqNo (!next.2.isEmpty) next.1 :=
        createNextPayload_isPart
      simpa [finished] using part
    | succ i => simp at at'
  | case2 seqNo data next more ih =>
    intro i call at'
    cases i with
    -- The first part announces others, and those that follow are one number further on.
    | zero =>
      obtain rfl : next.1 = call := by simpa using at'
      have part : IsPart original messageIds seqNo (!next.2.isEmpty) next.1 :=
        createNextPayload_isPart
      have others :
          0 < (createPayloads dump original maxSize messageIds (seqNo + 1) next.2).length :=
        createPayloads_length_pos
      have left : next.2.isEmpty = false := by simpa using more
      simpa [left, others] using part
    | succ i =>
      have part := ih i call (by simpa using at')
      have number : seqNo + 1 + i = seqNo + (i + 1) := by omega
      simpa only [number, List.length_cons, Nat.add_lt_add_iff_right] using part

/-- The parts carry the data in its order, and nothing else. -/
theorem createPayloads_data :
    (createPayloads dump original maxSize messageIds seqNo data).flatMap (·.data) = data := by
  -- Each round takes its part from the front of what is left.
  fun_induction createPayloads dump original maxSize messageIds seqNo data with
  | case1 seqNo data next finished =>
    have all : next.1.data ++ next.2 = data := createNextReportData_append _
    simpa [finished] using all
  | case2 seqNo data next more ih =>
    have all : next.1.data ++ next.2 = data := createNextReportData_append _
    simpa [ih] using all

/-- No part is sent without data, unless there is none at all. -/
theorem createPayloads_ne_nil (some_data : data ≠ []) :
    ∀ call ∈ createPayloads dump original maxSize messageIds seqNo data, call.data ≠ [] := by
  -- What is left in each round is not empty.
  fun_induction createPayloads dump original maxSize messageIds seqNo data with
  | case1 seqNo data next finished =>
    intro call member
    obtain rfl := List.mem_singleton.mp member
    exact createNextReportData_ne_nil _ some_data
  | case2 seqNo data next more ih =>
    intro call member
    rcases List.mem_cons.mp member with rfl | later
    · exact createNextReportData_ne_nil _ some_data
    · exact ih more call later

/-- A part with several pieces of data fits, but for the digits of its number. -/
theorem createNextPayload_size {call : NotifyReportCall δ}
    (next : call = (createNextPayload dump original maxSize seqNo data messageId).1) :
    call.data.length ≤ 1 ∨
      (call.text dump).utf8ByteSize + 1 + (if call.request.tbc = some true then 1 else 0) ≤
        maxSize + (toString call.request.seqNo).utf8ByteSize := by
  -- The bound on the data is carried over to the text by the size of the skeleton.
  have remaining := @createNextReportData_fits _ dump data
    (maxSize - (jsonSkeletonSize dump original + messageId.utf8ByteSize))
  refine remaining.imp (fun one => by subst next; exact one) fun fits => ?_
  have withData : call.request.reportData = some call.data := by subst next; rfl
  obtain ⟨tbc, withTbc⟩ : ∃ tbc, call.request.tbc = some tbc := by
    subst next
    exact ⟨_, rfl⟩
  have skeleton : jsonSkeletonSize dump call.request = jsonSkeletonSize dump original := by
    subst next
    rfl
  have same : call.messageId = messageId := by subst next; rfl
  have size := @text_size _ dump _ _ _ withData withTbc
  have array : (dumpArray (call.data.map dump)).utf8ByteSize ≤
      maxSize - (jsonSkeletonSize dump original + messageId.utf8ByteSize) := by
    subst next
    exact fits
  -- There is room for the brackets, so that there was room for the skeleton.
  have brackets : 0 < (dumpArray (call.data.map dump)).utf8ByteSize := by
    simp only [dumpArray, String.utf8ByteSize_append]
    have : "[".utf8ByteSize = 1 := rfl
    omega
  rw [skeleton, same] at size
  simp only [withTbc, Option.some.injEq]
  omega

/-- A part with several pieces of data fits, but for the digits of its number. -/
theorem createPayloads_size :
    ∀ call ∈ createPayloads dump original maxSize messageIds seqNo data, call.data.length ≤ 1 ∨
      (call.text dump).utf8ByteSize + 1 + (if call.request.tbc = some true then 1 else 0) ≤
        maxSize + (toString call.request.seqNo).utf8ByteSize := by
  fun_induction createPayloads dump original maxSize messageIds seqNo data with
  | case1 seqNo data next finished =>
    intro call member
    exact createNextPayload_size (List.mem_singleton.mp member)
  | case2 seqNo data next more ih =>
    intro call member
    rcases List.mem_cons.mp member with first | later
    · exact createNextPayload_size first
    · exact ih call later

/-- The loop stops after its first round if that takes everything, which is then all in one part. -/
theorem createPayloads_eq_singleton (call : NotifyReportCall δ)
    (plain : call = ⟨messageIds seqNo,
      { original.template with reportData := some data, tbc := some false, seqNo }⟩) :
    createPayloads dump original maxSize messageIds seqNo data = [call] ↔
      (createNextPayload dump original maxSize seqNo data (messageIds seqNo)).2 = [] := by
  unfold createPayloads
  simp only
  -- The loop ends in its first round or goes on, and then there are more parts than one.
  split
  · rename_i finished
    have left : (createNextReportData dump (maxSize - (jsonSkeletonSize dump original +
        (messageIds seqNo).utf8ByteSize)) data).2 = [] := finished
    have taken := @createNextReportData_append _ dump data
      (maxSize - (jsonSkeletonSize dump original + (messageIds seqNo).utf8ByteSize))
    rw [left, List.append_nil] at taken
    simp [createNextPayload, plain, left, taken]
  · rename_i more
    have others := @createPayloads_length_pos _ dump original maxSize messageIds (seqNo + 1)
      (createNextPayload dump original maxSize seqNo data (messageIds seqNo)).2
    have longer := List.length_pos_iff.mp others
    simp [more, longer]

/-- Everything is taken in the first round exactly if there is room for all of it. -/
theorem createNextPayload_all (several : 1 < data.length) :
    (createNextPayload dump original maxSize seqNo data messageId).2 = [] ↔
      jsonSkeletonSize dump original + messageId.utf8ByteSize +
        (dumpArray (data.map dump)).utf8ByteSize ≤ maxSize := by
  -- There are two pieces at least, so that the test decides about the second one.
  match data, several with
  | first :: second :: rest, _ =>
    have left : (createNextPayload dump original maxSize seqNo (first :: second :: rest)
        messageId).2 = (takeMore dump
          (maxSize - (jsonSkeletonSize dump original + messageId.utf8ByteSize))
          (dumpArray [dump first]).utf8ByteSize (second :: rest)).2 := rfl
    have positive : 0 < (dumpArray [dump first]).utf8ByteSize := by
      have : "[".utf8ByteSize = 1 := rfl
      simp only [dumpArray, String.utf8ByteSize_append]
      omega
    rw [left, takeMore_all, dumpArray_size]
    simp only [reduceCtorEq, false_or]
    omega

end Parts

section Report

variable {δ : Type} (dump : δ → String) (requestId : ℤ) (generatedAt : String)
  (reportData : List δ) (maxMessageSize : ℕ) (messageIds : ℕ → String)

/-- The request for a whole report. -/
def wholeReport : NotifyReportRequest δ :=
  { requestId, generatedAt, reportData := some reportData, tbc := some false }

/-- The calls carry all of the data of a report and are its parts, none of them without data. -/
structure Splits (original : NotifyReportRequest δ) (messageIds : ℕ → String) (data : List δ)
    (calls : List (NotifyReportCall δ)) : Prop where
  complete : calls.flatMap (·.data) = data
  parts : ∀ i call, calls[i]? = some call →
    IsPart original messageIds i (i + 1 < calls.length) call
  filled : data ≠ [] → ∀ call ∈ calls, call.data ≠ []

/--
The calls for a report carry all of its data in its order, and nothing else.

They are numbered from zero, all but the last one announce another one, and none is without data
unless the report is.
-/
theorem report_split :
    Splits (wholeReport requestId generatedAt reportData) messageIds reportData
      (notifyReportReq dump requestId generatedAt reportData maxMessageSize messageIds) := by
  -- A report of one piece is a single call, and the others are divided by the loop.
  by_cases few : reportData.length ≤ 1
  · have single : notifyReportReq dump requestId generatedAt reportData maxMessageSize messageIds =
        [⟨messageIds 0, wholeReport requestId generatedAt reportData⟩] := if_pos few
    rw [single]
    refine ⟨by simp [NotifyReportCall.data, wholeReport], fun i call at' => ?_, fun some_data => ?_⟩
    · cases i with
      | zero =>
        obtain rfl : _ = call := by simpa using at'
        exact ⟨rfl, rfl, rfl, rfl, rfl, rfl⟩
      | succ i => simp at at'
    · simpa [NotifyReportCall.data, wholeReport] using some_data
  · have several : notifyReportReq dump requestId generatedAt reportData maxMessageSize messageIds =
        createPayloads dump (wholeReport requestId generatedAt reportData)
          maxMessageSize messageIds 0 reportData := if_neg few
    rw [several]
    refine ⟨createPayloads_data, fun i call at' => ?_, createPayloads_ne_nil⟩
    simpa using createPayloads_parts i call at'

/-- A report is sent as it is exactly if it is not too long, or is of no more than one piece. -/
theorem report_not_split_iff :
    notifyReportReq dump requestId generatedAt reportData maxMessageSize messageIds =
      [⟨messageIds 0, wholeReport requestId generatedAt reportData⟩] ↔
    reportData.length ≤ 1 ∨ (NotifyReportCall.text dump ⟨messageIds 0,
      wholeReport requestId generatedAt reportData⟩).utf8ByteSize ≤ maxMessageSize := by
  by_cases few : reportData.length ≤ 1
  · simp [notifyReportReq, wholeReport, few]
  · have several : notifyReportReq dump requestId generatedAt reportData maxMessageSize messageIds =
        createPayloads dump (wholeReport requestId generatedAt reportData)
          maxMessageSize messageIds 0 reportData := if_neg few
    have single := @createPayloads_eq_singleton _ dump
      (wholeReport requestId generatedAt reportData) maxMessageSize messageIds 0 reportData
      ⟨messageIds 0, wholeReport requestId generatedAt reportData⟩ rfl
    have size := @text_size _ dump ⟨messageIds 0, wholeReport requestId generatedAt reportData⟩
      reportData false rfl rfl
    have digit : (toString (wholeReport requestId generatedAt reportData).seqNo).utf8ByteSize = 1 :=
      show (toString 0).utf8ByteSize = 1 by decide +kernel
    -- The loop makes one call if that takes everything, which is if the sizes fit.
    rw [several, single, createNextPayload_all (by omega)]
    simp only [few, false_or, Bool.false_eq_true, if_false, digit] at size ⊢
    omega

/--
A call with several pieces of data is not too long, as long as its number has a single digit.

The size is reckoned with a number of one digit and a last part, whose text is one byte longer.
-/
theorem report_size :
    ∀ call ∈ notifyReportReq dump requestId generatedAt reportData maxMessageSize messageIds,
      call.data.length ≤ 1 ∨
      (call.text dump).utf8ByteSize + 1 + (if call.request.tbc = some true then 1 else 0) ≤
        maxMessageSize + (toString call.request.seqNo).utf8ByteSize := by
  intro call member
  -- A single piece may have any size.
  by_cases few : reportData.length ≤ 1
  · have single : notifyReportReq dump requestId generatedAt reportData maxMessageSize messageIds =
        [⟨messageIds 0, wholeReport requestId generatedAt reportData⟩] := if_pos few
    rw [single] at member
    obtain rfl := List.mem_singleton.mp member
    exact .inl few
  · have several : notifyReportReq dump requestId generatedAt reportData maxMessageSize messageIds =
        createPayloads dump (wholeReport requestId generatedAt reportData)
          maxMessageSize messageIds 0 reportData := if_neg few
    rw [several] at member
    exact createPayloads_size call member

/-- Four pieces go out two by two, in calls that are not too long. -/
theorem report_size_two : ∃ call ∈ notifyReportReq (fun _ : Unit => "1") 0 ""
    (List.replicate 4 ()) 95 (fun _ => ""),
    call.data.length = 2 ∧ (call.text fun _ => "1").utf8ByteSize ≤ 95 := by
  obtain ⟨call, member, two, first⟩ : ∃ call ∈ notifyReportReq (fun _ : Unit => "1") 0 ""
      (List.replicate 4 ()) 95 (fun _ => ""),
      call.data.length = 2 ∧ (toString call.request.seqNo).utf8ByteSize = 1 := by
    decide +kernel
  have fits := (report_size _ _ _ _ _ _ call member).resolve_left (by omega)
  exact ⟨call, member, two, by omega⟩

/-- The eleventh part of a report is one byte too long, since its number has two digits. -/
theorem report_too_long : ∃ call ∈ notifyReportReq (fun _ : Unit => "1") 0 ""
    (List.replicate 22 ()) 95 (fun _ => ""),
    call.data.length = 2 ∧ 95 < (call.text fun _ => "1").utf8ByteSize := by
  decide +kernel

end Report

end EasyEvse.Provisioning
