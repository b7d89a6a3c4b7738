import EasyEvse.Csms.MessageQueue

/-! What a text must be for the queue to read it, and which messages it becomes. -/

namespace EasyEvse.Csms

/-- The exceptions of the reading that are written to the log of messages. -/
def Exception.Logged : Exception → Prop
  | .json _ | .stringConversion _ => True
  | _ => False

/--
An array that is too short to be a message, or one that has an identifier where it belongs.

The identifier is a string of at most 36 bytes, and a call has another string for its action.
-/
def Framed (json : Json) : Prop :=
  ∃ elements, json = .array elements ∧ (2 ≤ elements.length →
    (∃ id, elements[messageId]? = some (.string id) ∧ id.utf8ByteSize ≤ 36) ∧
      (getMessageTypeId elements = .call →
        ∃ action, elements[callAction]? = some (.string action)))

/-- The type that a call names as its action. -/
def callType (json : Json) : Option MessageType :=
  match json with
  | .array (.number value :: _ :: .string action :: _) =>
    if value = 2 then (stringToMessagetype action).toOption else none
  | _ => none

section Elements

variable {elements : List Json} {id : String} {e : Exception}

/-- An array of fewer than two elements is no message, and no error of the library. -/
theorem getMessageId_short (short : elements.length < 2) :
    ∃ what, getMessageId elements = .error (.malformedRpcMessage what) := by
  match elements, short with
  | [], _ | [_], _ => exact ⟨_, rfl⟩

/-- A string of at most 36 bytes is read as the identifier. -/
theorem getMessageId_string (second : elements[messageId]? = some (.string id))
    (fits : id.utf8ByteSize ≤ 36) : getMessageId elements = .ok id := by
  match elements, second with
  | _ :: _ :: _, second =>
    -- The second element is the string that is looked at.
    obtain rfl : _ = Json.string id := by simpa [messageId] using second
    simp [getMessageId, Json.getString, ciString, Nat.not_lt.mpr fits, bind, Except.bind]

/-- Nothing else than such a string is read as the identifier of a long array. -/
theorem getMessageId_other (long : 2 ≤ elements.length)
    (other : ¬ ∃ id, elements[messageId]? = some (.string id) ∧ id.utf8ByteSize ≤ 36) :
    ∃ e, getMessageId elements = .error e ∧ e.Logged := by
  match elements, long with
  | _ :: second :: _, _ =>
    cases second with
    | string id =>
      -- A string can only be refused for its length.
      have long : 36 < id.utf8ByteSize := Nat.lt_of_not_le fun fits => other ⟨id, rfl, fits⟩
      exact ⟨.stringConversion _, by
        simp [getMessageId, Json.getString, ciString, long, bind, Except.bind]; rfl, trivial⟩
    -- Any other value has the wrong type.
    | _ => exact ⟨_, rfl, trivial⟩

/-- The first element of a call is the number two. -/
theorem first_of_call (call : getMessageTypeId elements = .call) :
    ∃ rest, elements = .number 2 :: rest := by
  unfold getMessageTypeId at call
  split at call
  case h_1 _ value rest =>
    by_cases two : value = 2
    · exact ⟨rest, by rw [two]⟩
    · -- Every other number stands for another kind of message.
      rw [if_neg two] at call
      split at call
      · cases call
      · split at call <;> cases call
  case h_2 => cases call

/-- A call with a string for its action has the type of which that string is the name. -/
theorem callType_call {action : String} (call : getMessageTypeId elements = .call)
    (third : elements[callAction]? = some (.string action)) :
    callType (.array elements) = (stringToMessagetype action).toOption := by
  obtain ⟨rest, rfl⟩ := first_of_call call
  -- Behind the number and the identifier stands the action.
  match rest, third with
  | _ :: _ :: _, third =>
    obtain rfl : _ = Json.string action := by simpa [callAction] using third
    rfl

/-- An array that is too short to be a message names no type. -/
theorem callType_short (short : elements.length < 2) : callType (.array elements) = none := by
  match elements, short with
  | [], _ => rfl
  | [first], _ => cases first <;> rfl

/-- What is no call names no type as its action. -/
theorem callType_other (other : getMessageTypeId elements ≠ .call) :
    callType (.array elements) = none := by
  unfold callType
  split
  case h_1 _ value _ action _ same =>
    obtain rfl := Json.array.inj same
    -- A first element of two would have made the message a call.
    have differs : value ≠ 2 := by
      intro two
      exact other (by simp [getMessageTypeId, two])
    simp [differs]
  case h_2 => rfl

end Elements

/-- The types that ask the station to act on a transaction, a connector or a message. -/
def remoteControl : List MessageType :=
  [.requestStartTransaction, .requestStopTransaction, .unlockConnector, .triggerMessage]

/-- The type of a result asks the station for nothing of the kind. -/
theorem response_not_remoteControl {action : String} {m : MessageType}
    (named : stringToMessagetype (action ++ "Response") = .ok m) : m ∉ remoteControl := by
  -- The text is one of the names, whichever type it names.
  have entry := mem_of_stringToMessagetype named
  -- None of the names of these types ends as the name of a result does.
  have names : ∀ entry ∈ messageTypeNames, entry.2 ∈ remoteControl →
      ¬ "Response".toList <:+ entry.1.toList := by decide +kernel
  intro remote
  exact names _ entry remote (by simp [String.toList_append])

/-- A text that names no message type fails with an exception of its own. -/
theorem stringToMessagetype_error {s : String} {e : Exception}
    (failed : stringToMessagetype s = .error e) : ¬ e.Logged := by
  unfold stringToMessagetype at failed
  split at failed
  · cases failed
  · obtain rfl := Except.error.inj failed
    exact id

section Receive

variable {parse : Text → Except String Json} {inFlight : Option InFlight} {text : Text}
  {elements : List Json} {json : Json} {messageType : MessageType} {id action : String}
  {e : Exception}

/-- A text that is parsed has no exception to be told as another one. -/
theorem mapError_parsed (parsed : parse text = .ok json) :
    (parse text).mapError Exception.json = .ok json := by
  rw [parsed]
  rfl

/-- A text that is not parsed fails with the exception of the library. -/
theorem receive_unparsed {what : String} (failed : parse text = .error what) :
    receive parse inFlight text = .error (.json what) := by
  rw [receive, failed]
  rfl

/-- A document without an identifier in its place fails as the reading of the identifier does. -/
theorem receive_unidentified (parsed : parse text = .ok (.array elements))
    (failed : getMessageId elements = .error e) : receive parse inFlight text = .error e := by
  simp [receive, mapError_parsed parsed, failed, Json.getArray, bind, Except.bind]

/-- A call gets the type that its action names, and leaves the waiting call alone. -/
theorem receive_call (parsed : parse text = .ok (.array elements))
    (identified : getMessageId elements = .ok id)
    (call : getMessageTypeId elements = .call)
    (third : elements[callAction]? = some (.string action)) :
    receive parse inFlight text = (stringToMessagetype action).map fun messageType =>
      (⟨.array elements, id, messageType, .call⟩, inFlight) := by
  cases named : stringToMessagetype action <;>
    simp [receive, mapError_parsed parsed, identified, call, third, named, Json.getArray,
      Json.atIndex, Json.getString, Except.map, bind, Except.bind, pure, Except.pure]

/-- An element that is no string fails to be read as one. -/
theorem atIndex_string_error {idx : ℕ}
    (other : ∀ text, elements[idx]? ≠ some (.string text)) :
    ∃ e, ((Json.array elements).atIndex idx >>= Json.getString) = .error e ∧ e.Logged := by
  cases element : elements[idx]? with
  -- A missing element is out of range, and one of another kind has the wrong type.
  | none => exact ⟨.json _, by simp only [Json.atIndex, element]; rfl, trivial⟩
  | some json =>
    cases json with
    | string text => exact (other text element).elim
    | _ => exact ⟨.json _, by simp only [Json.atIndex, element]; rfl, trivial⟩

/-- A call without a string for its action fails in a way that is written to the log. -/
theorem receive_actionless (parsed : parse text = .ok (.array elements))
    (identified : getMessageId elements = .ok id)
    (call : getMessageTypeId elements = .call)
    (actionless : ∀ action, elements[callAction]? ≠ some (.string action)) :
    ∃ e, receive parse inFlight text = .error e ∧ e.Logged := by
  obtain ⟨e, failed, logged⟩ := atIndex_string_error actionless
  refine ⟨e, ?_, logged⟩
  -- The reading of the action is the first thing that fails.
  have reading : ∀ rest : String → Except Exception (EnhancedMessage × Option InFlight),
      (((Json.array elements).atIndex callAction >>= Json.getString) >>= rest) = .error e :=
    fun rest => by rw [failed]; rfl
  simp only [bind_assoc] at reading
  simpa [receive, mapError_parsed parsed, identified, call, Json.getArray, bind, Except.bind]
    using reading _

/-- A result for the waiting call gets the type of the results of such calls. -/
theorem receive_result {flight : InFlight} (parsed : parse text = .ok (.array elements))
    (identified : getMessageId elements = .ok id)
    (result : getMessageTypeId elements = .callResult) (awaited : flight.uniqueId = id) :
    receive parse (some flight) text =
      (stringToMessagetype (flight.action ++ "Response")).map fun messageType =>
        (⟨.array elements, id, messageType, .callResult⟩, none) := by
  cases named : stringToMessagetype (flight.action ++ "Response") <;>
    simp [receive, mapError_parsed parsed, identified, result, awaited, named, Json.getArray,
      Except.map, bind, Except.bind, pure, Except.pure]

/-- Every other message than a call or an awaited result keeps the default type. -/
theorem receive_plain (parsed : parse text = .ok (.array elements))
    (identified : getMessageId elements = .ok id)
    (other : getMessageTypeId elements ≠ .call)
    (unawaited : getMessageTypeId elements = .callResult →
      ∀ flight, inFlight = some flight → flight.uniqueId ≠ id) :
    ∃ next, receive parse inFlight text =
      .ok (⟨.array elements, id, .internalError, getMessageTypeId elements⟩, next) := by
  -- Only an error for the waiting call changes which call waits.
  cases kind : getMessageTypeId elements with
  | call => exact (other kind).elim
  | unknown =>
    refine ⟨inFlight, ?_⟩
    simp [receive, mapError_parsed parsed, identified, kind, Json.getArray, bind, Except.bind,
      pure, Except.pure]
  | callResult =>
    refine ⟨inFlight, ?_⟩
    cases inFlight with
    | none =>
      simp [receive, mapError_parsed parsed, identified, kind, Json.getArray, bind, Except.bind,
        pure, Except.pure]
    | some flight =>
      have unawaited := unawaited kind flight rfl
      simp [receive, mapError_parsed parsed, identified, kind, unawaited, Json.getArray, bind,
        Except.bind, pure, Except.pure]
  | callError =>
    cases inFlight with
    | none =>
      refine ⟨none, ?_⟩
      simp [receive, mapError_parsed parsed, identified, kind, Json.getArray, bind, Except.bind,
        pure, Except.pure]
    | some flight =>
      -- An error that answers the waiting call takes it away.
      refine ⟨if flight.uniqueId = id then none else some flight, ?_⟩
      by_cases awaited : flight.uniqueId = id <;>
        simp [receive, mapError_parsed parsed, identified, kind, awaited, Json.getArray, bind,
          Except.bind, pure, Except.pure]

/-- A text that is no framed document fails in a way that is written to the log. -/
theorem receive_unframed (inFlight : Option InFlight)
    (unframed : ¬ ∃ json, parse text = .ok json ∧ Framed json) :
    ∃ e, receive parse inFlight text = .error e ∧ e.Logged := by
  cases parsed : parse text with
  | error what => exact ⟨.json what, receive_unparsed parsed, trivial⟩
  | ok json =>
    have unframed : ¬ Framed json := fun framed => unframed ⟨json, parsed, framed⟩
    cases json with
    | array elements =>
      have long : 2 ≤ elements.length := by
        -- A short array is framed, whatever stands in it.
        by_cases short : elements.length < 2
        · exact (unframed ⟨elements, rfl, fun long => by omega⟩).elim
        · omega
      by_cases framing :
          ∃ id, elements[messageId]? = some (.string id) ∧ id.utf8ByteSize ≤ 36
      · -- With the identifier in place it is the action of a call that is missing.
        obtain ⟨id, second, fits⟩ := framing
        have acting : ¬ (getMessageTypeId elements = .call →
            ∃ action, elements[callAction]? = some (.string action)) := fun acting =>
          unframed ⟨elements, rfl, fun _ => ⟨⟨id, second, fits⟩, acting⟩⟩
        obtain ⟨call, actionless⟩ := Classical.not_imp.mp acting
        exact receive_actionless parsed (getMessageId_string second fits) call
          (not_exists.mp actionless)
      · obtain ⟨e, failed, logged⟩ := getMessageId_other long framing
        exact ⟨e, receive_unidentified parsed failed, logged⟩
    | _ => exact ⟨.json _, by simp only [receive, parsed]; rfl, trivial⟩

/--
A framed document fails in no way that is written to the log.

Only a call can get a type that asks for remote control, and it names that type itself.
-/
theorem receive_framed (inFlight : Option InFlight) (parsed : parse text = .ok json)
    (framed : Framed json) :
    (∃ e, receive parse inFlight text = .error e ∧ ¬ e.Logged ∧ callType json = none) ∨
      ∃ message next, receive parse inFlight text = .ok (message, next) ∧
        message.message = json ∧
        (callType json = some message.messageType ∧ message.messageTypeId = .call ∨
          callType json = none ∧ message.messageType ∉ remoteControl) := by
  obtain ⟨elements, rfl, frame⟩ := framed
  by_cases short : elements.length < 2
  · -- A short array is refused as malformed.
    obtain ⟨what, malformed⟩ := getMessageId_short short
    exact .inl ⟨_, receive_unidentified parsed malformed, id, callType_short short⟩
  · obtain ⟨⟨id, second, fits⟩, acting⟩ := frame (Nat.le_of_not_lt short)
    have identified := getMessageId_string second fits
    by_cases call : getMessageTypeId elements = .call
    · -- A call has the type that its action names, if it names one.
      obtain ⟨action, third⟩ := acting call
      have received : receive parse inFlight text = _ := receive_call parsed identified call third
      have type := callType_call call third
      cases named : stringToMessagetype action with
      | error e =>
        rw [named] at received type
        exact .inl ⟨e, received, stringToMessagetype_error named, type⟩
      | ok messageType =>
        rw [named] at received type
        exact .inr ⟨_, _, received, rfl, .inl ⟨type, rfl⟩⟩
    · have typeless := callType_other call
      by_cases awaited : getMessageTypeId elements = .callResult ∧
          ∃ flight, inFlight = some flight ∧ flight.uniqueId = id
      · -- An awaited result has the type of the results of the waiting call, if there is one.
        obtain ⟨result, flight, rfl, same⟩ := awaited
        have received := receive_result parsed identified result same
        cases named : stringToMessagetype (flight.action ++ "Response") with
        | error e =>
          rw [named] at received
          exact .inl ⟨e, received, stringToMessagetype_error named, typeless⟩
        | ok messageType =>
          rw [named] at received
          exact .inr ⟨_, _, received, rfl, .inr ⟨typeless, response_not_remoteControl named⟩⟩
      · -- What is left is passed on with the default type.
        obtain ⟨next, received⟩ := receive_plain parsed identified call
          fun result flight waiting same => awaited ⟨result, flight, waiting, same⟩
        have default : MessageType.internalError ∉ remoteControl := by decide
        exact .inr ⟨_, _, received, rfl, .inr ⟨typeless, default⟩⟩

end Receive

end EasyEvse.Csms
