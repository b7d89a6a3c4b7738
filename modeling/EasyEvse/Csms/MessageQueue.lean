import EasyEvse.Csms.MessageType

/-! How the message queue reads a received text, and pairs a result with the call it answers. -/

namespace EasyEvse.Csms

/-- The bytes of a received message. -/
abbrev Text := List UInt8

/-- The kind of a message, by the number that it begins with. -/
inductive MessageTypeId
  | call | callResult | callError | unknown
  deriving DecidableEq, Repr

/-- Where the identifier of a message stands in its array. -/
def messageId : ℕ := 1

/-- Where the action of a call stands in its array. -/
def callAction : ℕ := 2

/-- A message with what the queue found out about it. -/
structure EnhancedMessage where
  message : Json
  uniqueId : String
  messageType : MessageType := .internalError
  messageTypeId : MessageTypeId

/-- The call of the station that waits for its answer. -/
structure InFlight where
  uniqueId : String
  action : String
  deriving DecidableEq, Repr

/-- The identifier of a message, which is its second element. -/
def getMessageId (elements : List Json) : Except Exception String :=
  match elements with
  | _ :: id :: _ => do ciString 36 (← id.getString)
  | _ => .error (.malformedRpcMessage
      "Message has too few elements, could not get message id.")

/-- The kind of a message, which is its first element as a number. -/
def getMessageTypeId (elements : List Json) : MessageTypeId :=
  match elements with
  -- An integer and a number with a fraction compare by their values.
  | .number value :: _ =>
    if value = 2 then .call
    else if value = 3 then .callResult
    else if value = 4 then .callError
    else .unknown
  | _ => .unknown

/--
Reads a received text, and tells the message with the call that waits for an answer from then on.

A result carries no type of its own and takes the one that belongs to the waiting call.
-/
def receive (parse : Text → Except String Json) (inFlight : Option InFlight) (text : Text) :
    Except Exception (EnhancedMessage × Option InFlight) := do
  let message ← (parse text).mapError .json
  let elements ← message.getArray
  let uniqueId ← getMessageId elements
  let enhanced : EnhancedMessage :=
    { message, uniqueId, messageTypeId := getMessageTypeId elements }
  match enhanced.messageTypeId, inFlight with
  | .call, _ =>
    -- The action must be there, be a string, and name a type.
    let messageType ← stringToMessagetype (← (← message.atIndex callAction).getString)
    return ({ enhanced with messageType }, inFlight)
  | .callResult, some flight =>
    -- A result for another call than the waiting one is passed on as an internal error.
    if flight.uniqueId ≠ uniqueId then return (enhanced, inFlight)
    let messageType ← stringToMessagetype (flight.action ++ "Response")
    return ({ enhanced with messageType }, none)
  -- An error takes the waiting call away, and gets no type of its own.
  | .callError, some flight =>
    if flight.uniqueId ≠ uniqueId then return (enhanced, inFlight)
    return (enhanced, none)
  | _, _ => return (enhanced, inFlight)

end EasyEvse.Csms
