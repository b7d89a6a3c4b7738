import Mathlib.Algebra.Group.Nat.Defs
import Mathlib.Data.Rat.Init
import Mathlib.Data.Int.Notation

/-! The values that a message of the management system is parsed to, and how they are read. -/

namespace EasyEvse.Csms

/-- The exceptions that are told apart where they are caught, with the text each one tells. -/
inductive Exception
  | json (what : String)
  | stringConversion (what : String)
  | enumConversion (what : String)
  | malformedRpcMessage (what : String)
  | evseOutOfRange (what : String)
  | connectorOutOfRange (what : String)
  | timePointParse (what : String)
  | deviceModelError (what : String)
  | messageTypeNotImplemented (what : String)
  -- Any other exception, which no handler names.
  | other (what : String)
  deriving DecidableEq, Repr

/-- A value of a parsed document, with the members of an object under distinct keys. -/
inductive Json
  | null
  | boolean (value : Bool)
  | number (value : ℚ)
  | string (value : String)
  | array (elements : List Json)
  | object (members : List (String × Json))

namespace Json

/-- The word for the type of a value in the text of an exception. -/
def typeName : Json → String
  | .null => "null"
  | .boolean _ => "boolean"
  | .number _ => "number"
  | .string _ => "string"
  | .array _ => "array"
  | .object _ => "object"

/-- A value of the wrong type is converted. -/
def typeError (expected : String) (json : Json) : Exception :=
  .json ("[json.exception.type_error.302] type must be " ++ expected ++ ", but is " ++
    json.typeName)

/-- A value is looked into that has no elements or members. -/
def accessError (json : Json) : Exception :=
  .json ("[json.exception.type_error.304] cannot use at() with " ++ json.typeName)

/-- The elements of an array. -/
def getArray : Json → Except Exception (List Json)
  | .array elements => .ok elements
  | json => .error (typeError "array" json)

/-- The text of a string. -/
def getString : Json → Except Exception String
  | .string value => .ok value
  | json => .error (typeError "string" json)

/-- A number as the cast to 32 bits leaves it, with the truth values for one and zero. -/
def getInt : Json → Except Exception ℤ
  -- A number with a fraction is cut off towards zero.
  | .number value => .ok ((value.num.tdiv value.den).bmod (2 ^ 32))
  | .boolean value => .ok (if value then 1 else 0)
  | json => .error (typeError "number" json)

/-- The element at a place of an array. -/
def atIndex (idx : ℕ) : Json → Except Exception Json
  | .array elements =>
    match elements[idx]? with
    | some element => .ok element
    | none => .error (.json ("[json.exception.out_of_range.401] array index " ++ toString idx ++
        " is out of range"))
  | json => .error (accessError json)

/-- The member of an object under a key. -/
def atKey (key : String) : Json → Except Exception Json
  | .object members =>
    match members.lookup key with
    | some member => .ok member
    | none => .error (.json ("[json.exception.out_of_range.403] key '" ++ key ++ "' not found"))
  | json => .error (accessError json)

/-- An object has a member under a key, and nothing else has. -/
def contains (key : String) : Json → Bool
  | .object members => (members.lookup key).isSome
  | _ => false

/-- The member under a key as it is read, where there is one. -/
def atKey? {α : Type} (key : String) (read : Json → Except Exception α) (json : Json) :
    Except Exception (Option α) :=
  if json.contains key then do return some (← read (← json.atKey key)) else .ok none

end Json

/-- A text of at most the given number of bytes. -/
def ciString (length : ℕ) (data : String) : Except Exception String :=
  if length < data.utf8ByteSize then
    .error (.stringConversion ("String length (" ++ toString data.utf8ByteSize ++
      ") exceeds permitted length (" ++ toString length ++ ")"))
  else .ok data

/-- A text that names no value of an enumeration, as far as its first zero byte. -/
def stringToEnumException (str : String) (type : String) : Exception :=
  .enumConversion ("Provided string '" ++
    String.ofList (str.toList.takeWhile (· ≠ Char.ofNat 0)) ++
    "' could not be converted to " ++ type)

end EasyEvse.Csms
