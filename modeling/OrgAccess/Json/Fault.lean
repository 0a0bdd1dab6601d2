import OrgAccess.Number.Shortest
import OrgAccess.Text.Quoted

/-!
# Why a JSON text is refused

A text is malformed when it is no JSON at all, and mismatched when it is JSON of another shape
than asked for. A refusal may know the member or the item of the outermost value where it arose.
-/

namespace OrgAccess.Json

/-- A fault of the JSON notation. -/
inductive Malformation where
  | endInValue
  | endInString
  | endInList
  | endInObject
  | expectedColon
  | expectedCommaOrListEnd
  | expectedCommaOrObjectEnd
  | expectedWord
  | expectedValue
  | invalidEscape
  | invalidNumber
  | numberTooLarge
  | invalidCharacter
  | controlCharacter
  | keyNotString
  | loneSurrogate
  | halfSurrogatePair
  | trailingComma
  | trailingCharacters
  | nestedTooDeep
deriving DecidableEq

/-- How a fault in the form of a text reads. -/
def Malformation.message : Malformation → String
  | endInValue => "EOF while parsing a value"
  | endInString => "EOF while parsing a string"
  | endInList => "EOF while parsing a list"
  | endInObject => "EOF while parsing an object"
  | expectedColon => "expected `:`"
  | expectedCommaOrListEnd => "expected `,` or `]`"
  | expectedCommaOrObjectEnd => "expected `,` or `\x7d`"
  | expectedWord => "expected ident"
  | expectedValue => "expected value"
  | invalidEscape => "invalid escape"
  | invalidNumber => "invalid number"
  | numberTooLarge => "number out of range"
  | invalidCharacter => "invalid unicode code point"
  | controlCharacter => "control character (\\u0000-\\u001F) found while parsing a string"
  | keyNotString => "key must be a string"
  | loneSurrogate => "lone leading surrogate in hex escape"
  | halfSurrogatePair => "unexpected end of hex escape"
  | trailingComma => "trailing comma"
  | trailingCharacters => "trailing characters"
  | nestedTooDeep => "recursion limit exceeded"

/-- A number of a JSON text as it can be held. -/
inductive Number where
  /-- A whole number from zero up, below `2 ^ 64`. -/
  | natural (value : Nat)
  /-- A whole number below zero, with `value` its magnitude, not above `2 ^ 63`. -/
  | negative (value : Nat)
  /-- Any other number. -/
  | decimal (isNegative : Bool) (magnitude : Binary64)
deriving DecidableEq

/-- What stands in a text where something else was asked for. -/
inductive Found where
  | null
  | boolean (value : Bool)
  | number (value : Number)
  | text (value : String)
  | list
  | object
deriving DecidableEq

/-- How a message tells what stands in the text. -/
def Found.describe : Found → String
  | null => "null"
  | boolean value => "boolean `" ++ (if value then "true" else "false") ++ "`"
  | number (.natural value) => "integer `" ++ toString value ++ "`"
  | number (.negative value) => "integer `-" ++ toString value ++ "`"
  | number (.decimal isNegative magnitude) =>
    "floating point `" ++ magnitude.text isNegative ++ "`"
  | text value => "string " ++ Text.quoted value
  | list => "sequence"
  | object => "map"

/-- A difference between the shape of a text and the shape asked for. -/
inductive Mismatch where
  /-- A value of another kind. -/
  | wrongKind (found : Found) (expected : String)
  /-- A value of the right kind that does not fit. -/
  | wrongValue (found : Found) (expected : String)
  /-- An array with too few items. -/
  | tooFewItems (count : Nat) (expected : String)
  /-- A name that is none of those known. -/
  | unknownName (name : String) (known : List String)
  /-- A member that has to be there is not. -/
  | missingField (key : String)
  /-- A member is there twice. -/
  | duplicateField (key : String)
  /-- A string that does not read as what it stands for. -/
  | unreadable (reason : String)
deriving DecidableEq

/-- How a message tells what could have stood there. -/
def describeChoices : List String → String
  | [] => "there are no variants"
  | [only] => "expected `" ++ only ++ "`"
  | [first, second] => "expected `" ++ first ++ "` or `" ++ second ++ "`"
  | names => "expected one of " ++ ", ".intercalate (names.map fun name => "`" ++ name ++ "`")

/-- How a message tells that a value is not what was expected. -/
def Mismatch.message : Mismatch → String
  | wrongKind found expected => "invalid type: " ++ found.describe ++ ", expected " ++ expected
  | wrongValue found expected => "invalid value: " ++ found.describe ++ ", expected " ++ expected
  | tooFewItems count expected =>
    "invalid length " ++ toString count ++ ", expected " ++ expected
  | unknownName name known => "unknown variant `" ++ name ++ "`, " ++ describeChoices known
  | missingField key => "missing field `" ++ key ++ "`"
  | duplicateField key => "duplicate field `" ++ key ++ "`"
  | unreadable reason => reason

/-- Why a text is refused. -/
inductive Fault where
  /-- It is no JSON. -/
  | malformed (malformation : Malformation)
  /-- It is JSON of another shape. -/
  | mismatched (mismatch : Mismatch)
deriving DecidableEq

/-- How a message tells a fault of either kind. -/
def Fault.message : Fault → String
  | malformed malformation => malformation.message
  | mismatched mismatch => mismatch.message

/-- Where inside the outermost value something is wrong. -/
inductive Place where
  /-- In the member with this key. -/
  | member (key : String)
  /-- In the item at this position. -/
  | item (index : Nat)
deriving DecidableEq

/-- How a message names a place. -/
def Place.describe : Place → String
  | member key => key
  | item index => "[" ++ toString index ++ "]"

/-- A fault with the place where it arose, if that is inside the outermost value. -/
structure Refusal where
  /-- The member or the item at fault. -/
  place : Option Place
  /-- What is wrong. -/
  fault : Fault
deriving DecidableEq

/-- The text of a refusal without its place. -/
def Refusal.message (refusal : Refusal) : String :=
  refusal.fault.message

/-- What was refused, with its place before it. -/
def Refusal.placedMessage (refusal : Refusal) : String :=
  match refusal.place with
  | some place => place.describe ++ ": " ++ refusal.fault.message
  | none => refusal.fault.message

end OrgAccess.Json
