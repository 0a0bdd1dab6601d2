import OrgAccess.Encoding.Base64
import OrgAccess.Text.Decimal
import OrgAccess.Text.Fields
import OrgAccess.Text.Utf8

/-!
# Stored form of a password hash

A hash is stored as fields after dollar signs: the name of the algorithm, an optional version, an
optional list of parameters, an optional salt and an optional output. `PasswordHash.text` writes
the form and `PasswordHash.ofText?` reads it, refusing with the first fault from the left.
-/

namespace OrgAccess

/-- What is wrong with one value of a stored hash. -/
inductive ValueFault where
  /-- Fewer characters or a smaller number than allowed. -/
  | tooShort
  /-- More characters or a larger number than allowed. -/
  | tooLong
  /-- A character that may not occur. -/
  | invalidCharacter (character : Char)
  /-- A number with a leading zero or beyond 32 bits. -/
  | invalidFormat
  /-- No value, or more than one. -/
  | malformed
deriving DecidableEq

/-- How the fault of a value reads. -/
def ValueFault.message : ValueFault → String
  | tooShort => "value to short"
  | tooLong => "value to long"
  | invalidCharacter character =>
    "contains invalid character: '" ++ String.singleton character ++ "'"
  | invalidFormat => "value format is invalid"
  | malformed => "value malformed"

/-- Why a stored hash cannot be read or used. -/
inductive HashFault where
  /-- A field that has to be there is not. -/
  | missingField
  /-- A name with a character that may not occur, or of a wrong length, or not known. -/
  | invalidName
  /-- The list of parameters is too long. -/
  | tooManyParameters
  /-- A parameter has a wrong value. -/
  | parameter (fault : ValueFault)
  /-- The salt is wrong. -/
  | salt (fault : ValueFault)
  /-- A field is not base64. -/
  | encoding
  /-- A base64 field has too many bytes. -/
  | encodingLength
  /-- The output has fewer bytes than allowed. -/
  | outputTooShort (least : Nat)
  /-- There are more fields than expected. -/
  | trailingData
  /-- The algorithm is not known. -/
  | unknownAlgorithm
  /-- The version of the algorithm is not known. -/
  | unknownVersion
deriving DecidableEq

/-- How a message tells why a text is no hash. -/
def HashFault.message : HashFault → String
  | missingField => "password hash string missing field"
  | invalidName => "invalid parameter name"
  | tooManyParameters => "maximum number of parameters reached"
  | parameter fault => "invalid parameter value: " ++ fault.message
  | salt fault => "salt invalid: " ++ fault.message
  | encoding => "invalid Base64 encoding"
  | encodingLength => "invalid Base64 length"
  | outputTooShort least =>
    "output size too short, expected at least " ++ toString least ++ " bytes"
  | trailingData => "password hash string contains trailing characters"
  | unknownAlgorithm => "unsupported algorithm"
  | unknownVersion => "invalid algorithm version"

/-- A stored password hash, field by field. -/
structure PasswordHash where
  /-- The name of the algorithm. -/
  algorithm : List Char
  /-- The version of the algorithm. -/
  version : Option Nat
  /-- The parameters in the order in which they are written. -/
  parameters : List (List Char × List Char)
  /-- The salt as it is written. -/
  salt : Option (List Char)
  /-- The output of the algorithm. -/
  output : Option (List UInt8)
deriving DecidableEq

namespace PasswordHash

/-- Whether a character may stand in the name of an algorithm or a parameter. -/
def isNameCharacter (character : Char) : Bool :=
  ('a' ≤ character && character ≤ 'z') || Text.isDigit character || character == '-'

/-- Whether a character may stand in a value. -/
def isValueCharacter (character : Char) : Bool :=
  ('a' ≤ character && character ≤ 'z') || ('A' ≤ character && character ≤ 'Z') ||
    Text.isDigit character || character == '/' || character == '+' || character == '.' ||
    character == '-'

/-- Refuses a text that is no name. -/
def checkName (name : List Char) : Except HashFault Unit :=
  if name ≠ [] ∧ Text.byteCount name ≤ 32 ∧ name.all isNameCharacter then .ok ()
  else .error .invalidName

/-- Refuses a text that is no value. -/
def checkValue (value : List Char) : Except ValueFault Unit :=
  if Text.byteCount value > 64 then .error .tooLong
  else match value.find? fun character => !isValueCharacter character with
    | some character => .error (.invalidCharacter character)
    | none => .ok ()

/-- The number that a value writes in decimal, below 2^32 and without leading zeros. -/
def decimal (value : List Char) : Except ValueFault Nat :=
  if value = [] then .error .malformed
  else match value.find? fun character => !Text.isDigit character with
    | some character => .error (.invalidCharacter character)
    | none =>
      if value.head? = some '0' ∧ value.length > 1 then .error .invalidFormat
      else if Text.decimalValue value < 0x100000000 then .ok (Text.decimalValue value)
      else .error .invalidFormat

/-- The bytes of a base64 field that may hold at most `limit` of them. -/
def decodeField (limit : Nat) (field : List Char) : Except HashFault (List UInt8) :=
  if Text.byteCount field * 3 / 4 > limit then .error .encodingLength
  else match Base64.decode? .standard field with
    | some bytes => .ok bytes
    | none => .error .encoding

/-- One parameter: a name and a value with an equals sign between them. -/
def readParameter (text : List Char) : Except HashFault (List Char × List Char) :=
  match Text.fields '=' text with
  | name :: more => do
    checkName name
    match more with
    | [] => .error (.parameter .malformed)
    | value :: rest =>
      (checkValue value).mapError .parameter
      if rest.isEmpty then .ok (name, value) else .error (.parameter .malformed)
  | [] => .error .invalidName

/-- Reads the parameters of a hash, which commas part. -/
def readParameters (field : List Char) : Except HashFault (List (List Char × List Char)) :=
  if Text.byteCount field > 127 then .error .tooManyParameters
  else (Text.fields ',' field).mapM readParameter

/-- A salt field of 4 to 64 characters that may occur in a value. -/
def readSalt (field : List Char) : Except HashFault (List Char) := do
  if Text.byteCount field < 4 then throw (.salt .tooShort)
  if Text.byteCount field > 64 then throw (.salt .tooLong)
  (checkValue field).mapError .salt
  return field

/-- Reads the bytes of a hash, which must not be too few. -/
def readOutput (field : List Char) : Except HashFault (List UInt8) := do
  let bytes ← decodeField 64 field
  if bytes.length < 10 then throw (.outputTooShort 10)
  return bytes

/-- The version, if the next field gives one; a version field holds no comma. -/
def takeVersion : List (List Char) → Except HashFault (Option Nat × List (List Char))
  | ('v' :: '=' :: digits) :: rest =>
    if ',' ∈ digits then .ok (none, ('v' :: '=' :: digits) :: rest)
    else do
      (checkValue digits).mapError .parameter
      let version ← (decimal digits).mapError .parameter
      .ok (some version, rest)
  | fields => .ok (none, fields)

/-- The parameters, if the next field gives them; only they hold an equals sign. -/
def takeParameters :
    List (List Char) → Except HashFault (List (List Char × List Char) × List (List Char))
  | field :: rest =>
    if '=' ∈ field then do
      let parameters ← readParameters field
      .ok (parameters, rest)
    else .ok ([], field :: rest)
  | [] => .ok ([], [])

/-- Reads a hash with the fields of it that are there. -/
def ofText? (text : String) : Except HashFault PasswordHash :=
  match Text.fields '$' text.toList with
  | [] :: algorithm :: rest => do
    checkName algorithm
    let (version, rest) ← takeVersion rest
    let (parameters, rest) ← takeParameters rest
    match rest with
    | [] => return ⟨algorithm, version, parameters, none, none⟩
    | [salt] => return ⟨algorithm, version, parameters, some (← readSalt salt), none⟩
    | salt :: output :: rest =>
      let salt ← readSalt salt
      let output ← readOutput output
      if rest.isEmpty then return ⟨algorithm, version, parameters, some salt, some output⟩
      else throw .trailingData
  | _ => .error .missingField

/-- The fields of a hash, of which the first is empty. -/
def toFields (hash : PasswordHash) : List (List Char) :=
  let parameters := hash.parameters.map fun (name, value) => name ++ '=' :: value
  [[], hash.algorithm] ++
    (hash.version.map fun version => 'v' :: '=' :: Nat.toDigits 10 version).toList ++
    (if parameters.isEmpty then [] else [Text.joinFields ',' parameters]) ++
    hash.salt.toList ++ (hash.output.map (Base64.encode .standard)).toList

/-- The written form of a hash. -/
def text (hash : PasswordHash) : String :=
  String.ofList (Text.joinFields '$' hash.toFields)

end PasswordHash

end OrgAccess
