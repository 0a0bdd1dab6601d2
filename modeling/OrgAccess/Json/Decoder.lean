import OrgAccess.Json.Skipper
import OrgAccess.Time.Rfc3339
import OrgAccess.Uuid

/-!
# Decoding values and records

A decoder reads one value of a known shape; it also says what the absence of the value means where
it is the value of a member. A record is read from an object, whose members come in any order and
may include unknown ones, or from an array that holds the values in the order of the fields.
-/

namespace OrgAccess.Json

/-- Reads the colon between a key and its value. -/
def colon : Reader Unit := do
  match ← peekToken with
  | none => .malformed .endInObject
  | some character => if character = some ':' then skip else .malformed .expectedColon

/-- How a value of one shape is read. -/
structure Decoder (α : Type) where
  read : Reader α
  absent : Option α := none

namespace Decoder

/-- A value that is written as a text, from which it is converted. -/
def ofText {α : Type} (expected : String) (convert : String → Except String α) : Decoder α where
  read := do
    if (← peekToken) = some (some '"') then
      skip
      match convert (← textBody) with
      | .ok value => return value
      | .error reason => .mismatched (.unreadable reason)
    else refuse expected

/-- A text as it is. -/
def text : Decoder String :=
  ofText "a string" .ok

/-- An identifier, written as a text. -/
def uuid : Decoder Uuid :=
  ofText "a formatted UUID string" fun text =>
    match Uuid.ofText? text with
    | some id => .ok id
    | none => .error "UUID parsing failed"

/-- An instant, written as a text. -/
def instant : Decoder Instant :=
  ofText "an RFC 3339 formatted date and time string" fun text =>
    match Instant.ofRfc3339 text with
    | .ok instant => .ok instant
    | .error fault => .error fault.message

/-- A whole number that fits into 64 bits with its sign. -/
def integer : Decoder Int where
  read := do
    match ← peekToken with
    | none => .malformed .endInValue
    | some character =>
      let isNegative := character == some '-'
      if isNegative then skip
      if isNegative || beginsNumber character then
        match ← number isNegative with
        | .natural value =>
          if value < 0x8000000000000000 then return value
          else .mismatched (.wrongValue (.number (.natural value)) "i64")
        | .negative value => return -value
        | other => .mismatched (.wrongKind (.number other) "i64")
      else refuse "i64"

/-- Reads the null that takes the place of a content. -/
def unit : Reader Unit := do
  if (← peekToken) = some (some 'n') then
    skip
    word "ull"
  else refuse "unit"

/-- What a name stands for, if it is among those that are known. -/
def nameOf {α : Type} (known : List (String × α)) (name : String) : Reader α :=
  match known.find? fun choice => choice.1 == name with
  | some choice => return choice.2
  | none => .mismatched (.unknownName name (known.map Prod.fst))

/-- Reads the key of an object that stands for a name. -/
def onlyKey : Reader String := do
  match ← peekToken with
  | none => .malformed .endInValue
  | some character =>
    if character = some '"' then
      skip
      textBody
    else if character = some '}' then .malformed .expectedValue
    else .malformed .keyNotString

/-- One of some names, as a string or as the key of an object whose only member is null. -/
def choice {α : Type} (known : List (String × α)) : Decoder α where
  read := do
    match ← peekToken with
    | none => .malformed .endInValue
    | some character =>
      match character with
      | some '"' =>
        skip
        nameOf known (← textBody)
      | some '{' =>
        skip
        let value ← nameOf known (← onlyKey)
        colon
        unit
        match ← peekToken with
        | none => .malformed .endInObject
        | some character =>
          if character = some '}' then
            skip
            return value
          else .malformed .expectedValue
      | _ => .malformed .expectedValue

/-- A value or null; an absent member counts as null. -/
def optional {α : Type} (decoder : Decoder α) : Decoder (Option α) where
  read := do
    if (← peekToken) = some (some 'n') then
      skip
      word "ull"
      return none
    else return some (← decoder.read)
  absent := some none

/-- A value or null, told apart from an absent member. -/
def explicit {α : Type} (decoder : Decoder α) : Decoder (Option (Option α)) where
  read := return some (← decoder.optional.read)
  absent := some none

end Decoder

/-! ## Items and members -/

/-- Whether an array has another item, which is then next in the text. -/
def hasItem (isFirst : Bool) : Reader Bool := do
  match ← peekToken with
  | none => .malformed .endInList
  | some character =>
    if character = some ']' then return false
    else if isFirst then return true
    else if character = some ',' then
      skip
      match ← peekToken with
      | none => .malformed .endInValue
      | some character =>
        if character = some ']' then .malformed .trailingComma else return true
    else .malformed .expectedCommaOrListEnd

/-- Reads the closing bracket of a list. -/
def endList : Reader Unit := do
  match ← peekToken with
  | none => .malformed .endInList
  | some character =>
    if character = some ']' then skip
    else if character = some ',' then
      skip
      if (← peekToken) = some (some ']') then .malformed .trailingComma
      else .malformed .trailingCharacters
    else .malformed .trailingCharacters

/-- Whether an object has another member; its key is then next, after the opening quote. -/
def hasMember (isFirst : Bool) : Reader Bool := do
  match ← peekToken with
  | none => .malformed .endInObject
  | some character =>
    if character = some '}' then return false
    else if isFirst then
      if character = some '"' then
        skip
        return true
      else .malformed .keyNotString
    else if character = some ',' then
      skip
      match ← peekToken with
      | none => .malformed .endInValue
      | some character =>
        if character = some '"' then
          skip
          return true
        else if character = some '}' then .malformed .trailingComma
        else .malformed .keyNotString
    else .malformed .expectedCommaOrObjectEnd

/-- Reads the closing brace of an object. -/
def endObject : Reader Unit := do
  match ← peekToken with
  | none => .malformed .endInObject
  | some character =>
    if character = some '}' then skip
    else if character = some ',' then .malformed .trailingComma
    else .malformed .trailingCharacters

/-- Runs what has to follow a reader even if that refuses; the first refusal counts. -/
def thenAlways {α : Type} (first : Reader α) (last : Reader Unit) : Reader α := do
  let result ← tryCatch (Except.ok <$> first) fun refusal => return .error refusal
  match result with
  | .ok value =>
    last
    return value
  | .error refusal =>
    let _ ← tryCatch (Except.ok <$> last) fun other => return .error other
    throw refusal

/-! ## Records -/

/-- One field of a record that is filled in step by step. -/
structure Field (α : Type) where
  key : String
  read : α → Reader α
  absent : Option (α → α)
  cutOff : Option (α → α) := none

/-- A field that a decoder reads; it may be absent if the decoder knows a value for that. -/
def Field.of {α β : Type} (key : String) (decoder : Decoder β) (set : β → α → α) : Field α where
  key := key
  read := fun record => return set (← decoder.read) record
  absent := decoder.absent.map set

/-- A field that an array may leave out at its end. -/
def Field.mayCutOff {α : Type} (field : Field α) : Field α :=
  { field with cutOff := field.absent }

/-- A record: its name, its fields in order, and the record whose fields are to be filled in. -/
structure Record (α : Type) where
  /-- The name under which a message knows the record. -/
  name : String
  /-- The fields in the order of an array. -/
  fields : List (Field α)
  /-- The record in which every field still has to be filled in. -/
  blank : α

namespace Record

/-- How a message names the record. -/
def expected {α : Type} (record : Record α) : String :=
  "struct " ++ record.name

/-- Fills in the absent fields of an object, or refuses the first that has to be there. -/
def fillAbsent {α : Type} (seen : List String) : List (Field α) → α → Reader α
  | [], value => return value
  | field :: fields, value =>
    if field.key ∈ seen then fillAbsent seen fields value
    else match field.absent with
      | some fill => fillAbsent seen fields (fill value)
      | none => .mismatched (.missingField field.key)

/-- Reads the members of an object; each takes at least a character. -/
def readMembers {α : Type} (record : Record α) :
    (fuel : Nat) → (seen : List String) → (isFirst : Bool) → α → Reader (List String × α)
  | 0, _, _, _ => .malformed .endInObject
  | fuel + 1, seen, isFirst, value => do
    if ← hasMember isFirst then
      let key ← textBody
      match record.fields.find? fun field => field.key == key with
      | some field =>
        if key ∈ seen then .mismatched (.duplicateField key)
        else
          colon
          let value ← Reader.inside (.member key) (field.read value)
          readMembers record fuel (key :: seen) false value
      | none =>
        colon
        Reader.inside (.member key) skipValue
        readMembers record fuel seen false value
    else return (seen, value)

/-- How a message names the record together with the number of its fields. -/
def expectedItems {α : Type} (record : Record α) : String :=
  let count := record.fields.length
  record.expected ++ " with " ++ toString count ++ (if count = 1 then " element" else " elements")

/-- Reads the items of an array into the fields in order. -/
def readItems {α : Type} (record : Record α) :
    (index : Nat) → List (Field α) → α → Reader α
  | _, [], value => return value
  | index, field :: fields, value => do
    if ← hasItem (index == 0) then
      let value ← Reader.inside (.item index) (field.read value)
      readItems record (index + 1) fields value
    else
      match field.cutOff with
      | some fill => readItems record (index + 1) fields (fill value)
      | none => .mismatched (.tooFewItems index record.expectedItems)

/-- Reads a record, be it written as an object or as an array. -/
def read {α : Type} (record : Record α) : Reader α := do
  match ← peekToken with
  | none => .malformed .endInValue
  | some character =>
    if character = some '{' then
      skip
      let members : Reader α := do
        let (seen, value) ← record.readMembers ((← get).length + 1) [] true record.blank
        fillAbsent seen record.fields value
      thenAlways members endObject
    else if character = some '[' then
      skip
      thenAlways (record.readItems 0 record.fields record.blank) endList
    else refuse record.expected

end Record

/-! ## Whole texts -/

/-- What a reader gives for a text of which a part may be left unread. -/
def Reader.runFront {α : Type} (reader : Reader α) (input : Input) : Except Refusal α :=
  (reader.run.run input).1

/-- Refuses anything but blank space up to the end of the text. -/
def endOfText : Reader Unit := do
  match ← peekToken with
  | none => return ()
  | some _ => .malformed .trailingCharacters

/-- What a reader gives for a text that it has to read to its end. -/
def Reader.runAll {α : Type} (reader : Reader α) (input : Input) : Except Refusal α :=
  Reader.runFront (do
    let value ← reader
    endOfText
    return value) input

/-- A text as what a reader reads, in which no byte is broken. -/
def inputOfText (text : String) : Input :=
  text.toList.map some

end OrgAccess.Json
