import OrgAccess.Json.Decoder

/-!
# Values of any shape

A value whose shape is decided only after it was read is held as a tree. The tree has a bounded
depth.
-/

namespace OrgAccess.Json

/-- A JSON value as it was read. -/
inductive Buffered where
  | null
  | boolean (value : Bool)
  | number (value : Number)
  | text (value : String)
  | list (items : List Buffered)
  | object (members : List (String × Buffered))

namespace Buffered

/-- Reads items with a reader for each; every item takes at least a character. -/
def readItems {α : Type} (item : Reader α) : (fuel : Nat) → (isFirst : Bool) → Reader (List α)
  | 0, _ => .malformed .endInList
  | fuel + 1, isFirst => do
    if ← hasItem isFirst then
      let value ← item
      let rest ← readItems item fuel false
      return value :: rest
    else return []

/-- Reads the members of an object, each with its key. -/
def readMembers {α : Type} (item : Reader α) :
    (fuel : Nat) → (isFirst : Bool) → Reader (List (String × α))
  | 0, _ => .malformed .endInObject
  | fuel + 1, isFirst => do
    if ← hasMember isFirst then
      let key ← textBody
      colon
      let value ← item
      let rest ← readMembers item fuel false
      return (key, value) :: rest
    else return []

/-- Reads a list at its opening bracket. -/
def readList {α : Type} (item : Reader α) : Reader (List α) := do
  skip
  thenAlways (do readItems item ((← get).length + 1) true) endList

/-- Reads an object with a reader for the values of its members. -/
def readObject {α : Type} (item : Reader α) : Reader (List (String × α)) := do
  skip
  thenAlways (do readMembers item ((← get).length + 1) true) endObject

/-- Reads a value whose items, if it has any, are read with `inner`; without it there may be none. -/
def readWith (inner : Option (Reader Buffered)) : Reader Buffered := do
  match ← found with
  | .null => return .null
  | .boolean value => return .boolean value
  | .number value => return .number value
  | .text value => return .text value
  | .list =>
    match inner with
    | none => .malformed .nestedTooDeep
    | some item => return .list (← readList item)
  | .object =>
    match inner with
    | none => .malformed .nestedTooDeep
    | some item => return .object (← readObject item)

/-- Reads a value in which at most `depth` arrays and objects are open at once. -/
def read : (depth : Nat) → Reader Buffered
  | 0 => readWith none
  | depth + 1 => readWith (some (read depth))

/-- What a value is, for a message that refuses it. -/
def found : Buffered → Found
  | null => .null
  | boolean value => .boolean value
  | number value => .number value
  | text value => .text value
  | list _ => .list
  | object _ => .object

/-- Whether a value is a text. -/
def isText : Buffered → Bool
  | text _ => true
  | _ => false

end Buffered

/-- A list whose items a decoder reads. -/
def Decoder.listOf {α : Type} (decoder : Decoder α) : Decoder (List α) where
  read := do
    if (← peekToken) = some (some '[') then Buffered.readList decoder.read
    else refuse "a sequence"

end OrgAccess.Json
