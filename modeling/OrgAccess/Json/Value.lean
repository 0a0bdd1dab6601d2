import OrgAccess.Text.Hex

/-!
# JSON values and their compact text

Members of an object are written in the order in which they are given, with nothing between
tokens. In a string the quote, the backslash and the control characters are escaped and every
other character stands as it is.
-/

namespace OrgAccess

/-- A JSON value with whole numbers. -/
inductive Json where
  | null
  | boolean (value : Bool)
  | integer (value : Int)
  | text (value : String)
  | list (items : List Json)
  /-- An object with its members in order. -/
  | object (members : List (String × Json))

namespace Json

/-- How a character is written in a text. -/
def escape (character : Char) : List Char :=
  if character = '"' then ['\\', '"']
  else if character = '\\' then ['\\', '\\']
  else if character.toNat = 0x08 then ['\\', 'b']
  else if character.toNat = 0x0C then ['\\', 'f']
  else if character = '\n' then ['\\', 'n']
  else if character = '\r' then ['\\', 'r']
  else if character = '\t' then ['\\', 't']
  else if character.toNat < 0x20 then ['\\', 'u'] ++ Text.hexDigits 4 character.toNat
  else [character]

/-- A text in quotes. -/
def renderText (value : String) : List Char :=
  '"' :: (value.toList.flatMap escape ++ ['"'])

mutual

/-- A value without blank space. -/
def render : Json → List Char
  | null => "null".toList
  | boolean true => "true".toList
  | boolean false => "false".toList
  | integer value => (toString value).toList
  | text value => renderText value
  | list items => '[' :: (renderItems items ++ [']'])
  | object members => '{' :: (renderMembers members ++ ['}'])

/-- The items of an array with commas between them. -/
def renderItems : List Json → List Char
  | [] => []
  | [item] => item.render
  | item :: items => item.render ++ ',' :: renderItems items

/-- The members of an object with commas between them. -/
def renderMembers : List (String × Json) → List Char
  | [] => []
  | [(key, value)] => renderText key ++ ':' :: value.render
  | (key, value) :: members => renderText key ++ ':' :: value.render ++ ',' :: renderMembers members

end

/-- The shortest text of a value. -/
def compact (value : Json) : String :=
  String.ofList value.render

/-- The value itself, or null when there is none. -/
def ofOption {α : Type} (toJson : α → Json) : Option α → Json
  | some value => toJson value
  | none => null

end Json

end OrgAccess
