import OrgAccess.Authentication

/-!
# Media types

The content type of a request is a type and a subtype with a slash between them, and parameters
after semicolons. A body is read as JSON when the type is `application` and either the subtype or
the suffix after its last plus sign is `json`.
-/

namespace OrgAccess.Http

/-- Whether a character may stand in a name of a media type. -/
def isNameCharacter (character : Char) : Bool :=
  character.isAlphanum || "!#$%&'*+-.^_`|~".toList.contains character

/-- Whether a character may stand in a quoted value. -/
def isQuotable (character : Char) : Bool :=
  character.toNat > 31 && character.toNat != 127

/--
The rest of a text after a quoted value and its closing quote. A quote ends the value unless it is
its first character; there is no escape.
-/
def afterQuotedValue : List Char → Option (List Char)
  | first :: rest =>
    if isQuotable first then
      match rest.dropWhile fun character => isQuotable character && character != '"' with
      | '"' :: rest => some rest
      | _ => none
    else none
  | [] => none

/-- The rest of a text after a parameter and the semicolon behind it, if the parameter is one. -/
def afterParameter (text : List Char) : Option (List Char) :=
  if (text.takeWhile isNameCharacter).isEmpty then none
  else match text.dropWhile isNameCharacter with
    | '=' :: '"' :: value =>
      (afterQuotedValue value).bind fun rest =>
        match rest.dropWhile fun character => character == ' ' with
        | [] => some []
        | ';' :: rest => some rest
        | _ => none
    | '=' :: value =>
      match value.dropWhile isNameCharacter with
      | [] => some []
      | ';' :: rest => if (value.takeWhile isNameCharacter).isEmpty then none else some rest
      | _ => none
    | _ => none

/-- Whether a text is a list of parameters; each takes at least a character. -/
def areParameters : (fuel : Nat) → List Char → Bool
  | _, [] => true
  | 0, _ => false
  | fuel + 1, text =>
    match text.dropWhile fun character => character == ' ' with
    | [] => true
    | text =>
      match afterParameter text with
      | some rest => areParameters fuel rest
      | none => false

/-- The essence of a media type, in lower case. -/
structure MediaType where
  type : List Char
  /-- The subtype without its suffix. -/
  subtype : List Char
  /-- What follows the last plus sign of the subtype. -/
  suffix : Option (List Char)
deriving DecidableEq

namespace MediaType

/-- A subtype and its suffix; a plus sign at the front is part of the subtype. -/
def splitSuffix (name : List Char) : List Char × Option (List Char) :=
  let backwards := name.reverse
  match backwards.dropWhile fun character => character != '+' with
  | _ :: before@(_ :: _) =>
    (before.reverse, some (backwards.takeWhile fun character => character != '+').reverse)
  | _ => (name, none)

/-- Reads a media type; the parameters after it are checked and left out. -/
def ofText? (text : List Char) : Option MediaType :=
  let type := text.takeWhile isNameCharacter
  match text.dropWhile isNameCharacter with
  | '/' :: rest =>
    let name := rest.takeWhile isNameCharacter
    let (subtype, suffix) := splitSuffix (name.map Char.toLower)
    let mediaType : MediaType := ⟨type.map Char.toLower, subtype, suffix⟩
    if type.isEmpty then none
    else match rest.dropWhile isNameCharacter with
      | [] => some mediaType
      | mark :: parameters =>
        if mark = ';' ∧ !name.isEmpty ∧ areParameters parameters.length parameters then
          some mediaType
        else none
  | _ => none

/-- Whether a body of this type is JSON, by its subtype or the suffix of it. -/
def isJson (mediaType : MediaType) : Bool :=
  mediaType.type == "application".toList &&
    (mediaType.subtype == "json".toList || mediaType.suffix == some "json".toList)

end MediaType

/-- Whether the value of a content type header stands for JSON. -/
def isJsonContent (value : List UInt8) : Bool :=
  ((plainText? value).bind MediaType.ofText?).any MediaType.isJson

end OrgAccess.Http
