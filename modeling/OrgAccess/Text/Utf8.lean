/-!
# UTF-8

Characters as bytes and back. Reading never fails as a whole: a byte that does not begin or
continue a character in the shortest form stands for itself as a malformed place, and reading goes
on at the byte after it.
-/

namespace OrgAccess.Text

/-- The bytes of a text. -/
def encodeUtf8 (text : List Char) : List UInt8 :=
  text.flatMap String.utf8EncodeChar

/-- The number of bytes of a text. -/
def byteCount (text : List Char) : Nat :=
  (encodeUtf8 text).length

/-- The bytes of a string. -/
def utf8 (text : String) : List UInt8 :=
  encodeUtf8 text.toList

/-- The low six bits of a byte that continues a character. -/
def continuation? (byte : UInt8) : Option Nat :=
  let value := byte.toNat
  if 0x80 ≤ value ∧ value < 0xC0 then some (value - 0x80) else none

/-- The character with a code point, if that is not below `least` and not a surrogate. -/
def character? (least code : Nat) : Option Char :=
  if least ≤ code ∧ code.isValidChar then some (Char.ofNat code) else none

/-- The character that begins with a byte, and how many of the bytes after it belong to it. -/
def characterAt? (first : UInt8) (rest : List UInt8) : Option (Char × Nat) :=
  let value := first.toNat
  if value < 0x80 then some (Char.ofNat value, 0)
  else if value < 0xC0 then none
  else if value < 0xE0 then
    match rest with
    | second :: _ => do
      let code := (value - 0xC0) * 64 + (← continuation? second)
      return (← character? 0x80 code, 1)
    | _ => none
  else if value < 0xF0 then
    match rest with
    | second :: third :: _ => do
      let code := ((value - 0xE0) * 64 + (← continuation? second)) * 64 + (← continuation? third)
      return (← character? 0x800 code, 2)
    | _ => none
  else if value < 0xF8 then
    match rest with
    | second :: third :: fourth :: _ => do
      let code := (((value - 0xF0) * 64 + (← continuation? second)) * 64 +
        (← continuation? third)) * 64 + (← continuation? fourth)
      return (← character? 0x10000 code, 3)
    | _ => none
  else none

/-- The characters of the remaining bytes after those that were read, the last one first. -/
def decodeFrom (read : List (Option Char)) (bytes : List UInt8) : List (Option Char) :=
  match bytes with
  | [] => read.reverse
  | first :: rest =>
    match characterAt? first rest with
    | some (character, count) => decodeFrom (some character :: read) (rest.drop count)
    | none => decodeFrom (none :: read) rest
termination_by bytes.length

/-- The characters of a list of bytes; a malformed byte gives `none`. -/
def decodeUtf8 (bytes : List UInt8) : List (Option Char) :=
  decodeFrom [] bytes

/-- The text of a list of bytes, if every byte belongs to a character. -/
def ofUtf8? (bytes : List UInt8) : Option String :=
  ((decodeUtf8 bytes).mapM id).map String.ofList

end OrgAccess.Text
