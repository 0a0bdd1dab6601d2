/-!
# Blank characters and trimming

A character is blank when Unicode gives it the `White_Space` property. A text that holds nothing
but blank characters counts as empty wherever a person has to write something, and blank
characters at either end of a configured value or of a credential are dropped.
-/

namespace OrgAccess.Text

/-- Whether a character has Unicode's `White_Space` property. -/
def isBlank (character : Char) : Bool :=
  let code := character.toNat
  (0x09 ≤ code && code ≤ 0x0D) || code == 0x20 || code == 0x85 || code == 0xA0 ||
    code == 0x1680 || (0x2000 ≤ code && code ≤ 0x200A) || code == 0x2028 || code == 0x2029 ||
    code == 0x202F || code == 0x205F || code == 0x3000

/-- The characters from the first one that is not blank onwards. -/
def trimLeft (text : List Char) : List Char :=
  text.dropWhile isBlank

/-- The characters up to the last one that is not blank. -/
def trimRight (text : List Char) : List Char :=
  (text.reverse.dropWhile isBlank).reverse

/-- The text without the blank characters at its two ends. -/
def trim (text : String) : String :=
  String.ofList (trimRight (trimLeft text.toList))

/-- Whether a text holds no character that is not blank. -/
def isBlankText (text : String) : Bool :=
  text.toList.all isBlank

@[simp]
theorem trimLeft_nil : trimLeft [] = [] := rfl

end OrgAccess.Text
