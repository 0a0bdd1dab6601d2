import OrgAccess.Email.Punycode
import OrgAccess.Text.Fields
import OrgAccess.Unicode.Composition
import OrgAccess.Unicode.Direction
import OrgAccess.Unicode.HostCharacter

/-!
# Host names in any script

A host name may be written in any script. Its plain form is found label by label: characters are
mapped and composed, every label is checked, and a label that is not plain is written in punycode
after a mark. A label that comes with the mark is read back and has to pass the same checks.
-/

namespace OrgAccess.Email.Idna

/-- What a label begins with that stands for one in another script. -/
def mark : List Char := "xn--".toList

/-- Whether a text has plain characters only. -/
def isPlain (text : List Char) : Bool :=
  text.all fun character => character.toNat < 128

/-- The characters that a host name has for those of a text, if all are allowed. -/
def mapped? (text : List Char) : Option (List Char) :=
  (text.mapM Unicode.hostCharacters?).map fun mapped => Unicode.composedForm mapped.flatten

/-- Whether a label may stand in a host name: no mark begins it, and every character is allowed. -/
def isAllowed (label : List Char) : Bool :=
  !label.head?.any Unicode.marks.has && label.all Unicode.isHostCharacter

/-- A label in its own script, if it is allowed. -/
def label? (label : List Char) : Option (List Char) :=
  if mark.isPrefixOf label then
    (Punycode.decode? (label.drop mark.length)).filter fun decoded =>
      Unicode.composedForm decoded == decoded && isAllowed decoded
  else if isAllowed label then some label
  else none

/-- The labels of a host name in their own scripts, if the host name is allowed. -/
def labels? (domain : List Char) : Option (List (List Char)) := do
  let labels ← (Text.fields '.' (← mapped? domain)).mapM label?
  if labels.any Unicode.hasRight && !labels.all Unicode.keepsDirection then none
  else some labels

/-- A label in plain characters, which has the mark if it had others before. -/
def plainLabel (label : List Char) : List Char :=
  if isPlain label then label else mark ++ Punycode.encode label

/-- A host name in plain characters, if it is allowed. -/
def toAscii? (domain : List Char) : Option (List Char) :=
  (labels? domain).map fun labels => Text.joinFields '.' (labels.map plainLabel)

end OrgAccess.Email.Idna
