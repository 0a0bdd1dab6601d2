import OrgAccess.Email.Idna
import OrgAccess.Email.IpAddress

/-!
# E-mail addresses

An address is a local part and a domain around the last `@`. The local part holds letters, digits
and some marks. The domain is a host name, a host name in any script that has a plain form, or an
internet address in brackets.
-/

namespace OrgAccess.Email

/-- Whether a character may stand in a local part. -/
def isLocalCharacter (character : Char) : Bool :=
  character.isAlphanum || ".!#$%&'*+/=?^_`\x7b|\x7d~-".toList.contains character

/-- Whether a text is a label of a host name: up to 63 characters, hyphens only inside. -/
def isLabel (label : List Char) : Bool :=
  label.length ≤ 63 && label.head?.any Char.isAlphanum && label.getLast?.any Char.isAlphanum &&
    label.all fun character => character.isAlphanum || character == '-'

/-- Whether a text is a host name: labels with dots between them. -/
def isHostName (domain : List Char) : Bool :=
  (Text.fields '.' domain).all isLabel

/-- Whether a character may stand in the brackets of an address literal. -/
def isBracketed (character : Char) : Bool :=
  (Text.hexValue? character).isSome || character == ':' || character == '.'

/-- What stands in the brackets at the end of a text, if it is of such characters only. -/
def bracketed? (domain : List Char) : Option (List Char) :=
  match domain.reverse with
  | ']' :: backwards =>
    match backwards.dropWhile isBracketed with
    | '[' :: _ => some (backwards.takeWhile isBracketed).reverse
    | _ => none
  | _ => none

/-- Whether a domain is a host name or ends in an internet address in brackets. -/
def isPlainDomain (domain : List Char) : Bool :=
  isHostName domain || (bracketed? domain).any isIpAddress

/-- Whether a domain is plain, or has a plain form. -/
def isDomain (domain : List Char) : Bool :=
  isPlainDomain domain || (Idna.toAscii? domain).any isPlainDomain

/-- Parts an address at its last at sign. -/
def split? (address : List Char) : Option (List Char × List Char) :=
  let backwards := address.reverse
  match backwards.dropWhile fun character => character != '@' with
  | _ :: before =>
    some (before.reverse, (backwards.takeWhile fun character => character != '@').reverse)
  | [] => none

/-- Whether a text is an e-mail address. -/
def isAddress (text : String) : Bool :=
  match split? text.toList with
  | some (user, domain) =>
    user.length ≤ 64 && domain.length ≤ 255 && !user.isEmpty && user.all isLocalCharacter &&
      isDomain domain
  | none => false

end OrgAccess.Email
