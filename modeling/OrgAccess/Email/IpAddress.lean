import OrgAccess.Text.Decimal
import OrgAccess.Text.Fields
import OrgAccess.Text.Hex

/-!
# Addresses of hosts

The written forms of internet addresses. A version 4 address is four numbers up to 255 without
leading zeros. A version 6 address is eight groups of up to four hexadecimal digits, of which the
last two may be a version 4 address; two colons in a row stand for one or more groups of zeros.
-/

namespace OrgAccess.Email

/-- Whether a text is a number up to 255 without leading zeros. -/
def isOctet (text : List Char) : Bool :=
  !text.isEmpty && text.length ≤ 3 && text.all Text.isDigit && Text.decimalValue text ≤ 255 &&
    (text.length == 1 || text.head? != some '0')

/-- Whether a text is an address of four octets. -/
def isIpv4 (text : List Char) : Bool :=
  let parts := Text.fields '.' text
  parts.length == 4 && parts.all isOctet

/-- Whether a text is one group of a version 6 address. -/
def isGroup (text : List Char) : Bool :=
  !text.isEmpty && text.length ≤ 4 && text.all fun digit => (Text.hexValue? digit).isSome

/-- How many groups stand between colons, if all are groups; a version 4 address counts two. -/
def countGroups? (allowIpv4 : Bool) : List (List Char) → Option Nat
  | [] => some 0
  | [last] =>
    if isGroup last then some 1 else if allowIpv4 && isIpv4 last then some 2 else none
  | group :: groups =>
    if isGroup group then (countGroups? allowIpv4 groups).map (· + 1) else none

/-- How many groups a text between colons has; an empty text has none. -/
def groupsOf? (allowIpv4 : Bool) (text : List Char) : Option Nat :=
  if text.isEmpty then some 0 else countGroups? allowIpv4 (Text.fields ':' text)

/-- The texts before and after the first two colons in a row. -/
def splitGap? : List Char → Option (List Char × List Char)
  | ':' :: ':' :: rest => some ([], rest)
  | character :: rest => (splitGap? rest).map fun (before, after) => (character :: before, after)
  | [] => none

/-- Whether a text is an address of eight groups, of which a gap may stand for one or more. -/
def isIpv6 (text : List Char) : Bool :=
  match splitGap? text with
  | some (before, after) =>
    match groupsOf? false before, groupsOf? true after with
    | some first, some last => first + last ≤ 7
    | _, _ => false
  | none => groupsOf? true text == some 8

/-- Whether a text is an address of either version. -/
def isIpAddress (text : List Char) : Bool :=
  isIpv4 text || isIpv6 text

end OrgAccess.Email
