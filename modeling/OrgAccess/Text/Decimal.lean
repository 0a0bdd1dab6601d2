/-!
# Decimal numbers in text

The digits of a natural number without leading zeros, and reading them back.
-/

namespace OrgAccess.Text

/-- Whether a character is one of the ten ASCII digits. -/
def isDigit (character : Char) : Bool :=
  '0' ≤ character && character ≤ '9'

/-- What a decimal digit stands for. -/
def digitValue (digit : Char) : Nat :=
  digit.toNat - 48

/-- The number that a run of decimal digits writes after what was read before. -/
def readDecimal (digits : List Char) (soFar : Nat) : Nat :=
  digits.foldl (fun value digit => 10 * value + digitValue digit) soFar

/-- The number that a run of decimal digits writes. -/
def decimalValue (digits : List Char) : Nat :=
  readDecimal digits 0

/-- A number in decimal, filled up with zeros on the left to a least number of digits. -/
def padded (width value : Nat) : List Char :=
  let digits := Nat.toDigits 10 value
  List.replicate (width - digits.length) '0' ++ digits

end OrgAccess.Text
