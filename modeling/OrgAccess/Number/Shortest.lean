import OrgAccess.Number.Binary64
import OrgAccess.Text.Decimal

/-!
# The shortest decimal form of a floating-point number

The digits written for a number are the fewest that read back as the same number, and of those
the nearest to it. `Binary64.text` lays them out: with a decimal point where the first digit
stands between the fifth place behind it and the sixteenth before it, and with an exponent
elsewhere.
-/

namespace OrgAccess.Binary64

/-- The greatest power of ten, as an exponent, that is not above a positive quotient. -/
def tensExponent (numerator denominator : Nat) : Int :=
  if numerator ≥ denominator then
    ((Nat.toDigits 10 (numerator / denominator)).length : Int) - 1
  else
    let tenfold := (denominator - 1) / numerator
    Int.neg (Nat.toDigits 10 tenfold).length

/-- The two neighbours of a quotient among the multiples of a power of ten, nearer one first. -/
def decimalNeighbours (numerator denominator : Nat) (exponent : Int) : List Nat :=
  let (scaled, unit) :=
    if exponent < 0 then (numerator * Nat.pow 10 (-exponent).toNat, denominator)
    else (numerator, denominator * Nat.pow 10 exponent.toNat)
  let below := scaled / unit
  if roundDiv scaled unit = below then [below, below + 1] else [below + 1, below]

/-- Tries more and more digits until a neighbour reads back. -/
def searchDigits (value : Binary64) (numerator denominator : Nat) (tens : Int) :
    (fuel : Nat) → (count : Nat) → Nat × Int
  | 0, count =>
    let exponent := tens - count + 1
    (((decimalNeighbours numerator denominator exponent).headD 0), exponent)
  | fuel + 1, count =>
    let exponent := tens - count + 1
    match (decimalNeighbours numerator denominator exponent).find? fun digits =>
        ofDecimal digits exponent == value with
    | some digits => (digits, exponent)
    | none => searchDigits value numerator denominator tens fuel (count + 1)

/-- The shortest decimal `digits * 10 ^ exponent` that reads back as a finite positive number. -/
def shortest (mantissa : Nat) (exponent : Int) : Nat × Int :=
  let (numerator, denominator) := toQuotient mantissa exponent
  searchDigits (finite mantissa exponent) numerator denominator
    (tensExponent numerator denominator) 17 1

/-- Takes the zeros at the end of a decimal into its exponent. -/
def dropZeros : (fuel : Nat) → Nat × Int → Nat × Int
  | 0, decimal => decimal
  | fuel + 1, (digits, exponent) =>
    if digits % 10 = 0 ∧ digits ≠ 0 then dropZeros fuel (digits / 10, exponent + 1)
    else (digits, exponent)

/-- The text of a decimal whose digits do not end in zero. -/
def layout (digits : Nat) (exponent : Int) : List Char :=
  let written := Nat.toDigits 10 digits
  let first := exponent + written.length - 1
  if 0 ≤ exponent ∧ first ≤ 15 then
    written ++ List.replicate exponent.toNat '0' ++ ['.', '0']
  else if 0 ≤ first ∧ first ≤ 15 then
    written.take (first.toNat + 1) ++ '.' :: written.drop (first.toNat + 1)
  else if -5 ≤ first ∧ first < 0 then
    ['0', '.'] ++ List.replicate (-first - 1).toNat '0' ++ written
  else
    let fraction := if written.length > 1 then '.' :: written.drop 1 else []
    let sign := if first < 0 then '-' else '+'
    written.take 1 ++ fraction ++ 'e' :: sign :: Nat.toDigits 10 first.natAbs

/-- The shortest text that reads as this number, with its sign. -/
def text (isNegative : Bool) (value : Binary64) : String :=
  let magnitude :=
    match value with
    | infinite => "inf".toList
    | finite mantissa exponent =>
      if mantissa = 0 then "0.0".toList
      else
        let (digits, tens) := dropZeros 20 (shortest mantissa exponent)
        layout digits tens
  String.ofList (if isNegative then '-' :: magnitude else magnitude)

end OrgAccess.Binary64
