/-!
# Numbers of 64-bit floating point

The non-negative numbers that a 64-bit float holds, and exact operations followed by one rounding
to the nearest of them, a tie to the even one. A finite number is `mantissa * 2 ^ exponent` with a
mantissa below `2 ^ 53`; what is too large becomes infinite.
-/

namespace OrgAccess

/-- A non-negative 64-bit floating-point number. -/
inductive Binary64 where
  /-- The number `mantissa * 2 ^ exponent`. -/
  | finite (mantissa : Nat) (exponent : Int)
  /-- More than any finite number. -/
  | infinite
deriving DecidableEq

/-- The whole number nearest to a quotient; a tie goes to the even one. -/
def roundDiv (numerator denominator : Nat) : Nat :=
  let quotient := numerator / denominator
  let twice := 2 * (numerator % denominator)
  if twice < denominator then quotient
  else if twice > denominator then quotient + 1
  else if quotient % 2 = 0 then quotient
  else quotient + 1

namespace Binary64

/-- The exponent of the least finite number above zero. -/
def leastExponent : Int := -1074

/-- The largest exponent of a finite number. -/
def largestExponent : Int := 971

/-- A quotient with a power of two divided out, as numerator and denominator. -/
def scaleDown (numerator denominator : Nat) (exponent : Int) : Nat × Nat :=
  if exponent < 0 then (numerator * Nat.pow 2 (-exponent).toNat, denominator)
  else (numerator, denominator * Nat.pow 2 exponent.toNat)

/-- The exponent at which a positive quotient has a mantissa of 53 bits. -/
def exponentOf (numerator denominator : Nat) : Int :=
  let guess : Int := (Nat.log2 numerator : Int) - Nat.log2 denominator - 53
  let (scaled, unit) := scaleDown numerator denominator guess
  let exponent := if scaled / unit < 0x20000000000000 then guess else guess + 1
  max exponent leastExponent

/-- The number closest to a quotient. -/
def ofQuotient (numerator denominator : Nat) : Binary64 :=
  if numerator = 0 then finite 0 0
  else
    let exponent := exponentOf numerator denominator
    let (scaled, unit) := scaleDown numerator denominator exponent
    let mantissa := roundDiv scaled unit
    let (mantissa, exponent) :=
      if mantissa = 0x20000000000000 then (0x10000000000000, exponent + 1) else (mantissa, exponent)
    if exponent > largestExponent then infinite else finite mantissa exponent

/-- The number closest to a natural number. -/
def ofNat (value : Nat) : Binary64 :=
  ofQuotient value 1

/-- The number nearest to `digits * 10 ^ exponent`. -/
def ofDecimal (digits : Nat) (exponent : Int) : Binary64 :=
  if exponent < 0 then ofQuotient digits (Nat.pow 10 (-exponent).toNat)
  else ofQuotient (digits * Nat.pow 10 exponent.toNat) 1

/-- A mantissa and an exponent as a numerator and a denominator. -/
def toQuotient (mantissa : Nat) (exponent : Int) : Nat × Nat :=
  if exponent < 0 then (mantissa, Nat.pow 2 (-exponent).toNat)
  else (mantissa * Nat.pow 2 exponent.toNat, 1)

/-- Whether a number is finite. -/
def isFinite : Binary64 → Bool
  | finite _ _ => true
  | infinite => false

/-- Whether a number is zero. -/
def isZero : Binary64 → Bool
  | finite mantissa _ => mantissa == 0
  | infinite => false

/-- The number closest to a sum. -/
def add : Binary64 → Binary64 → Binary64
  | finite m e, finite n f =>
    let (a, b) := toQuotient m e
    let (c, d) := toQuotient n f
    ofQuotient (a * d + c * b) (b * d)
  | _, _ => infinite

/-- The rounded product of two numbers; a product with infinity counts as infinite. -/
def mul : Binary64 → Binary64 → Binary64
  | finite m e, finite n f =>
    let (a, b) := toQuotient m e
    let (c, d) := toQuotient n f
    ofQuotient (a * c) (b * d)
  | _, _ => infinite

/-- The rounded quotient of a number and a positive finite number. -/
def div : Binary64 → Binary64 → Binary64
  | finite m e, finite n f =>
    let (a, b) := toQuotient m e
    let (c, d) := toQuotient n f
    ofQuotient (a * d) (b * c)
  | infinite, _ => infinite
  | finite _ _, infinite => finite 0 0

end Binary64

end OrgAccess
