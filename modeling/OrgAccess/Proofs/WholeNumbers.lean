import Mathlib.Tactic.Ring
import OrgAccess.Number.Binary64

/-!
# Whole numbers in floating point

Whole numbers below `2 ^ 53` lose nothing in 64-bit floating point: a quotient that is one is
rounded to itself (`isWhole_ofQuotient`), and so are sums and products that stay below this bound.
-/

namespace OrgAccess

theorem roundDiv_mul (value : Nat) {denominator : Nat} (positive : 0 < denominator) :
    roundDiv (value * denominator) denominator = value := by
  simp [roundDiv, Nat.mul_div_cancel value positive, positive]

namespace Binary64

/-- A number is this whole number, without any rounding. -/
def IsWhole (number : Binary64) (value : Nat) : Prop :=
  ∃ mantissa exponent, number = finite mantissa exponent ∧
    (toQuotient mantissa exponent).1 = value * (toQuotient mantissa exponent).2

theorem toQuotient_pos (mantissa : Nat) (exponent : Int) :
    0 < (toQuotient mantissa exponent).2 := by
  unfold toQuotient
  split
  · exact Nat.pow_pos Nat.zero_lt_two
  · exact Nat.zero_lt_one

theorem isWhole_zero : (finite 0 0).IsWhole 0 :=
  ⟨0, 0, rfl, rfl⟩

/-- Up to the exponent zero, a whole number is held by shifting it. -/
theorem isWhole_shifted (value : Nat) {exponent : Int} (nonpos : exponent ≤ 0) :
    (finite (value * 2 ^ (-exponent).toNat) exponent).IsWhole value := by
  refine ⟨_, _, rfl, ?_⟩
  unfold toQuotient
  split
  · rfl
  · have zero : exponent = 0 := by omega
    subst zero
    simp

theorem scaleDown_of_nonpos (numerator denominator : Nat) {exponent : Int}
    (nonpos : exponent ≤ 0) :
    scaleDown numerator denominator exponent =
      (numerator * 2 ^ (-exponent).toNat, denominator) := by
  unfold scaleDown
  split
  · rfl
  · have zero : exponent = 0 := by omega
    subst zero
    simp

section Quotients

variable {value denominator : Nat} (positive : 0 < denominator) (nonzero : value ≠ 0)
  (small : value < 2 ^ 53)
include positive nonzero small

/-- The lengths of a number and its multiple differ by no more than the bits of a mantissa. -/
theorem log2_mul_bounds :
    Nat.log2 denominator ≤ Nat.log2 (value * denominator) ∧
      Nat.log2 (value * denominator) ≤ Nat.log2 denominator + 53 := by
  have product : value * denominator ≠ 0 := Nat.mul_ne_zero nonzero (by omega)
  constructor
  · rw [Nat.le_log2 product]
    calc
      2 ^ Nat.log2 denominator ≤ denominator := Nat.log2_self_le (by omega)
      _ ≤ value * denominator := Nat.le_mul_of_pos_left _ (Nat.pos_of_ne_zero nonzero)
  · rw [← Nat.lt_succ_iff, Nat.log2_lt product]
    calc
      value * denominator < 2 ^ 53 * 2 ^ (Nat.log2 denominator + 1) :=
        Nat.mul_lt_mul_of_lt_of_le small (Nat.le_of_lt Nat.lt_log2_self) (Nat.two_pow_pos _)
      _ = 2 ^ (Nat.log2 denominator + 53 + 1) := by
        rw [← Nat.pow_add, Nat.add_comm 53, Nat.add_right_comm]

theorem exponentOf_bounds :
    leastExponent < exponentOf (value * denominator) denominator ∧
      exponentOf (value * denominator) denominator ≤ 0 := by
  have bounds := log2_mul_bounds positive nonzero small
  have guess_nonpos :
      (Nat.log2 (value * denominator) : Int) - Nat.log2 denominator - 53 ≤ 0 := by omega
  unfold exponentOf leastExponent
  simp only [scaleDown_of_nonpos _ _ guess_nonpos]
  split
  · omega
  · rename_i tooLarge
    -- With a guess of zero nothing is shifted, and the value itself is small enough.
    have guess_ne_zero :
        (Nat.log2 (value * denominator) : Int) - Nat.log2 denominator - 53 ≠ 0 := by
      intro zero
      rw [zero] at tooLarge
      simp only [Int.neg_zero, Int.toNat_zero, Nat.pow_zero, Nat.mul_one,
        Nat.mul_div_cancel value positive] at tooLarge
      omega
    omega

end Quotients

/-- A quotient that is a whole number below `2 ^ 53` is not rounded. -/
theorem isWhole_ofQuotient {value denominator : Nat} (positive : 0 < denominator)
    (small : value < 2 ^ 53) :
    (ofQuotient (value * denominator) denominator).IsWhole value := by
  by_cases zero : value = 0
  · subst zero
    simp [ofQuotient, isWhole_zero]
  have product : value * denominator ≠ 0 := Nat.mul_ne_zero zero (by omega)
  obtain ⟨least, nonpos⟩ := exponentOf_bounds positive zero small
  unfold ofQuotient
  generalize exponentOf (value * denominator) denominator = exponent at least nonpos ⊢
  have shifted : value * denominator * 2 ^ (-exponent).toNat =
      value * 2 ^ (-exponent).toNat * denominator := Nat.mul_right_comm ..
  simp only [if_neg product, scaleDown_of_nonpos _ _ nonpos, shifted, roundDiv_mul _ positive]
  split
  · rename_i full
    -- A full mantissa is halved, which is exact because something was shifted.
    have negative : exponent ≠ 0 := by
      rintro rfl
      simp only [Int.neg_zero, Int.toNat_zero, Nat.pow_zero, Nat.mul_one] at full
      omega
    have half : 0x10000000000000 = value * 2 ^ (-(exponent + 1)).toNat := by
      have double : (-exponent).toNat = (-(exponent + 1)).toNat + 1 := by omega
      rw [double, Nat.pow_succ, ← Nat.mul_assoc] at full
      omega
    have inRange : ¬exponent + 1 > largestExponent := by
      unfold largestExponent
      omega
    rw [if_neg inRange, half]
    exact isWhole_shifted value (by omega)
  · have inRange : ¬exponent > largestExponent := by
      unfold largestExponent
      omega
    rw [if_neg inRange]
    exact isWhole_shifted value nonpos

/-! ## Operations -/

section Operations

variable {number other : Binary64} {value value' : Nat}

theorem isWhole_ofNat (small : value < 2 ^ 53) : (ofNat value).IsWhole value := by
  have whole := isWhole_ofQuotient Nat.zero_lt_one small
  rwa [Nat.mul_one] at whole

theorem IsWhole.add (first : number.IsWhole value) (second : other.IsWhole value')
    (small : value + value' < 2 ^ 53) : (number.add other).IsWhole (value + value') := by
  obtain ⟨m, e, rfl, first⟩ := first
  obtain ⟨n, f, rfl, second⟩ := second
  have positive := Nat.mul_pos (toQuotient_pos m e) (toQuotient_pos n f)
  have sum : (toQuotient m e).1 * (toQuotient n f).2 + (toQuotient n f).1 * (toQuotient m e).2 =
      (value + value') * ((toQuotient m e).2 * (toQuotient n f).2) := by
    rw [first, second]
    ring
  simp only [add, sum]
  exact isWhole_ofQuotient positive small

theorem IsWhole.mul (first : number.IsWhole value) (second : other.IsWhole value')
    (small : value * value' < 2 ^ 53) : (number.mul other).IsWhole (value * value') := by
  obtain ⟨m, e, rfl, first⟩ := first
  obtain ⟨n, f, rfl, second⟩ := second
  have positive := Nat.mul_pos (toQuotient_pos m e) (toQuotient_pos n f)
  have product : (toQuotient m e).1 * (toQuotient n f).1 =
      value * value' * ((toQuotient m e).2 * (toQuotient n f).2) := by
    rw [first, second]
    ring
  simp only [mul, product]
  exact isWhole_ofQuotient positive small

end Operations

end Binary64

end OrgAccess
