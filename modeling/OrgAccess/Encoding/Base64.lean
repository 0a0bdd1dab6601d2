/-!
# Base64 without padding

Bytes are regrouped six bits at a time and each group is written as one character of an alphabet.
A last group that is not full is filled up with zero bits, and no padding characters follow.
Reading is strict: the filling bits must be zero, so each list of bytes has one written form, and
`decode?` accepts exactly what `encode` writes.
-/

namespace OrgAccess.Base64

/-- Which characters stand for the last two of the 64 digits. -/
inductive Alphabet where
  /-- `+` and `/`. -/
  | standard
  /-- `-` and `_`, for text that travels in an address. -/
  | urlSafe
deriving DecidableEq

/-- The character that stands for six bits. -/
def digit (alphabet : Alphabet) (value : Nat) : Char :=
  if value < 26 then Char.ofNat (65 + value)
  else if value < 52 then Char.ofNat (71 + value)
  else if value < 62 then Char.ofNat (value - 4)
  else if value = 62 then
    match alphabet with
    | .standard => '+'
    | .urlSafe => '-'
  else
    match alphabet with
    | .standard => '/'
    | .urlSafe => '_'

/-- The six bits for which a character stands. -/
def value? (alphabet : Alphabet) (character : Char) : Option Nat :=
  let code := character.toNat
  if 65 ≤ code ∧ code ≤ 90 then some (code - 65)
  else if 97 ≤ code ∧ code ≤ 122 then some (code - 71)
  else if 48 ≤ code ∧ code ≤ 57 then some (code + 4)
  else if character = digit alphabet 62 then some 62
  else if character = digit alphabet 63 then some 63
  else none

/-- The text of bytes, three at a time; nothing fills up a last group. -/
def encode (alphabet : Alphabet) : List UInt8 → List Char
  | [] => []
  | [first] =>
    let a := first.toNat
    [digit alphabet (a / 4), digit alphabet (a % 4 * 16)]
  | [first, second] =>
    let a := first.toNat
    let b := second.toNat
    [digit alphabet (a / 4), digit alphabet (a % 4 * 16 + b / 16),
      digit alphabet (b % 16 * 4)]
  | first :: second :: third :: rest =>
    let a := first.toNat
    let b := second.toNat
    let c := third.toNat
    digit alphabet (a / 4) :: digit alphabet (a % 4 * 16 + b / 16) ::
      digit alphabet (b % 16 * 4 + c / 64) :: digit alphabet (c % 64) :: encode alphabet rest

/-- The bytes that a list of digits writes; the bits left over at the end must be zero. -/
def regroup? : List Nat → Option (List UInt8)
  | [] => some []
  | [_] => none
  | [p, q] => if q % 16 = 0 then some [UInt8.ofNat (p * 4 + q / 16)] else none
  | [p, q, r] =>
    if r % 4 = 0 then
      some [UInt8.ofNat (p * 4 + q / 16), UInt8.ofNat (q % 16 * 16 + r / 4)]
    else none
  | p :: q :: r :: s :: rest =>
    (regroup? rest).map fun bytes =>
      UInt8.ofNat (p * 4 + q / 16) :: UInt8.ofNat (q % 16 * 16 + r / 4) ::
        UInt8.ofNat (r % 4 * 64 + s) :: bytes

/-- The digits that a list of characters stands for, all of them. -/
def values? (alphabet : Alphabet) : List Char → Option (List Nat)
  | [] => some []
  | character :: rest =>
    match value? alphabet character with
    | some value => (values? alphabet rest).map (value :: ·)
    | none => none

/-- The bytes of a text, if it is the text of any. -/
def decode? (alphabet : Alphabet) (text : List Char) : Option (List UInt8) :=
  (values? alphabet text).bind regroup?

theorem value?_digit (alphabet : Alphabet) {value : Nat} (small : value < 64) :
    value? alphabet (digit alphabet value) = some value := by
  have check : ∀ n : Fin 64, value? .standard (digit .standard n.val) = some n.val ∧
      value? .urlSafe (digit .urlSafe n.val) = some n.val := by decide
  have := check ⟨value, small⟩
  cases alphabet
  · exact this.1
  · exact this.2

/-- Reading what was written gives the bytes back. -/
@[simp]
theorem decode?_encode (alphabet : Alphabet) (bytes : List UInt8) :
    decode? alphabet (encode alphabet bytes) = some bytes := by
  have join (byte : UInt8) (value : Nat) (same : value = byte.toNat) :
      UInt8.ofNat value = byte := by
    rw [same, UInt8.ofNat_toNat]
  fun_induction encode alphabet bytes with
  | case1 => rfl
  | case2 first a =>
    have := first.toNat_lt
    simp only [decode?, values?, value?_digit alphabet (show a / 4 < 64 by omega),
      value?_digit alphabet (show a % 4 * 16 < 64 by omega), Option.map_some, Option.bind_some,
      regroup?]
    rw [if_pos (by omega), join first _ (by omega)]
  | case3 first second a b =>
    have := first.toNat_lt
    have := second.toNat_lt
    simp only [decode?, values?, value?_digit alphabet (show a / 4 < 64 by omega),
      value?_digit alphabet (show a % 4 * 16 + b / 16 < 64 by omega),
      value?_digit alphabet (show b % 16 * 4 < 64 by omega), Option.map_some, Option.bind_some,
      regroup?]
    rw [if_pos (by omega), join first _ (by omega), join second _ (by omega)]
  | case4 first second third rest a b c ih =>
    have := first.toNat_lt
    have := second.toNat_lt
    have := third.toNat_lt
    obtain ⟨digits, read, regrouped⟩ := Option.bind_eq_some_iff.1 ih
    simp only [decode?, values?, value?_digit alphabet (show a / 4 < 64 by omega),
      value?_digit alphabet (show a % 4 * 16 + b / 16 < 64 by omega),
      value?_digit alphabet (show b % 16 * 4 + c / 64 < 64 by omega),
      value?_digit alphabet (show c % 64 < 64 by omega), read, Option.map_some,
      Option.bind_some, regroup?, regrouped]
    rw [join first _ (by omega), join second _ (by omega), join third _ (by omega)]

end OrgAccess.Base64
