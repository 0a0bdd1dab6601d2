import OrgAccess.Text.Hex

/-!
# Identifiers

Users, teams and tokens are named by 128-bit identifiers. The written form has 32 lower-case
hexadecimal digits in groups of 8, 4, 4, 4 and 12 joined by hyphens. Reading also accepts the
digits without hyphens, the hyphenated form in braces or after `urn:uuid:`, and capital letters.
-/

namespace OrgAccess

/-- A 128-bit identifier. -/
structure Uuid where
  /-- The 128 bits as one number. -/
  bits : BitVec 128
deriving DecidableEq

namespace Uuid

/-- The sizes of the groups of digits between hyphens. -/
def groupSizes : List Nat := [8, 4, 4, 4, 12]

/-- The number of digits in groups of these sizes. -/
def total : List Nat → Nat
  | [] => 0
  | size :: sizes => size + total sizes

/-- Cuts digits into groups of the given sizes and joins them with hyphens. -/
def group : List Nat → List Char → List Char
  | [], _ => []
  | [size], digits => digits.take size
  | size :: sizes, digits => digits.take size ++ '-' :: group sizes (digits.drop size)

/-- Takes the hyphens out between groups of the given sizes; every hyphen must be in its place. -/
def ungroup? : List Nat → List Char → Option (List Char)
  | [], text => if text.isEmpty then some [] else none
  | [size], text => if text.length = size then some text else none
  | size :: sizes, text =>
    match text.drop size with
    | '-' :: rest => (ungroup? sizes rest).map (text.take size ++ ·)
    | _ => none

/-- The digits of an identifier, most significant first. -/
def digits (id : Uuid) : List Char :=
  Text.hexDigits 32 id.bits.toNat

/-- The written form: lower case, with hyphens. -/
def text (id : Uuid) : String :=
  String.ofList (group groupSizes id.digits)

/-- The digits in one run, without hyphens. -/
def simpleText (id : Uuid) : String :=
  String.ofList id.digits

/-- Reads the digits of an identifier. -/
def ofDigits? (digits : List Char) : Option Uuid :=
  if digits.length = 32 then
    (Text.readHex? digits 0).map fun value => ⟨BitVec.ofNat 128 value⟩
  else none

/-- Reads five groups of digits joined by hyphens. -/
def ofHyphenated? (text : List Char) : Option Uuid :=
  (ungroup? groupSizes text).bind ofDigits?

/-- The mark that may stand before a hyphenated identifier, in either case of its letters. -/
def urnMark : List Char := "urn:uuid:".toList

/-- Reads an identifier in any of its written forms, which its length tells apart. -/
def ofText? (text : String) : Option Uuid :=
  let characters := text.toList
  if characters.length = 32 then ofDigits? characters
  else if characters.length = 36 then ofHyphenated? characters
  else if characters.length = 38 then
    if characters.head? = some '{' ∧ characters.getLast? = some '}' then
      ofHyphenated? (characters.drop 1).dropLast
    else none
  else if characters.length = 45 then
    if (characters.take 9).map Char.toLower = urnMark then
      ofHyphenated? (characters.drop 9)
    else none
  else none

/-- A random identifier: version 4 and the standard variant are written over the drawn bits. -/
def ofRandom (drawn : BitVec 128) : Uuid :=
  ⟨(drawn &&& ~~~ (0xF000C000000000000000 : BitVec 128)) |||
    (0x40008000000000000000 : BitVec 128)⟩

/-- Cutting and joining a run of the right length loses nothing. -/
theorem ungroup?_group (sizes : List Nat) (digits : List Char) (full : digits.length = total sizes) :
    ungroup? sizes (group sizes digits) = some digits := by
  induction sizes generalizing digits with
  | nil =>
    have : digits = [] := List.eq_nil_of_length_eq_zero (by simpa [total] using full)
    simp [ungroup?, group, this]
  | cons size sizes ih =>
    cases sizes with
    | nil =>
      have : digits.length = size := by simpa [total] using full
      simp [ungroup?, group, this, List.take_of_length_le]
    | cons next sizes =>
      have long : size ≤ digits.length := by
        simp only [total] at full
        omega
      have taken : (digits.take size).length = size := by simp [long]
      have rest := ih (digits.drop size) (by
        simp only [total, List.length_drop] at full ⊢
        omega)
      simp only [group, ungroup?]
      rw [List.drop_append_of_le_length (by omega), List.drop_of_length_le (by omega),
        List.take_append_of_le_length (by omega), List.take_of_length_le (by omega)]
      simp only [List.nil_append]
      rw [rest]
      simp

theorem length_group (sizes : List Nat) (digits : List Char) (full : digits.length = total sizes) :
    (group sizes digits).length = total sizes + (sizes.length - 1) := by
  induction sizes generalizing digits with
  | nil => rfl
  | cons size sizes ih =>
    cases sizes with
    | nil =>
      have : digits.length = size := by simpa [total] using full
      simp [group, total, this]
    | cons next sizes =>
      have rest := ih (digits.drop size) (by
        simp only [total, List.length_drop] at full ⊢
        omega)
      simp only [total] at full
      simp only [group, List.length_append, List.length_cons, rest, List.length_take,
        total]
      omega

theorem ofDigits?_digits (id : Uuid) : ofDigits? id.digits = some id := by
  have small : id.bits.toNat < 16 ^ 32 := id.bits.isLt
  simp [ofDigits?, digits, Text.readHex?_hexDigits small]

/-- Reading the written form of an identifier gives the identifier back. -/
@[simp]
theorem ofText?_text (id : Uuid) : ofText? id.text = some id := by
  have full : id.digits.length = total groupSizes := by simp [digits, groupSizes, total]
  have size : (group groupSizes id.digits).length = 36 := by
    rw [length_group _ _ full]
    rfl
  simp [ofText?, text, size, ofHyphenated?, ungroup?_group _ _ full, ofDigits?_digits]

theorem text_injective {first second : Uuid} (same : first.text = second.text) :
    first = second := by
  have := ofText?_text first
  rw [same, ofText?_text] at this
  exact (Option.some.inj this).symm

end Uuid

end OrgAccess
