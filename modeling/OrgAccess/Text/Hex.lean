/-!
# Hexadecimal digits

A number below a power of sixteen has one written form of that many lower-case digits; reading
accepts either case.
-/

namespace OrgAccess.Text

/-- The lower-case digit for a value below sixteen. -/
def hexDigit (value : Nat) : Char :=
  if value < 10 then Char.ofNat (48 + value) else Char.ofNat (87 + value)

/-- The value of a hexadecimal digit in either case. -/
def hexValue? (digit : Char) : Option Nat :=
  let code := digit.toNat
  if 48 ≤ code ∧ code ≤ 57 then some (code - 48)
  else if 97 ≤ code ∧ code ≤ 102 then some (code - 87)
  else if 65 ≤ code ∧ code ≤ 70 then some (code - 55)
  else none

/-- The last `count` hexadecimal digits of a number, most significant first. -/
def hexDigits : (count : Nat) → (value : Nat) → List Char
  | 0, _ => []
  | count + 1, value => hexDigits count (value / 16) ++ [hexDigit (value % 16)]

/-- The number that a list of hexadecimal digits writes after what was read before. -/
def readHex? : List Char → (soFar : Nat) → Option Nat
  | [], soFar => some soFar
  | digit :: digits, soFar =>
    match hexValue? digit with
    | some value => readHex? digits (16 * soFar + value)
    | none => none

@[simp]
theorem length_hexDigits (count value : Nat) : (hexDigits count value).length = count := by
  induction count generalizing value with
  | zero => rfl
  | succ count ih => simp [hexDigits, ih]

theorem hexValue?_hexDigit {value : Nat} (small : value < 16) :
    hexValue? (hexDigit value) = some value := by
  have check : ∀ digit : Fin 16, hexValue? (hexDigit digit.val) = some digit.val := by decide
  exact check ⟨value, small⟩

theorem readHex?_append (digits : List Char) (last : Char) (soFar : Nat) :
    readHex? (digits ++ [last]) soFar =
      (readHex? digits soFar).bind fun value => readHex? [last] value := by
  induction digits generalizing soFar with
  | nil => rfl
  | cons digit digits ih =>
    simp only [List.cons_append, readHex?]
    cases hexValue? digit with
    | none => rfl
    | some value => exact ih _

/-- Reading the written digits of a number gives the number back. -/
theorem readHex?_hexDigits {count value : Nat} (small : value < Nat.pow 16 count) :
    readHex? (hexDigits count value) 0 = some value := by
  induction count generalizing value with
  | zero =>
    have : value = 0 := by simpa using small
    simp [hexDigits, readHex?, this]
  | succ count ih =>
    have smaller : value / 16 < Nat.pow 16 count :=
      Nat.div_lt_of_lt_mul (Nat.mul_comm 16 _ ▸ small)
    rw [hexDigits, readHex?_append, ih smaller]
    simp [readHex?, hexValue?_hexDigit (Nat.mod_lt value (by decide : 16 > 0))]
    omega

end OrgAccess.Text
