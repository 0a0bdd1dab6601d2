import OrgAccess.Number.Binary64
import OrgAccess.Text.Blank
import OrgAccess.Text.Decimal
import OrgAccess.Text.Quoted

/-!
# Durations

A duration is a span of time that is not negative. It is written as segments, each a decimal number
and a unit, as in `1h30m`; a lone zero needs no unit. The segments are added up in seconds, in
64-bit floating point and from left to right, and the sum is rounded to the nearest nanosecond.
-/

namespace OrgAccess

/-- A span of time that is not negative. -/
structure Duration where
  nanos : Nat
deriving DecidableEq

/-- Why a text is no duration; all but the first repeat the text. -/
inductive DurationError where
  | empty
  /-- A segment does not begin with a number. -/
  | expectedNumber (input : String)
  /-- A number has no digit or several points. -/
  | invalidNumber (input : String)
  /-- A number stands at the end without a unit. -/
  | missingUnit (input : String)
  | unknownUnit (unit input : String)
  | outOfRange (input : String)
deriving DecidableEq

/-- How a message tells why a text is no duration. -/
def DurationError.message : DurationError → String
  | empty => "empty duration"
  | expectedNumber input => "expected a number in " ++ Text.quoted input
  | invalidNumber input => "invalid number in " ++ Text.quoted input
  | missingUnit input => "missing unit in " ++ Text.quoted input
  | unknownUnit unit input =>
    "unknown unit " ++ Text.quoted unit ++ " in " ++ Text.quoted input
  | outOfRange input => "duration out of range in " ++ Text.quoted input

namespace Duration

/-- The whole seconds of a duration. -/
def seconds (duration : Duration) : Nat :=
  duration.nanos / 1000000000

/-- What is left of a duration after its whole seconds, in nanoseconds. -/
def subsecondNanos (duration : Duration) : Nat :=
  duration.nanos % 1000000000

/-! ## Reading -/

/-- Whether a character may stand in the number of a segment. -/
def isNumberCharacter (character : Char) : Bool :=
  Text.isDigit character || character == '.'

/-- Whether a character belongs to the unit of a segment. -/
def isUnitCharacter (character : Char) : Bool :=
  !isNumberCharacter character

/-- The decimal number that a text of digits and points writes. -/
def number? (text : List Char) : Option Binary64 :=
  let whole := text.takeWhile Text.isDigit
  let fraction := (text.dropWhile Text.isDigit).drop 1
  if fraction.all Text.isDigit ∧ !(whole ++ fraction).isEmpty then
    some (Binary64.ofDecimal (Text.decimalValue (whole ++ fraction)) (-fraction.length))
  else none

/-- The seconds of a unit. -/
def unitSeconds? (unit : List Char) : Option Binary64 :=
  if unit = "ms".toList then some (Binary64.ofQuotient 1 1000)
  else if unit = "s".toList then some (Binary64.ofNat 1)
  else if unit = "m".toList then some (Binary64.ofNat 60)
  else if unit = "h".toList then some (Binary64.ofNat 3600)
  else if unit = "d".toList then some (Binary64.ofNat 86400)
  else none

/-- The seconds of a segment, or what is wrong with it. -/
def segmentSeconds (input : String) (number unit : List Char) :
    Except DurationError Binary64 :=
  if number.isEmpty then .error (.expectedNumber input)
  else match number? number with
    | none => .error (.invalidNumber input)
    | some value =>
      match unitSeconds? unit with
      | some seconds => .ok (value.mul seconds)
      | none =>
        if unit.isEmpty then .error (.missingUnit input)
        else .error (.unknownUnit (String.ofList unit) input)

/-- The sum of the segments of a text and of what was added up before, in seconds. -/
def addSegments (input : String) (text : List Char) (total : Binary64) :
    Except DurationError Binary64 :=
  match text with
  | [] => .ok total
  | first :: text =>
    if isNumberCharacter first then
      let afterNumber := text.dropWhile isNumberCharacter
      let number := first :: text.takeWhile isNumberCharacter
      match segmentSeconds input number (afterNumber.takeWhile isUnitCharacter) with
      | .error error => .error error
      | .ok seconds =>
        addSegments input (afterNumber.dropWhile isUnitCharacter) (total.add seconds)
    else .error (.expectedNumber input)
termination_by text.length
decreasing_by
  have := (List.dropWhile_suffix isUnitCharacter (l := text.dropWhile isNumberCharacter)).length_le
  have := (List.dropWhile_suffix isNumberCharacter (l := text)).length_le
  simp only [List.length_cons]
  omega

/-- The duration nearest to a number of seconds, if there are fewer than `2 ^ 64`. -/
def ofSeconds? : Binary64 → Option Duration
  | .infinite => none
  | .finite mantissa exponent =>
    let (numerator, denominator) := Binary64.toQuotient mantissa exponent
    if numerator < 0x10000000000000000 * denominator then
      some ⟨roundDiv (numerator * 1000000000) denominator⟩
    else none

/-- Reads a duration: segments, each of a number and a unit, or a bare zero. -/
def ofText (text : String) : Except DurationError Duration :=
  let input := Text.trim text
  if input = "" then .error .empty
  else if input = "0" then .ok ⟨0⟩
  else
    match addSegments input input.toList (.finite 0 0) with
    | .error error => .error error
    | .ok seconds =>
      match ofSeconds? seconds with
      | some duration => .ok duration
      | none => .error (.outOfRange input)

/-! ## Writing -/

/-- A number with `places` decimals, of which zeros at the end are left out. -/
def decimalText (whole fraction places : Nat) : String :=
  let digits := Text.padded places fraction
  let kept := (digits.reverse.dropWhile fun digit => digit == '0').reverse
  if fraction = 0 then toString whole
  else toString whole ++ "." ++ String.ofList kept

/-- The written form for diagnostics, in the largest unit of which there is at least one. -/
def describe (duration : Duration) : String :=
  let nanos := duration.subsecondNanos
  if duration.seconds > 0 then decimalText duration.seconds nanos 9 ++ "s"
  else if nanos ≥ 1000000 then decimalText (nanos / 1000000) (nanos % 1000000) 6 ++ "ms"
  else if nanos ≥ 1000 then decimalText (nanos / 1000) (nanos % 1000) 3 ++ "µs"
  else toString nanos ++ "ns"

end Duration

end OrgAccess
