import OrgAccess.Text.Blank
import OrgAccess.Text.Decimal
import OrgAccess.Text.Utf8
import OrgAccess.Time.Calendar
import OrgAccess.Time.Instant

/-!
# Written instants

An instant is written as a date and a time of day in UTC with a `T` between them and a `Z` behind:
`2024-01-02T03:04:05.250Z`. A fraction has three, six or nine digits, as few as hold it, and none
when it is zero. A year outside four digits has a sign. Reading is more liberal: it allows blank
space between the parts, a lower-case or missing `T`, any number of fraction digits and any offset
from UTC of less than a day.
-/

namespace OrgAccess

/-- Why a text is no instant. -/
inductive TimeFault where
  /-- A number is too large, or there is no such day. -/
  | outOfRange
  /-- No instant of the supported range is meant. -/
  | impossible
  /-- A character stands where it may not. -/
  | invalid
  | tooShort
  | tooLong
deriving DecidableEq

/-- How a message tells why a text is no instant. -/
def TimeFault.message : TimeFault → String
  | outOfRange => "input is out of range"
  | impossible => "no possible date and time matching input"
  | invalid => "input contains invalid characters"
  | tooShort => "premature end of input"
  | tooLong => "trailing input"

namespace Instant

/-! ## Writing -/

/-- A year, with a sign unless it has up to four digits. -/
def renderYear (year : Int) : List Char :=
  if 0 ≤ year ∧ year ≤ 9999 then Text.padded 4 year.toNat
  else (if year < 0 then '-' else '+') :: Text.padded 4 year.natAbs

/-- A fraction of a second, with as many groups of three digits as it needs. -/
def renderFraction (nanos : Nat) : List Char :=
  if nanos = 0 then []
  else if nanos % 1000000 = 0 then '.' :: Text.padded 3 (nanos / 1000000)
  else if nanos % 1000 = 0 then '.' :: Text.padded 6 (nanos / 1000)
  else '.' :: Text.padded 9 nanos

/-- The written form of an instant; a leap second is the sixtieth of its minute. -/
def render (instant : Instant) : List Char :=
  let date := Calendar.Date.ofDays (instant.seconds / 86400)
  let secondOfDay := (instant.seconds % 86400).toNat
  let isLeap := instant.nanos ≥ 1000000000
  let second := if isLeap then secondOfDay % 60 + 1 else secondOfDay % 60
  let nanos := if isLeap then instant.nanos - 1000000000 else instant.nanos
  renderYear date.year ++ '-' :: Text.padded 2 date.month ++ '-' :: Text.padded 2 date.day ++
    'T' :: Text.padded 2 (secondOfDay / 3600) ++ ':' :: Text.padded 2 (secondOfDay / 60 % 60) ++
    ':' :: Text.padded 2 second ++ renderFraction nanos ++ ['Z']

/-- The text of an instant. -/
def toRfc3339 (instant : Instant) : String :=
  String.ofList instant.render

/-! ## Reading -/

/-!
Each step of reading gives a value and the rest of the text, or a fault.
-/

/-- Reads a run of digits, at least one and at most `most`. -/
def readDigits (most : Option Nat) (text : List Char) : Except TimeFault (Nat × List Char) :=
  match text with
  | [] => .error .tooShort
  | _ =>
    let run := text.takeWhile Text.isDigit
    let digits := (most.map run.take).getD run
    if digits.isEmpty then .error .invalid
    else .ok (Text.decimalValue digits, text.drop digits.length)

/-- Reads a number of up to two digits between bounds, after blank space. -/
def readPart (least greatest : Nat) (text : List Char) : Except TimeFault (Nat × List Char) := do
  let (value, rest) ← readDigits (some 2) (Text.trimLeft text)
  if least ≤ value ∧ value ≤ greatest then return (value, rest) else throw .outOfRange

/-- Reads a year: up to four digits, or any number of them after a sign. -/
def readYear (text : List Char) : Except TimeFault (Int × List Char) := do
  let (year, rest) ←
    match Text.trimLeft text with
    | '-' :: rest => (readDigits none rest).map fun (value, rest) => (-(value : Int), rest)
    | '+' :: rest => (readDigits none rest).map fun (value, rest) => ((value : Int), rest)
    | text => (readDigits (some 4) text).map fun (value, rest) => ((value : Int), rest)
  if -0x80000000 ≤ year ∧ year < 0x80000000 then return (year, rest) else throw .outOfRange

/-- Reads one given character, after blank space. -/
def readMark (mark : Char) (text : List Char) : Except TimeFault (List Char) :=
  match Text.trimLeft text with
  | [] => .error .tooShort
  | character :: rest => if character = mark then .ok rest else .error .invalid

/-- Reads a fraction of a second in nanoseconds, if there is one; digits after the ninth count not. -/
def readFraction (text : List Char) : Except TimeFault (Nat × List Char) :=
  match text with
  | '.' :: rest => do
    let (_, after) ← readDigits none rest
    let digits := (rest.takeWhile Text.isDigit).take 9
    return (Text.decimalValue digits * Nat.pow 10 (9 - digits.length), after)
  | _ => .ok (0, text)

/-- Reads the character between date and time of day. -/
def readSeparator (text : List Char) : Except TimeFault (List Char) :=
  match text with
  | 't' :: rest | 'T' :: rest | ' ' :: rest => .ok rest
  | _ :: _ => .error .invalid
  | [] => .error .tooShort

/-- Reads two digits, or tells whether too little is left or a character is wrong. -/
def readTwoDigits (text : List Char) : Except TimeFault ((Nat × Nat) × List Char) :=
  match text with
  | first :: second :: rest =>
    if Text.isDigit first && Text.isDigit second then
      .ok ((Text.digitValue first, Text.digitValue second), rest)
    else .error .invalid
  | _ => if Text.byteCount text < 2 then .error .tooShort else .error .invalid

/-- Reads hours and minutes of an offset, in seconds. -/
def readOffsetSize (text : List Char) : Except TimeFault (Nat × List Char) := do
  let ((h1, h2), rest) ← readTwoDigits text
  let rest := rest.dropWhile fun character => character == ':' || Text.isBlank character
  let ((m1, m2), rest) ← readTwoDigits rest
  if m1 > 5 then throw .outOfRange
  return ((10 * h1 + h2) * 3600 + (10 * m1 + m2) * 60, rest)

/-- Reads how far a time is ahead of UTC, in seconds. -/
def readOffset (text : List Char) : Except TimeFault (Int × List Char) :=
  if (text.take 3).map Char.toLower = "utc".toList then .ok (0, text.drop 3)
  else match text with
    | [] => .error .tooShort
    | sign :: rest =>
      if sign = 'z' ∨ sign = 'Z' then .ok (0, rest)
      else if sign = '+' then
        (readOffsetSize rest).map fun (size, rest) => ((size : Int), rest)
      else if sign = '-' ∨ sign = '−' then
        (readOffsetSize rest).map fun (size, rest) => (-(size : Int), rest)
      else .error .invalid

/-- The instant with these parts, read off a clock that is `offset` seconds ahead of UTC. -/
def ofParts (date : Calendar.Date) (hour minute second nanos : Nat) (offset : Int) :
    Except TimeFault Instant :=
  if !date.isValid || date.year < -262143 || date.year > 262142 then .error .outOfRange
  else if offset ≤ -86400 ∨ offset ≥ 86400 then .error .outOfRange
  else
    let isLeap := second = 60
    let second := if isLeap then 59 else second
    let nanos := if isLeap then nanos + 1000000000 else nanos
    let clock := date.toDays * 86400 + (hour * 3600 + minute * 60 + second : Nat)
    match ofUnix? (clock - offset) nanos with
    | some instant => .ok instant
    | none => .error .impossible

/-- Reads an instant part by part. -/
def ofRfc3339 (text : String) : Except TimeFault Instant := do
  let (year, rest) ← readYear text.toList
  let (month, rest) ← readPart 1 12 (← readMark '-' rest)
  let (day, rest) ← readPart 1 31 (← readMark '-' rest)
  let (hour, rest) ← readPart 0 23 (← readSeparator rest)
  let (minute, rest) ← readPart 0 59 (← readMark ':' rest)
  let (second, rest) ← readPart 0 60 (← readMark ':' rest)
  let (nanos, rest) ← readFraction rest
  let (offset, rest) ← readOffset (Text.trimLeft rest)
  if !(Text.trimLeft rest).isEmpty then throw .tooLong
  ofParts ⟨year, month, day⟩ hour minute second nanos offset

end Instant

end OrgAccess
