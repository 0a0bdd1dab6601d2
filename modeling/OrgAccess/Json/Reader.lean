import OrgAccess.Json.Fault
import OrgAccess.Text.Blank
import OrgAccess.Text.Hex

/-!
# Reading JSON step by step

A reader takes some of a text and gives a value or a refusal, and the rest of the text in either
case: what was read before a refusal stays read. The text is a list of characters in which `none`
stands for a malformed byte.

This module holds the readers of the tokens: blank space, words, strings and numbers.
-/

namespace OrgAccess.Json

/-- A text that is being read; `none` is a byte that belongs to no character. -/
abbrev Input := List (Option Char)

/-- A reader of values from the front of a text. -/
abbrev Reader (α : Type) := ExceptT Refusal (StateM Input) α

namespace Reader

/-- Refuses the text for its form. -/
def malformed {α : Type} (malformation : Malformation) : Reader α :=
  throw ⟨none, .malformed malformation⟩

/-- Refuses the text for what it says. -/
def mismatched {α : Type} (mismatch : Mismatch) : Reader α :=
  throw ⟨none, .mismatched mismatch⟩

/-- Gives a refusal its place, unless it has one. -/
def inside {α : Type} (place : Place) (reader : Reader α) : Reader α :=
  tryCatch reader fun refusal => throw { refusal with place := refusal.place <|> some place }

/-- What a step on the text gives, with the rest of the text. -/
def ofStep {α : Type} (step : Input → Except Malformation α × Input) : Reader α := do
  let (result, rest) := step (← get)
  set rest
  match result with
  | .ok value => return value
  | .error malformation => malformed malformation

end Reader

/-! ## Bytes -/

/-- How many bytes a character takes; a broken byte is one. -/
def byteSize (character : Option Char) : Nat :=
  (character.map Char.utf8Size).getD 1

/-- The text without its first bytes; what is left of a character counts as a malformed byte. -/
def dropBytes : (count : Nat) → Input → Input
  | _, [] => []
  | count, character :: rest =>
    if count = 0 then character :: rest
    else if byteSize character ≤ count then dropBytes (count - byteSize character) rest
    else none :: rest

theorem length_dropBytes (count : Nat) (input : Input) :
    (dropBytes count input).length ≤ input.length := by
  induction input generalizing count with
  | nil => simp [dropBytes]
  | cons character rest ih =>
    unfold dropBytes
    split
    · exact Nat.le_refl _
    · split
      · exact Nat.le_succ_of_le (ih _)
      · exact Nat.le_refl _

/-! ## Blank space and words -/

/-- Whether a character is blank between tokens. -/
def isSpace (character : Option Char) : Bool :=
  character == some ' ' || character == some '\n' || character == some '\t' ||
    character == some '\r'

/-- Passes over blank space. -/
def skipSpace : Reader Unit :=
  modify fun input => input.dropWhile isSpace

/-- The next character, which stays unread; `none` at the end of the text. -/
def peek : Reader (Option (Option Char)) :=
  return (← get).head?

/-- Passes over a character. -/
def skip : Reader Unit :=
  modify fun input => input.drop 1

/-- The next character after blank space, which stays unread. -/
def peekToken : Reader (Option (Option Char)) := do
  skipSpace
  peek

/-- Reads the rest of a word of which the first letter was read. -/
def wordStep : List Char → Input → Except Malformation Unit × Input
  | [], input => (.ok (), input)
  | _ :: _, [] => (.error .endInValue, [])
  | letter :: letters, character :: rest =>
    if character = some letter then wordStep letters rest
    else (.error .expectedWord, dropBytes 1 (character :: rest))

/-- Reads the rest of a word of which the first letter was read. -/
def word (letters : String) : Reader Unit :=
  .ofStep (wordStep letters.toList)

/-! ## Strings -/

/-- How many bytes the first characters of a text take. -/
def bytesAhead : (count : Nat) → Input → Nat
  | count + 1, character :: rest => byteSize character + bytesAhead count rest
  | _, _ => 0

/-- Reads four hexadecimal digits. -/
def hex? : Input → Option (Nat × Input)
  | some a :: some b :: some c :: some d :: rest =>
    match Text.readHex? [a, b, c, d] 0 with
    | some value => some (value, rest)
    | none => none
  | _ => none

/-- Reads four hexadecimal digits, or tells whether the text ends before them. -/
def hexStep (input : Input) : Except Malformation Nat × Input :=
  match hex? input with
  | some (value, rest) => (.ok value, rest)
  | none =>
    if bytesAhead 4 input < 4 then (.error .endInString, []) else
      (.error .invalidEscape, dropBytes 4 input)

theorem length_hexStep (input : Input) : (hexStep input).2.length ≤ input.length := by
  unfold hexStep
  split
  · next value rest found =>
    unfold hex? at found
    split at found
    · split at found
      · cases found
        simp
        omega
      · cases found
    · cases found
  · split
    · simp
    · exact length_dropBytes 4 input

/-- Whether a code unit is the first half of a pair. -/
def isLeading (unit : Nat) : Bool :=
  0xD800 ≤ unit && unit ≤ 0xDBFF

/-- Whether a code unit is the second half of a pair. -/
def isTrailing (unit : Nat) : Bool :=
  0xDC00 ≤ unit && unit ≤ 0xDFFF

/-- Reads the character that an escape with digits stands for, after its letter. -/
def unicodeStep (input : Input) : Except Malformation Char × Input :=
  match hexStep input with
  | (.error malformation, rest) => (.error malformation, rest)
  | (.ok unit, rest) =>
    if isTrailing unit then (.error .loneSurrogate, rest)
    else if isLeading unit then
      match rest with
      | [] => (.error .endInString, [])
      | some '\\' :: [] => (.error .endInString, [])
      | some '\\' :: some 'u' :: rest =>
        match hexStep rest with
        | (.error malformation, rest) => (.error malformation, rest)
        | (.ok second, rest) =>
          if isTrailing second then
            (.ok (Char.ofNat (0x10000 + (unit - 0xD800) * 0x400 + (second - 0xDC00))), rest)
          else (.error .loneSurrogate, rest)
      | some '\\' :: rest => (.error .halfSurrogatePair, dropBytes 1 rest)
      | rest => (.error .halfSurrogatePair, dropBytes 1 rest)
    else (.ok (Char.ofNat unit), rest)

theorem length_unicodeStep (input : Input) : (unicodeStep input).2.length ≤ input.length := by
  unfold unicodeStep
  have first := length_hexStep input
  split
  · next rest step =>
    rw [step] at first
    exact first
  · next unit rest step =>
    rw [step] at first
    split
    · exact first
    · split
      · split
        · simp
        · simp
        · next rest =>
          have second := length_hexStep rest
          split
          · next last step => rw [step] at second; simp at first second ⊢; omega
          · next last step =>
            rw [step] at second
            split <;> (simp at first second ⊢; omega)
        · next rest _ _ =>
          have last := length_dropBytes 1 rest
          simp at first ⊢
          omega
        · exact Nat.le_trans (length_dropBytes 1 rest) first
      · exact first

/-- The character that an escape letter stands for. -/
def shortEscape? : Char → Option Char
  | '"' => some '"'
  | '\\' => some '\\'
  | '/' => some '/'
  | 'b' => some '\x08'
  | 'f' => some '\x0C'
  | 'n' => some '\n'
  | 'r' => some '\r'
  | 't' => some '\t'
  | _ => none

/-- Reads the character that an escape stands for, after the backslash. -/
def escapeStep : Input → Except Malformation Char × Input
  | [] => (.error .endInString, [])
  | some 'u' :: rest => unicodeStep rest
  | some letter :: rest =>
    match shortEscape? letter with
    | some character => (.ok character, rest)
    | none => (.error .invalidEscape, dropBytes 1 (some letter :: rest))
  | none :: rest => (.error .invalidEscape, rest)

theorem length_escapeStep (input : Input) : (escapeStep input).2.length ≤ input.length := by
  unfold escapeStep
  split
  · simp
  · next rest =>
    have := length_unicodeStep rest
    simp
    omega
  · next letter rest _ =>
    split
    · simp
    · exact length_dropBytes 1 (some letter :: rest)
  · simp

/--
Reads a string after its opening quote. Characters that were read come last one first; a malformed
byte is reported when the string ends.
-/
def textStep (read : List Char) (isWhole : Bool) (input : Input) :
    Except Malformation String × Input :=
  match input with
  | [] => (.error .endInString, [])
  | none :: rest => textStep read false rest
  | some character :: rest =>
    if character = '"' then
      (if isWhole then .ok (String.ofList read.reverse) else .error .invalidCharacter, rest)
    else if character = '\\' then
      match _step : escapeStep rest with
      | (.ok escaped, after) => textStep (escaped :: read) isWhole after
      | (.error malformation, after) => (.error malformation, after)
    else if character.toNat < 0x20 then (.error .controlCharacter, rest)
    else textStep (character :: read) isWhole rest
termination_by input.length
decreasing_by
  · simp
  · have := length_escapeStep rest
    rw [_step] at this
    simp at this ⊢
    omega
  · simp

/-- Reads a text after its opening quote. -/
def textBody : Reader String :=
  .ofStep (textStep [] true)

/-! ## Numbers -/

/-- The run of digits at the front of a text, and the rest. -/
def takeDigits (input : Input) : List Char × Input :=
  let isDigit (character : Option Char) : Bool := character.any Text.isDigit
  ((input.takeWhile isDigit).filterMap id, input.dropWhile isDigit)

/-- The largest natural number that is kept as a whole number. -/
def largestNatural : Nat := 0xFFFFFFFFFFFFFFFF

/-- Takes digits into a number as long as it stays within 64 bits; how many were left out. -/
def accumulate : List Char → (value : Nat) → (taken : Nat) → Nat × Nat × Nat
  | [], value, taken => (value, taken, 0)
  | digit :: digits, value, taken =>
    let next := 10 * value + Text.digitValue digit
    if next > largestNatural then (value, taken, digits.length + 1)
    else accumulate digits next (taken + 1)

/-- `significand * 10 ^ exponent` in steps of at most 308 powers of ten, each step rounded. -/
def scaleByTens (significand : Binary64) : (fuel : Nat) → (exponent : Int) → Option Binary64
  | 0, _ => none
  | fuel + 1, exponent =>
    if -308 ≤ exponent ∧ exponent ≤ 308 then
      let power := Binary64.ofNat (Nat.pow 10 exponent.natAbs)
      let scaled := if exponent ≥ 0 then significand.mul power else significand.div power
      if scaled.isFinite then some scaled else none
    else if significand.isZero then some significand
    else if exponent ≥ 0 then none
    else scaleByTens (significand.div (Binary64.ofNat (Nat.pow 10 308))) fuel (exponent + 308)

/-- The number with these parts, if it is not too large. -/
def decimalNumber (isNegative : Bool) (significand : Nat) (exponent : Int) :
    Except Malformation Number :=
  let clamped := max exponent (-4000)
  match scaleByTens (Binary64.ofNat significand) 20 clamped with
  | some magnitude => .ok (.decimal isNegative magnitude)
  | none => .error .numberTooLarge

/-- The largest exponent that is taken into account. -/
def largestExponent : Nat := 0x7FFFFFFF

/-- The value of the digits of an exponent; what is left once it has become too large. -/
def exponentValue (value : Nat) : Input → Except Input Nat × Input
  | character :: rest =>
    match character.filter Text.isDigit with
    | some digit =>
      let next := 10 * value + Text.digitValue digit
      if next > largestExponent then (.error rest, (takeDigits rest).2)
      else exponentValue next rest
    | none => (.ok value, character :: rest)
  | [] => (.ok value, [])

/-- Reads an exponent after its letter. -/
def exponentStep (isNegative : Bool) (significand : Nat) (exponent : Int) (input : Input) :
    Except Malformation Number × Input :=
  let (isPositive, input) :=
    match input with
    | some '+' :: rest => (true, rest)
    | some '-' :: rest => (false, rest)
    | _ => (true, input)
  match input with
  | [] => (.error .endInValue, [])
  | character :: rest =>
    if character.any Text.isDigit then
      match exponentValue 0 (character :: rest) with
      | (.ok size, rest) =>
        (decimalNumber isNegative significand
          (if isPositive then exponent + size else exponent - size), rest)
      | (.error unread, rest) =>
        if significand ≠ 0 ∧ isPositive then (.error .numberTooLarge, unread)
        else (.ok (.decimal isNegative (.finite 0 0)), rest)
    else (.error .invalidNumber, dropBytes 1 (character :: rest))

/-- Reads what may follow the digits of a number: an exponent or nothing. -/
def afterDigits (isNegative : Bool) (significand : Nat) (exponent : Int) (input : Input) :
    Except Malformation Number × Input :=
  match input with
  | some 'e' :: rest | some 'E' :: rest => exponentStep isNegative significand exponent rest
  | _ => (decimalNumber isNegative significand exponent, input)

/-- Reads the digits after a point. -/
def fractionStep (isNegative : Bool) (significand : Nat) (exponent : Int) (input : Input) :
    Except Malformation Number × Input :=
  let (digits, rest) := takeDigits input
  match digits with
  | [] =>
    match rest with
    | [] => (.error .endInValue, [])
    | _ :: _ => (.error .invalidNumber, rest)
  | digits =>
    let (significand, taken, _) := accumulate digits significand 0
    afterDigits isNegative significand (exponent - taken) rest

/-- Reads a number after its sign. -/
def numberStep (isNegative : Bool) (input : Input) : Except Malformation Number × Input :=
  let (digits, rest) := takeDigits input
  match digits with
  | [] =>
    match rest with
    | [] => (.error .endInValue, [])
    | _ :: _ => (.error .invalidNumber, dropBytes 1 rest)
  | '0' :: _ :: _ => (.error .invalidNumber, input.drop 1)
  | digits =>
    let (significand, _, left) := accumulate digits 0 0
    match rest with
    | some '.' :: rest => fractionStep isNegative significand left rest
    | some 'e' :: _ | some 'E' :: _ => afterDigits isNegative significand left rest
    | _ =>
      if left > 0 then (decimalNumber isNegative significand left, rest)
      else if !isNegative then (.ok (.natural significand), rest)
      else if 0 < significand ∧ significand ≤ 0x8000000000000000 then (.ok (.negative significand), rest)
      else (.ok (.decimal true (Binary64.ofNat significand)), rest)

/-- Reads a number whose sign has been read. -/
def number (isNegative : Bool) : Reader Number :=
  .ofStep (numberStep isNegative)

/-! ## Values of an unwanted kind -/

/-- Whether a character begins a number without a sign. -/
def beginsNumber (character : Option Char) : Bool :=
  character.any Text.isDigit

/-- Reads enough of the next value to tell what it is; of an array or an object, nothing. -/
def found : Reader Found := do
  match ← peekToken with
  | none => .malformed .endInValue
  | some character =>
    match character with
    | some 'n' =>
      skip
      word "ull"
      return .null
    | some 't' =>
      skip
      word "rue"
      return .boolean true
    | some 'f' =>
      skip
      word "alse"
      return .boolean false
    | some '-' =>
      skip
      return .number (← number true)
    | some '"' =>
      skip
      return .text (← textBody)
    | some '[' => return .list
    | some '{' => return .object
    | _ =>
      if beginsNumber character then return .number (← number false)
      else .malformed .expectedValue

/-- Refuses the next value, which is none of what was expected. -/
def refuse {α : Type} (expected : String) : Reader α := do
  .mismatched (.wrongKind (← found) expected)

end OrgAccess.Json
