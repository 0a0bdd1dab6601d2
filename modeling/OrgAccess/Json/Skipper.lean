import OrgAccess.Json.Reader

/-!
# Skipping a value

The value of a member that nobody asked for is skipped: its notation is checked, its numbers and
code points are not, and it may be nested to any depth. What is open around the current value is
kept as a list of brackets, the innermost first.
-/

namespace OrgAccess.Json

/-- What is open around a value. -/
inductive Bracket where
  | list
  | object
deriving DecidableEq

/-- Passes over a text after its opening quote. -/
def skipText : Input → Except Malformation Unit × Input
  | [] => (.error .endInString, [])
  | some '\\' :: [] => (.error .endInString, [])
  | some '\\' :: some 'u' :: some a :: some b :: some c :: some d :: rest =>
    if ([a, b, c, d].all fun digit => (Text.hexValue? digit).isSome) then skipText rest
    else (.error .invalidEscape, rest)
  | some '\\' :: some 'u' :: rest => ((hexStep rest).1.map fun _ => (), (hexStep rest).2)
  | some '\\' :: letter :: rest =>
    if (letter.bind shortEscape?).isSome then skipText rest else (.error .invalidEscape, rest)
  | character :: rest =>
    if character = some '"' then (.ok (), rest)
    else if character.any fun character => character.toNat < 0x20 then
      (.error .controlCharacter, rest)
    else skipText rest

/-- Skips the digits of a number and its exponent, if it has one. -/
def skipExponent (input : Input) : Except Malformation Unit × Input :=
  match input with
  | some 'e' :: rest | some 'E' :: rest =>
    let rest :=
      match rest with
      | some '+' :: rest | some '-' :: rest => rest
      | _ => rest
    match takeDigits rest with
    | ([], rest) => (.error .invalidNumber, rest.drop 1)
    | (_ :: _, rest) => (.ok (), rest)
  | _ => (.ok (), input)

/-- Passes over a number after its sign. -/
def skipNumber (input : Input) : Except Malformation Unit × Input :=
  match takeDigits input with
  | ([], rest) => (.error .invalidNumber, rest.drop 1)
  | ('0' :: _ :: _, _) => (.error .invalidNumber, input.drop 1)
  | (_ :: _, some '.' :: rest) =>
    match takeDigits rest with
    | ([], rest) => (.error .invalidNumber, rest)
    | (_ :: _, rest) => skipExponent rest
  | (_ :: _, rest) => skipExponent rest

/-- Skips a word or a number, or the opening bracket of what has to be skipped next. -/
def skipHead : Reader (Option Bracket) := do
  match ← peekToken with
  | none => .malformed .endInValue
  | some character =>
    match character with
    | some 'n' =>
      skip
      word "ull"
      return none
    | some 't' =>
      skip
      word "rue"
      return none
    | some 'f' =>
      skip
      word "alse"
      return none
    | some '-' =>
      skip
      Reader.ofStep skipNumber
      return none
    | some '"' =>
      skip
      Reader.ofStep skipText
      return none
    | some '[' =>
      skip
      return some .list
    | some '{' =>
      skip
      return some .object
    | _ =>
      if beginsNumber character then
        Reader.ofStep skipNumber
        return none
      else .malformed .expectedValue

/-- Passes over a key and its colon. -/
def skipKey : Reader Unit := do
  match ← peekToken with
  | none => .malformed .endInObject
  | some character =>
    if character = some '"' then
      skip
      Reader.ofStep skipText
    else .malformed .keyNotString
  match ← peekToken with
  | none => .malformed .endInObject
  | some character => if character = some ':' then skip else .malformed .expectedColon

/--
Goes on after a value, or after an opening bracket when `isOpening`: closes brackets until there
is another value to skip. Gives the brackets around that value, or none when all are closed.
-/
def closeBrackets : (brackets : List Bracket) → (isOpening : Bool) → Reader (List Bracket)
  | [], _ => return []
  | bracket :: outer, isOpening => do
    match ← peekToken with
    | none =>
      match bracket with
      | .list => .malformed .endInList
      | .object => .malformed .endInObject
    | some character =>
      if character = some ',' ∧ !isOpening then
        skip
        if bracket = .object then skipKey
        return bracket :: outer
      else if (character = some ']' ∧ bracket = .list) ∨
          (character = some '}' ∧ bracket = .object) then
        skip
        closeBrackets outer false
      else if isOpening then
        if bracket = .object then skipKey
        return bracket :: outer
      else
        match bracket with
        | .list => .malformed .expectedCommaOrListEnd
        | .object => .malformed .expectedCommaOrObjectEnd

/-- Skips values until every open bracket is closed; each one takes at least a character. -/
def skipValues : (fuel : Nat) → (brackets : List Bracket) → Reader Unit
  | 0, _ => .malformed .endInValue
  | fuel + 1, brackets => do
    let brackets ←
      match ← skipHead with
      | some bracket => closeBrackets (bracket :: brackets) true
      | none => closeBrackets brackets false
    if brackets.isEmpty then return () else skipValues fuel brackets

/-- Passes over a value of any depth. -/
def skipValue : Reader Unit := do
  skipValues ((← get).length + 1) []

end OrgAccess.Json
