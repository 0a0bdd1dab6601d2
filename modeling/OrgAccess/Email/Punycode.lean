import OrgAccess.Text.Decimal

/-!
# Punycode

Any label can be written with the characters of host names. The plain characters come first, and
after a hyphen follow numbers of variable length that say where the others stand, in the order of
their code points.
-/

namespace OrgAccess.Email.Punycode

/-- The number of different digits. -/
def base : Nat := 36

/-- The digit of a value: letters come before the ten digits. -/
def digit (value : Nat) : Char :=
  if value < 26 then Char.ofNat (97 + value) else Char.ofNat (22 + value)

/-- What a digit stands for, whatever its case. -/
def digitValue? (digit : Char) : Option Nat :=
  if 'a' ≤ digit ∧ digit ≤ 'z' then some (digit.toNat - 97)
  else if Text.isDigit digit then some (digit.toNat - 22)
  else if 'A' ≤ digit ∧ digit ≤ 'Z' then some (digit.toNat - 65)
  else none

/-- The least value of a digit at a position after which another one follows. -/
def threshold (position bias : Nat) : Nat :=
  if position ≤ bias then 1 else if position ≥ bias + 26 then 26 else position - bias

theorem threshold_pos (position bias : Nat) : 1 ≤ threshold position bias := by
  unfold threshold
  split
  · omega
  · split <;> omega

/-- The bias that suits a delta, to which each further digit adds. -/
def scaleDelta (delta position : Nat) : Nat :=
  if delta > 455 then scaleDelta (delta / 35) (position + base)
  else position + 36 * delta / (delta + 38)
termination_by delta
decreasing_by exact Nat.div_lt_self (by omega) (by omega)

/-- The bias after a delta among so many characters. -/
def adapt (delta count : Nat) (isFirst : Bool) : Nat :=
  let delta := if isFirst then delta / 700 else delta / 2
  scaleDelta (delta + delta / count) 0

/-- The digits of a delta, least significant first; the bias tells where they end. -/
def encodeDelta (delta position bias : Nat) : List Char :=
  let least := threshold position bias
  if least ≤ delta then
    digit (least + (delta - least) % (base - least)) ::
      encodeDelta ((delta - least) / (base - least)) (position + base) bias
  else [digit delta]
termination_by delta
decreasing_by
  have := threshold_pos position bias
  exact Nat.lt_of_le_of_lt (Nat.div_le_self _ _) (by omega)

/-- Where the encoder stands: the delta so far, the bias, and how many characters are written. -/
structure Progress where
  /-- The delta since the last character written. -/
  delta : Nat
  bias : Nat
  written : Nat

/-- Writes every occurrence of a code point among the characters of a label. -/
def encodeOccurrences (code plain : Nat) : List Char → Progress → List Char × Progress
  | [], progress => ([], progress)
  | character :: rest, progress =>
    if character.toNat < code then
      encodeOccurrences code plain rest { progress with delta := progress.delta + 1 }
    else if character.toNat = code then
      let digits := encodeDelta progress.delta base progress.bias
      let (more, last) := encodeOccurrences code plain rest {
        delta := 0
        bias := adapt progress.delta (progress.written + 1) (progress.written == plain)
        written := progress.written + 1 }
      (digits ++ more, last)
    else encodeOccurrences code plain rest progress

/-- Writes the code points of an increasing list, `previous` being the last one before. -/
def encodeCodes (label : List Char) (plain : Nat) :
    (codes : List Nat) → (previous : Nat) → Progress → List Char
  | [], _, _ => []
  | code :: codes, previous, progress =>
    let skipped := (code - previous) * (progress.written + 1)
    let (digits, last) := encodeOccurrences code plain label
      { progress with delta := progress.delta + skipped }
    digits ++ encodeCodes label plain codes (code + 1) { last with delta := last.delta + 1 }

/-- The code points of a list in increasing order, each once. -/
def increasing (codes : List Nat) : List Nat :=
  (codes.mergeSort (· ≤ ·)).eraseReps

/-- A label in plain characters: its own come first, then where the others stand. -/
def encode (label : List Char) : List Char :=
  let plain := label.filter fun character => character.toNat < 128
  let others := increasing
    ((label.filter fun character => 128 ≤ character.toNat).map Char.toNat)
  plain ++ (if plain.isEmpty then [] else ['-']) ++
    encodeCodes label plain.length others 128
      { delta := 0, bias := 72, written := plain.length }

/-- The largest number that may come up while a label is read. -/
def largest : Nat := 0xFFFFFFFF

/-- Reads one delta; what it is added to, and the rest of the text. -/
def decodeDelta (bias : Nat) :
    List Char → (position weight value : Nat) → Option (Nat × List Char)
  | [], _, _, _ => none
  | character :: rest, position, weight, value =>
    match digitValue? character with
    | none => none
    | some digit =>
      let value := value + digit * weight
      let least := threshold position bias
      if value > largest then none
      else if digit < least then some (value, rest)
      else if weight * (base - least) > largest then none
      else decodeDelta bias rest (position + base) (weight * (base - least)) value

/-- Reads the other characters into a label, each at the place that its delta tells. -/
def decodeInto : (fuel : Nat) → List Char → (label : List Char) → (code index bias : Nat) →
    Option (List Char)
  | _, [], label, _, _, _ => some label
  | 0, _, _, _, _, _ => none
  | fuel + 1, text, label, code, index, bias =>
    match decodeDelta bias text base 1 index with
    | none => none
    | some (reached, rest) =>
      let count := label.length + 1
      let code := code + reached / count
      let place := reached % count
      if code > largest ∨ !code.isValidChar then none
      else
        decodeInto fuel rest (label.insertIdx place (Char.ofNat code)) code (place + 1)
          (adapt (reached - index) count (index == 0))

/-- The label that is written in plain characters. -/
def decode? (text : List Char) : Option (List Char) :=
  let backwards := text.reverse
  let (plain, others) :=
    match backwards.dropWhile fun character => character != '-' with
    | _ :: before@(_ :: _) =>
      (before.reverse, (backwards.takeWhile fun character => character != '-').reverse)
    | _ => ([], text)
  if plain.all fun character => character.toNat < 128 then
    decodeInto others.length others plain 128 0 72
  else none

end OrgAccess.Email.Punycode
