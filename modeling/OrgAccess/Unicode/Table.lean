import OrgAccess.Text.Hex

/-!
# Tables of characters

A property of characters is given by a table: entries with blank space between them, each a run of
code points in hexadecimal, and after a colon what the characters of the run have. A run is one
code point, all from a first to a last after a hyphen, or every second one of these after a slash.
-/

namespace OrgAccess.Unicode

/-- A run of characters and what they have. -/
structure Entry where
  /-- The first code point. -/
  first : Nat
  /-- The last code point. -/
  last : Nat
  /-- The distance between neighbours. -/
  step : Nat
  /-- What the characters have, or what the first one has. -/
  values : List Nat
deriving DecidableEq

/-- A property of characters. -/
abbrev Table := Array Entry

/-- Whether an entry holds the code of a character. -/
def Entry.holds (entry : Entry) (code : Nat) : Bool :=
  entry.first ≤ code && code ≤ entry.last && (code - entry.first) % entry.step == 0

namespace Table

/-- Cuts a text at the characters that satisfy a test. -/
def cut (test : Char → Bool) (text : List Char) : List (List Char) :=
  text.foldr (fun character parts =>
    if test character then [] :: parts
    else match parts with
      | part :: parts => (character :: part) :: parts
      | [] => [[character]]) [[]]

/-- The number that hexadecimal digits write; anything else counts as zero. -/
def number (digits : List Char) : Nat :=
  (Text.readHex? digits 0).getD 0

/-- Reads the codes of an entry: one, a run, or every second one of a run. -/
def readRun (text : List Char) (values : List Nat) : Entry :=
  match cut (fun character => character == '-') text with
  | [first, last] => ⟨number first, number last, 1, values⟩
  | _ =>
    match cut (fun character => character == '/') text with
    | [first, last] => ⟨number first, number last, 2, values⟩
    | _ => ⟨number text, number text, 1, values⟩

/-- Reads an entry and the values after its colon. -/
def readEntry (text : List Char) : Entry :=
  match cut (fun character => character == ':') text with
  | [run, values] =>
    readRun run (if values.isEmpty then [] else
      (cut (fun character => character == ',') values).map number)
  | _ => readRun text []

/-- Reads a table, whose entries blank space parts. -/
def read (text : String) : Table :=
  (((cut (fun character => character == ' ' || character == '\n') text.toList).filter
    fun entry => !entry.isEmpty).map readEntry).toArray

/-- The entry of a character. -/
def find? (table : Table) (character : Char) : Option Entry :=
  Array.find? (fun entry => entry.holds character.toNat) table

/-- Whether a table has a character. -/
def has (table : Table) (character : Char) : Bool :=
  (table.find? character).isSome

end Table

end OrgAccess.Unicode
