import OrgAccess.Json.Buffered

/-!
# Keys described in a token header

A header may describe a key. The key is not used, but a header with a wrong description is no
header: members that every key may have are checked first, in the order in which they are written,
and the rest has to fit one of the families of keys.
-/

namespace OrgAccess.Token.WebKey

open Json

/-- The members of a description in their order. -/
abbrev Members := List (String × Buffered)

/-- A test of the value of a member. -/
abbrev Check := Buffered → Except Mismatch Unit

/-! ## Members of every key -/

/-- Refuses anything but a string. -/
def checkText : Check
  | .text _ => .ok ()
  | other => .error (.wrongKind other.found "a string")

/-- Refuses anything but an array of strings. -/
def checkTexts : Check
  | .list items => items.forM checkText
  | other => .error (.wrongKind other.found "a sequence")

/-- The algorithms for which a key may be meant. -/
def algorithms : List String :=
  ["HS256", "HS384", "HS512", "ES256", "ES384", "RS256", "RS384", "RS512", "PS256", "PS384",
    "PS512", "EdDSA", "RSA1_5", "RSA-OAEP", "RSA-OAEP-256"]

/-- Refuses a name that is none of the algorithms. -/
def checkAlgorithmName (name : String) : Except Mismatch Unit :=
  if algorithms.contains name then .ok () else .error (.unknownName name algorithms)

/-- Refuses anything but an algorithm, written as a name or as an object of a name without content. -/
def checkAlgorithm : Check
  | .text name => checkAlgorithmName name
  | .object [(name, content)] => do
    checkAlgorithmName name
    match content with
    | .null | .object [] => .ok ()
    | other => .error (.wrongKind other.found "unit")
  | .object members => .error (.wrongValue (Buffered.object members).found "map with a single key")
  | other => .error (.wrongKind other.found "string or map")

/-- The members that every key may have, with the tests of their values. -/
def commonChecks : List (String × Check) :=
  [("use", checkText), ("key_ops", checkTexts), ("alg", checkAlgorithm), ("kid", checkText),
    ("x5u", checkText), ("x5c", checkTexts), ("x5t", checkText), ("x5t#S256", checkText)]

/-- Refuses the first of these members that is there again or has a wrong value; null is none. -/
def checkCommon : (seen : List String) → Members → Except Mismatch Unit
  | _, [] => .ok ()
  | seen, (key, value) :: members =>
    match commonChecks.lookup key with
    | none => checkCommon seen members
    | some check => do
      if key ∈ seen then throw (.duplicateField key)
      match value with
      | .null => .ok ()
      | value => check value
      checkCommon (key :: seen) members

/-! ## Families of keys -/

/-- Whether a value is one of some names, or an object of such a name and null. -/
def isNameIn (names : List String) : Buffered → Bool
  | .text name => names.contains name
  | .object [(name, .null)] => names.contains name
  | _ => false

/-- The curves on which a key may lie. -/
def isCurve : Buffered → Bool :=
  isNameIn ["P-256", "P-384", "P-521", "Ed25519"]

/-- The members that a family of keys has to have, with what their values have to be. -/
abbrev Family := List (String × (Buffered → Bool))

/-- The families of keys, each with the members that it needs. -/
def families : List Family :=
  [[("kty", isNameIn ["EC"]), ("crv", isCurve), ("x", Buffered.isText), ("y", Buffered.isText)],
    [("kty", isNameIn ["RSA"]), ("n", Buffered.isText), ("e", Buffered.isText)],
    [("kty", isNameIn ["oct"]), ("k", Buffered.isText)],
    [("kty", isNameIn ["OKP"]), ("crv", isCurve), ("x", Buffered.isText)]]

/-- Whether a description has every member of a family exactly once. -/
def fits (members : Members) (family : Family) : Bool :=
  family.all fun (key, isRight) =>
    match members.filter fun member => member.1 == key with
    | [(_, value)] => isRight value
    | _ => false

/-- Refuses the members of a description that is not well formed. -/
def checkMembers (members : Members) : Except Mismatch Unit := do
  checkCommon [] members
  if families.any (fits members) then .ok ()
  else throw (.unreadable "data did not match any variant of untagged enum AlgorithmParameters")

/-- The greatest number of arrays and objects that may be open inside a description. -/
def depth : Nat := 125

/-- A key, of which only the form is checked. -/
def decoder : Decoder Unit where
  read := do
    if (← peekToken) = some (some '{') then
      match checkMembers (← Buffered.readObject (Buffered.read depth)) with
      | .ok () => return ()
      | .error mismatch => .mismatched mismatch
    else refuse "struct Jwk"

end OrgAccess.Token.WebKey
