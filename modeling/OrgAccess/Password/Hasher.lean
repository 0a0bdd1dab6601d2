import OrgAccess.Hash.Argon2
import OrgAccess.Password.Phc

/-!
# Hashing and checking passwords

A `Hasher` turns a password and a salt into a stored hash and checks a password against one.
`Hasher.argon2` is the memory-hard one: the stored form carries the costs and the salt, so
checking works for any stored hash whatever the hasher's own costs.
-/

namespace OrgAccess

/-- Why a password operation failed. -/
inductive PasswordError where
  | hashing (reason : String)
  /-- A readable hash could not be checked. -/
  | verifying (reason : String)
  | malformedHash (reason : String)
deriving DecidableEq

/-- How the fault of a hasher reads. -/
def PasswordError.message : PasswordError → String
  | hashing reason => "Failed to hash password: " ++ reason
  | verifying reason => "Failed to verify password: " ++ reason
  | malformedHash reason => "Invalid password hash format: " ++ reason

/-- Makes and checks salted password hashes. -/
structure Hasher where
  hash : (salt : List UInt8) → (password : String) → Except PasswordError String
  /-- Whether a password belongs to a stored hash; fails only on a hash it cannot use. -/
  verify : (stored password : String) → Except PasswordError Bool

namespace Argon2

/-- The digest as a function, so that everything around it can be stated for any digest. -/
abbrev Digest :=
  Variant → Version → Costs → (size : Nat) → (password salt context : List UInt8) → List UInt8

/-- Why costs are not accepted. -/
inductive CostFault where
  | tooLittleMemory
  | tooFewPasses
  | tooFewLanes
  | tooManyLanes
deriving DecidableEq

/-- How a message tells that a cost cannot be used. -/
def CostFault.message : CostFault → String
  | tooLittleMemory => "memory cost is too small"
  | tooFewPasses => "time cost is too small"
  | tooFewLanes => "not enough threads"
  | tooManyLanes => "too many threads"

/-- How costs that a stored hash carries are refused. -/
def CostFault.toHashFault : CostFault → HashFault
  | tooLittleMemory | tooFewPasses | tooFewLanes => .parameter .tooShort
  | tooManyLanes => .parameter .tooLong

/-- Refuses costs outside the allowed range; the least memory is computed in 32 bits. -/
def Costs.check (costs : Costs) : Except CostFault Unit :=
  if costs.memory < 8 then .error .tooLittleMemory
  else if costs.memory < costs.lanes * 8 % 0x100000000 then .error .tooLittleMemory
  else if costs.passes < 1 then .error .tooFewPasses
  else if costs.lanes < 1 then .error .tooFewLanes
  else if costs.lanes > 0xFFFFFF then .error .tooManyLanes
  else .ok ()

/-- The costs for a stored hash that names none. -/
def Costs.standard : Costs where
  memory := 19456
  passes := 2
  lanes := 1

/-- The variant that a hash names as its algorithm. -/
def Variant.ofName? (name : List Char) : Option Variant :=
  if name = "argon2d".toList then some .d
  else if name = "argon2i".toList then some .i
  else if name = "argon2id".toList then some .id
  else none

/-- The version with this number; 19 where none is given. -/
def Version.ofNumber? : Option Nat → Option Version
  | none => some .v19
  | some number => if number = 16 then some .v16 else if number = 19 then some .v19 else none

/-- What a stored hash says about how it was made. -/
structure Recipe where
  costs : Costs
  context : List UInt8

/-- Takes one parameter of a stored hash into account; a repeated one counts last. -/
def Recipe.add (recipe : Recipe) (parameter : List Char × List Char) :
    Except HashFault Recipe := do
  let (name, value) := parameter
  let number : Except HashFault Nat := (PasswordHash.decimal value).mapError .parameter
  if name = "m".toList then
    return { recipe with costs := { recipe.costs with memory := ← number } }
  else if name = "t".toList then
    return { recipe with costs := { recipe.costs with passes := ← number } }
  else if name = "p".toList then
    return { recipe with costs := { recipe.costs with lanes := ← number } }
  else if name = "keyid".toList then
    let _ ← PasswordHash.decodeField 8 value
    return recipe
  else if name = "data".toList then
    return { recipe with context := ← PasswordHash.decodeField 32 value }
  else throw .invalidName

/-- The recipe that the parameters of a stored hash give. -/
def Recipe.ofParameters (parameters : List (List Char × List Char)) :
    Except HashFault Recipe := do
  let recipe ← parameters.foldlM Recipe.add ⟨Costs.standard, []⟩
  (Costs.check recipe.costs).mapError CostFault.toHashFault
  return recipe

/-- Whether a password gives the output of a stored hash; one without salt or output fits none. -/
def matchesHash (digest : Digest) (hash : PasswordHash) (password : String) :
    Except HashFault Bool :=
  match hash.salt, hash.output with
  | some salt, some output => do
    let recipe ← Recipe.ofParameters hash.parameters
    let variant ← match Variant.ofName? hash.algorithm with
      | some variant => pure variant
      | none => throw .unknownAlgorithm
    let version ← match Version.ofNumber? hash.version with
      | some version => pure version
      | none => throw .unknownVersion
    let salt ← PasswordHash.decodeField 64 salt
    if salt.length < 8 then throw (.salt .tooShort)
    return digest variant version recipe.costs output.length
      password.toUTF8.toList salt recipe.context == output
  | _, _ => .ok false

/-- Whether a password has a stored hash, at the costs that the hash tells itself. -/
def verify (digest : Digest) (stored password : String) : Except PasswordError Bool :=
  match PasswordHash.ofText? stored with
  | .error fault => .error (.malformedHash ("Failed to parse hash: " ++ fault.message))
  | .ok hash =>
    match matchesHash digest hash password with
    | .error fault => .error (.verifying ("Verification failed: " ++ fault.message))
    | .ok answer => .ok answer

/-- The hash of a password, together with all that it takes to make it again. -/
def hash (digest : Digest) (costs : Costs) (salt : List UInt8) (password : String) :
    PasswordHash where
  algorithm := "argon2id".toList
  version := some 19
  parameters :=
    [("m".toList, Nat.toDigits 10 costs.memory), ("t".toList, Nat.toDigits 10 costs.passes),
      ("p".toList, Nat.toDigits 10 costs.lanes)]
  salt := some (Base64.encode .standard salt)
  output := some (digest .id .v19 costs 32 password.toUTF8.toList salt [])

end Argon2

/-- A hasher with the given costs over the given digest. -/
def Hasher.argon2With (digest : Argon2.Digest) (costs : Argon2.Costs) :
    Except PasswordError Hasher :=
  match costs.check with
  | .error fault => .error (.hashing ("Invalid parameters: " ++ fault.message))
  | .ok () => .ok {
      hash := fun salt password => .ok (Argon2.hash digest costs salt password).text
      verify := Argon2.verify digest }

/-- The hasher with these costs, if they can be used. -/
def Hasher.argon2 (costs : Argon2.Costs) : Except PasswordError Hasher :=
  Hasher.argon2With Argon2.digest costs

end OrgAccess
