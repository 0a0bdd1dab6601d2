import Mathlib.Data.Nat.Digits.Defs
import OrgAccess.Password.Hasher
import OrgAccess.Proofs.TokenReading

/-!
# Stored hashes can be checked

What the memory-hard hasher stores is read back field by field: the digits of its costs, its salt,
and its output, which has as many bytes as were asked for. So every password can be checked against
every hash that was made, and it fits exactly if it gives the same output (`Argon2.verify_hash`).
-/

namespace OrgAccess

namespace Text

theorem byteCount_of_ascii {text : List Char}
    (ascii : ∀ character ∈ text, character.toNat < 0x80) : byteCount text = text.length := by
  rw [byteCount, encodeUtf8_of_ascii ascii, List.length_map]

end Text

theorem Base64.length_encode (alphabet : Alphabet) (bytes : List UInt8) :
    (encode alphabet bytes).length = (bytes.length * 4 + 2) / 3 := by
  fun_induction encode alphabet bytes with
  | case1 => rfl
  | case2 => simp
  | case3 => simp
  | case4 first second third rest a b c ih =>
      simp only [List.length_cons, ih]
      omega

/-! ## Lengths of digests -/

namespace Blake2b

theorem length_bytesOfWord (word : UInt64) : (bytesOfWord word).length = 8 := rfl

theorem length_digest (size : Nat) (message : List UInt8) :
    (digest size message).length = min size 64 := by
  have eights (words : List UInt64) : (words.flatMap bytesOfWord).length = 8 * words.length := by
    simp [List.length_flatMap, length_bytesOfWord, Nat.mul_comm]
  rw [digest, List.length_take, eights, Vector.length_toList]

end Blake2b

namespace Argon2

theorem length_stretchChain (links lastSize : Nat) (value : List UInt8) :
    (stretchChain links lastSize value).length = 32 * links + min lastSize 64 := by
  induction links generalizing value with
  | zero => simp [stretchChain, Blake2b.length_digest]
  | succ links ih =>
      simp only [stretchChain, List.length_append, List.length_take, Blake2b.length_digest, ih]
      omega

/-- A digest has as many bytes as are asked for. -/
theorem length_digest (variant : Variant) (version : Version) (costs : Costs) (size : Nat)
    (password salt context : List UInt8) :
    (digest variant version costs size password salt context).length = size := by
  unfold digest stretch
  dsimp only
  split
  · rw [Blake2b.length_digest]
    omega
  · rw [length_stretchChain]
    omega

end Argon2

/-! ## Characters of values -/

namespace PasswordHash

variable {character : Char} {value : List Char}

theorem isValueCharacter_of_isDigit (isDigit : Text.isDigit character = true) :
    isValueCharacter character = true := by
  simp [isValueCharacter, isDigit]

theorem isValueCharacter_of_mem_encode {bytes : List UInt8}
    (mem : character ∈ Base64.encode .standard bytes) : isValueCharacter character = true := by
  rcases Option.bind_eq_some_iff.mp (Base64.decode?_encode .standard bytes) with ⟨digits, read, _⟩
  have isDigit := Base64.value?_isSome_of_mem read mem
  simp only [Base64.value?] at isDigit
  have within (least greatest : Char)
      (inside : least.toNat ≤ character.toNat ∧ character.toNat ≤ greatest.toNat) :
      (least ≤ character && character ≤ greatest) = true := by
    rw [Bool.and_eq_true, decide_eq_true_eq, decide_eq_true_eq]
    exact inside
  split at isDigit
  · rename_i isUpper
    simp [isValueCharacter, within 'A' 'Z' isUpper]
  split at isDigit
  · rename_i isLower
    simp [isValueCharacter, within 'a' 'z' isLower]
  split at isDigit
  · rename_i isNumeral
    apply isValueCharacter_of_isDigit
    exact within '0' '9' isNumeral
  split at isDigit
  · rename_i isPlus
    rw [isPlus]
    decide
  split at isDigit
  · rename_i isSlash
    rw [isSlash]
    decide
  · cases isDigit

theorem toNat_lt_of_isValueCharacter (allowed : isValueCharacter character = true) :
    character.toNat < 0x80 := by
  have below {limit : Char} (bounded : character ≤ limit) : character.toNat ≤ limit.toNat := bounded
  simp only [isValueCharacter, Text.isDigit, Bool.or_eq_true, Bool.and_eq_true, decide_eq_true_eq,
    beq_iff_eq] at allowed
  rcases allowed with (((((lower | upper) | numeral) | rfl) | rfl) | rfl) | rfl
  · exact Nat.lt_of_le_of_lt (below lower.2) (by decide)
  · exact Nat.lt_of_le_of_lt (below upper.2) (by decide)
  · exact Nat.lt_of_le_of_lt (below numeral.2) (by decide)
  all_goals decide

/-! ## Reading fields back -/

/-- A text of characters that may occur in a value. -/
def IsValue (value : List Char) : Prop :=
  ∀ character ∈ value, isValueCharacter character = true

theorem isValue_encode (bytes : List UInt8) : IsValue (Base64.encode .standard bytes) :=
  fun _ => isValueCharacter_of_mem_encode

theorem isValue_toDigits (number : Nat) : IsValue (Nat.toDigits 10 number) :=
  fun digit mem => isValueCharacter_of_isDigit (Json.isDigit_of_mem_toDigits number digit mem)

theorem IsValue.byteCount (isValue : IsValue value) : Text.byteCount value = value.length :=
  Text.byteCount_of_ascii fun character mem => toNat_lt_of_isValueCharacter (isValue character mem)

theorem IsValue.notMem (isValue : IsValue value) (separates : isValueCharacter character = false) :
    character ∉ value := by
  intro mem
  rw [isValue character mem] at separates
  cases separates

theorem IsValue.check (isValue : IsValue value) (short : value.length ≤ 64) :
    checkValue value = .ok () := by
  have noOther : (value.find? fun character => !isValueCharacter character) = none := by
    rw [List.find?_eq_none]
    intro character mem
    simp [isValue character mem]
  rw [checkValue, isValue.byteCount, if_neg (by omega), noOther]

theorem decimal_toDigits {number : Nat} (fits : number < 0x100000000) :
    decimal (Nat.toDigits 10 number) = .ok number := by
  have allDigits : ((Nat.toDigits 10 number).find? fun digit => !Text.isDigit digit) = none := by
    rw [List.find?_eq_none]
    intro digit mem
    simp [Json.isDigit_of_mem_toDigits number digit mem]
  have noLeadingZero : ¬((Nat.toDigits 10 number).head? = some '0' ∧
      (Nat.toDigits 10 number).length > 1) := by
    rintro ⟨isZero, long⟩
    rcases Json.toDigits_shape number with ⟨first, more, written, single⟩
    rw [written] at isZero long
    rw [single (Option.some.inj isZero)] at long
    exact absurd long (by simp)
  have value : Text.decimalValue (Nat.toDigits 10 number) = number :=
    Json.readDecimal_toDigits number
  rw [decimal, if_neg Nat.toDigits_ne_nil, allDigits]
  dsimp only
  rw [if_neg noLeadingZero, value, if_pos fits]

theorem length_toDigits {number : Nat} (fits : number < 0x100000000) :
    (Nat.toDigits 10 number).length ≤ 10 :=
  Nat.toDigits_length 10 number 10 (by decide) (Nat.lt_trans fits (by decide))

theorem readParameter_written {name : List Char} (named : checkName name = .ok ())
    (closed : '=' ∉ name) (isValue : IsValue value) (short : value.length ≤ 64) :
    readParameter (name ++ '=' :: value) = .ok (name, value) := by
  have parted : Text.fields '=' (name ++ '=' :: value) = [name, value] :=
    @Text.fields_joinFields '=' [name, value] (by simp)
      (by simp [closed, isValue.notMem (show isValueCharacter '=' = false by decide)])
  rw [readParameter, parted]
  dsimp only
  rw [named, isValue.check short]
  rfl

theorem mapM_readParameter {parameters : List (List Char × List Char)}
    (each : ∀ parameter ∈ parameters,
      readParameter (parameter.1 ++ '=' :: parameter.2) = .ok parameter) :
    (parameters.map fun (name, value) => name ++ '=' :: value).mapM readParameter =
      .ok parameters := by
  induction parameters with
  | nil => rfl
  | cons first more ih =>
      rw [List.map_cons, List.mapM_cons, each first List.mem_cons_self,
        ih fun parameter mem => each parameter (List.mem_cons_of_mem _ mem)]
      rfl

theorem decodeField_encode {limit : Nat} {bytes : List UInt8} (fits : bytes.length ≤ limit) :
    decodeField limit (Base64.encode .standard bytes) = .ok bytes := by
  have length := Base64.length_encode .standard bytes
  rw [decodeField, (isValue_encode bytes).byteCount, if_neg (by omega), Base64.decode?_encode]

theorem readSalt_encode {salt : List UInt8} (least : 8 ≤ salt.length) (most : salt.length ≤ 48) :
    readSalt (Base64.encode .standard salt) = .ok (Base64.encode .standard salt) := by
  have length := Base64.length_encode .standard salt
  have isValue := isValue_encode salt
  rw [readSalt, isValue.byteCount, if_neg (by omega), if_neg (by omega), isValue.check (by omega)]
  rfl

theorem readOutput_encode {output : List UInt8} (least : 10 ≤ output.length)
    (most : output.length ≤ 64) : readOutput (Base64.encode .standard output) = .ok output := by
  rw [readOutput, decodeField_encode most]
  change (if output.length < 10 then _ else _) = _
  rw [if_neg (by omega)]
  rfl

end PasswordHash

/-! ## Hashes that were made -/

namespace Argon2

/-- Costs that a hasher accepts, each a number of 32 bits. -/
structure Costs.Accepted (costs : Costs) : Prop where
  checked : costs.check = .ok ()
  memory : costs.memory < 0x100000000
  passes : costs.passes < 0x100000000

theorem Costs.Accepted.lanes {costs : Costs} (accepted : costs.Accepted) :
    costs.lanes < 0x100000000 := by
  have checked := accepted.checked
  unfold Costs.check at checked
  repeat' split at checked
  all_goals first | omega | cases checked

/-- The parameters of a hash, as they are written. -/
def Costs.parameters (costs : Costs) : List (List Char × List Char) :=
  [("m".toList, Nat.toDigits 10 costs.memory), ("t".toList, Nat.toDigits 10 costs.passes),
    ("p".toList, Nat.toDigits 10 costs.lanes)]

/-- The field of a stored hash that holds the parameters. -/
def Costs.parametersField (costs : Costs) : List Char :=
  Text.joinFields ',' (costs.parameters.map fun (name, value) => name ++ '=' :: value)

theorem Costs.parametersField_eq (costs : Costs) :
    costs.parametersField =
      "m=".toList ++ Nat.toDigits 10 costs.memory ++ ",t=".toList ++
        Nat.toDigits 10 costs.passes ++ ",p=".toList ++ Nat.toDigits 10 costs.lanes := by
  simp [Costs.parametersField, Costs.parameters, Text.joinFields]

theorem Costs.mem_parametersField {costs : Costs} {character : Char}
    (mem : character ∈ costs.parametersField) :
    PasswordHash.isValueCharacter character = true ∨ character ∈ ['=', ','] := by
  have marks : ∀ mark ∈ "m=,t=,p=".toList,
      PasswordHash.isValueCharacter mark = true ∨ mark ∈ ['=', ','] := by
    simp [PasswordHash.isValueCharacter, Text.isDigit]
  have digits (number : Nat) (mem : character ∈ Nat.toDigits 10 number) :
      PasswordHash.isValueCharacter character = true ∨ character ∈ ['=', ','] :=
    Or.inl (PasswordHash.isValue_toDigits number character mem)
  simp only [Costs.parametersField_eq, List.mem_append] at mem
  rcases mem with ((((mem | mem) | mem) | mem) | mem) | mem
  · exact marks character (List.mem_of_mem_take (i := 2) mem)
  · exact digits _ mem
  · exact marks character (List.mem_of_mem_take (i := 5) (List.mem_of_mem_drop (i := 2) mem))
  · exact digits _ mem
  · exact marks character (List.mem_of_mem_drop (i := 5) mem)
  · exact digits _ mem

section Costs

variable {costs : Costs} (accepted : costs.Accepted)
include accepted

theorem Costs.Accepted.short {parameter : List Char × List Char}
    (mem : parameter ∈ costs.parameters) : parameter.2.length ≤ 10 := by
  simp only [Costs.parameters, List.mem_cons, List.not_mem_nil, or_false] at mem
  rcases mem with rfl | rfl | rfl
  · exact PasswordHash.length_toDigits accepted.memory
  · exact PasswordHash.length_toDigits accepted.passes
  · exact PasswordHash.length_toDigits accepted.lanes

theorem Costs.Accepted.readParameter {parameter : List Char × List Char}
    (mem : parameter ∈ costs.parameters) :
    PasswordHash.readParameter (parameter.1 ++ '=' :: parameter.2) = .ok parameter := by
  have short := accepted.short mem
  simp only [Costs.parameters, List.mem_cons, List.not_mem_nil, or_false] at mem
  have written (name : List Char) (number : Nat) (named : PasswordHash.checkName name = .ok ())
      (closed : '=' ∉ name) (short : (Nat.toDigits 10 number).length ≤ 10) :=
    PasswordHash.readParameter_written named closed (PasswordHash.isValue_toDigits number)
      (Nat.le_trans short (by decide))
  rcases mem with rfl | rfl | rfl
  · exact written "m".toList _ (by decide) (by decide) short
  · exact written "t".toList _ (by decide) (by decide) short
  · exact written "p".toList _ (by decide) (by decide) short

theorem Costs.Accepted.recipe : Recipe.ofParameters costs.parameters = .ok ⟨costs, []⟩ := by
  have memory := PasswordHash.decimal_toDigits accepted.memory
  have passes := PasswordHash.decimal_toDigits accepted.passes
  have lanes := PasswordHash.decimal_toDigits accepted.lanes
  simp [Recipe.ofParameters, Costs.parameters, Recipe.add, memory, passes, lanes,
    Except.mapError, accepted.checked, bind, Except.bind, pure, Except.pure]

theorem Costs.Accepted.length_parametersField : costs.parametersField.length ≤ 38 := by
  have memory := PasswordHash.length_toDigits accepted.memory
  have passes := PasswordHash.length_toDigits accepted.passes
  have lanes := PasswordHash.length_toDigits accepted.lanes
  simp [Costs.parametersField_eq]
  omega

theorem Costs.Accepted.takeParameters (rest : List (List Char)) :
    PasswordHash.takeParameters (costs.parametersField :: rest) =
      .ok (costs.parameters, rest) := by
  have isList : '=' ∈ costs.parametersField := by
    simp [Costs.parametersField_eq]
  have ascii : ∀ character ∈ costs.parametersField, character.toNat < 0x80 := by
    intro character mem
    rcases Costs.mem_parametersField mem with isValue | isMark
    · exact PasswordHash.toNat_lt_of_isValueCharacter isValue
    · have marks : ∀ mark ∈ ['=', ','], mark.toNat < 0x80 := by simp
      exact marks character isMark
  have noComma (number : Nat) : ',' ∉ Nat.toDigits 10 number :=
    (PasswordHash.isValue_toDigits number).notMem (by decide)
  have parted : Text.fields ',' costs.parametersField =
      costs.parameters.map fun (name, value) => name ++ '=' :: value := by
    apply Text.fields_joinFields (by simp [Costs.parameters])
    simp [Costs.parameters, noComma]
  have eachRead := PasswordHash.mapM_readParameter fun _ => accepted.readParameter
  have short := accepted.length_parametersField
  rw [PasswordHash.takeParameters, if_pos isList, PasswordHash.readParameters,
    Text.byteCount_of_ascii ascii, if_neg (by omega), parted, eachRead]
  rfl

end Costs

/-- A digest that gives as many bytes as are asked for. -/
def Digest.Sized (digest : Digest) : Prop :=
  ∀ variant version costs size password salt context,
    (digest variant version costs size password salt context).length = size

theorem toFields_hash (digest : Digest) (costs : Costs) (salt : List UInt8) (password : String) :
    (hash digest costs salt password).toFields =
      [[], "argon2id".toList, "v=19".toList, costs.parametersField,
        Base64.encode .standard salt,
        Base64.encode .standard (digest .id .v19 costs 32 password.toUTF8.toList salt [])] :=
  rfl

theorem matchesHash_of_parts {digest : Digest} {hash : PasswordHash} {password : String}
    {written : List Char} {output salt : List UInt8} {recipe : Recipe} {variant : Variant}
    {version : Version} (salted : hash.salt = some written) (ended : hash.output = some output)
    (read : Recipe.ofParameters hash.parameters = .ok recipe)
    (named : Variant.ofName? hash.algorithm = some variant)
    (numbered : Version.ofNumber? hash.version = some version)
    (decoded : PasswordHash.decodeField 64 written = .ok salt) (long : 8 ≤ salt.length) :
    matchesHash digest hash password =
      .ok (digest variant version recipe.costs output.length password.toUTF8.toList salt
        recipe.context == output) := by
  have enough : ¬salt.length < 8 := by omega
  simp only [matchesHash, salted, ended, read, named, numbered, decoded, bind, Except.bind, pure,
    Except.pure, if_neg enough]

section Hash

variable {digest : Digest} (sized : digest.Sized) {costs : Costs} (accepted : costs.Accepted)
  {salt : List UInt8} (least : 8 ≤ salt.length) (most : salt.length ≤ 48)
include sized accepted least most

/-- The stored form of a hash reads as the hash. -/
theorem ofText?_hash (password : String) :
    PasswordHash.ofText? (hash digest costs salt password).text =
      .ok (hash digest costs salt password) := by
  let output := digest .id .v19 costs 32 password.toUTF8.toList salt []
  have length : output.length = 32 := sized ..
  have noDollar : ∀ field ∈ (hash digest costs salt password).toFields, '$' ∉ field := by
    intro field mem
    have closed {value : List Char} (isValue : PasswordHash.IsValue value) : '$' ∉ value :=
      isValue.notMem (by decide)
    rw [toFields_hash] at mem
    simp only [List.mem_cons, List.not_mem_nil, or_false] at mem
    rcases mem with rfl | rfl | rfl | rfl | rfl | rfl
    · decide
    · decide
    · decide
    · intro mem
      have other := Costs.mem_parametersField mem
      revert other
      decide
    · exact closed (PasswordHash.isValue_encode salt)
    · exact closed (PasswordHash.isValue_encode output)
  have parted : Text.fields '$' (hash digest costs salt password).text.toList =
      [[], "argon2id".toList, "v=19".toList, costs.parametersField,
        Base64.encode .standard salt, Base64.encode .standard output] := by
    rw [PasswordHash.text, String.toList_ofList]
    exact Text.fields_joinFields (by simp [PasswordHash.toFields]) noDollar
  have named : PasswordHash.checkName "argon2id".toList = .ok () := by decide
  have versioned (rest : List (List Char)) :
      PasswordHash.takeVersion ("v=19".toList :: rest) = .ok (some 19, rest) := rfl
  rw [PasswordHash.ofText?, parted]
  simp only [named, versioned, accepted.takeParameters, PasswordHash.readSalt_encode least most,
    PasswordHash.readOutput_encode (show 10 ≤ output.length by omega)
      (show output.length ≤ 64 by omega), bind, Except.bind]
  rfl

/-- A password fits a hash that was made exactly if it gives the same output. -/
theorem verify_hash (password other : String) :
    verify digest (hash digest costs salt password).text other =
      .ok (digest .id .v19 costs 32 other.toUTF8.toList salt [] ==
        digest .id .v19 costs 32 password.toUTF8.toList salt []) := by
  have decoded : PasswordHash.decodeField 64 (Base64.encode .standard salt) = .ok salt :=
    PasswordHash.decodeField_encode (by omega)
  have matched : matchesHash digest (hash digest costs salt password) other = _ :=
    matchesHash_of_parts rfl rfl accepted.recipe rfl rfl decoded least
  rw [sized] at matched
  rw [verify, ofText?_hash sized accepted least most]
  dsimp only
  rw [matched]

theorem length_text_hash (password : String) :
    (hash digest costs salt password).text.length ≤ 255 := by
  have length : (digest .id .v19 costs 32 password.toUTF8.toList salt []).length = 32 := sized ..
  have short := accepted.length_parametersField
  have names : "argon2id".toList.length = 8 ∧ "v=19".toList.length = 4 := ⟨rfl, rfl⟩
  rw [PasswordHash.text, String.length_ofList, toFields_hash]
  simp only [Text.joinFields, List.length_append, List.length_cons, List.length_nil,
    Base64.length_encode, length]
  omega

end Hash

end Argon2

namespace Hasher

open Argon2

variable {hasher : Hasher} {costs : Costs}

theorem eq_of_argon2With {digest : Digest} (built : Hasher.argon2With digest costs = .ok hasher) :
    costs.check = .ok () ∧
      hasher.hash = (fun salt password => .ok (Argon2.hash digest costs salt password).text) ∧
      hasher.verify = Argon2.verify digest := by
  unfold Hasher.argon2With at built
  split at built
  · cases built
  · rename_i checked
    cases built
    exact ⟨checked, rfl, rfl⟩

theorem eq_of_argon2 (built : Hasher.argon2 costs = .ok hasher) :
    hasher.hash = (fun salt password => .ok (Argon2.hash Argon2.digest costs salt password).text) ∧
      hasher.verify = Argon2.verify Argon2.digest :=
  (eq_of_argon2With built).2

variable (built : Hasher.argon2 costs = .ok hasher) (accepted : costs.Accepted)
  {salt : List UInt8} (sixteen : salt.length = 16) {password stored : String}
  (made : hasher.hash salt password = .ok stored)
include built

theorem hash_ne_error (salt : List UInt8) (password : String) (error : PasswordError) :
    hasher.hash salt password ≠ .error error := by
  rw [(eq_of_argon2 built).1]
  exact nofun

include accepted sixteen made

/-- Checking a password against a hash that was made never fails. -/
theorem verify_of_hash (other : String) : ∃ isRight, hasher.verify stored other = .ok isRight := by
  rcases eq_of_argon2 built with ⟨hashes, verifies⟩
  rw [hashes] at made
  obtain rfl := Except.ok.inj made
  rw [verifies]
  exact ⟨_, Argon2.verify_hash Argon2.length_digest accepted (by omega) (by omega) password other⟩

/-- A hash that was made reads as a hash. -/
theorem ofText?_of_hash : ∃ hash, PasswordHash.ofText? stored = .ok hash := by
  rw [(eq_of_argon2 built).1] at made
  obtain rfl := Except.ok.inj made
  exact ⟨_, Argon2.ofText?_hash Argon2.length_digest accepted (by omega) (by omega) password⟩

theorem length_of_hash : stored.length ≤ 255 := by
  rw [(eq_of_argon2 built).1] at made
  obtain rfl := Except.ok.inj made
  exact Argon2.length_text_hash Argon2.length_digest accepted (by omega) (by omega) password

end Hasher

/-! ## Hashers with other costs -/

namespace Argon2

/-- Costs as a hasher is given them, three numbers of 32 bits. -/
def Costs.ofWords (memory passes lanes : UInt32) : Costs where
  memory := memory.toNat
  passes := passes.toNat
  lanes := lanes.toNat

theorem Costs.accepted_ofWords {memory passes lanes : UInt32}
    (checked : (Costs.ofWords memory passes lanes).check = .ok ()) :
    (Costs.ofWords memory passes lanes).Accepted :=
  ⟨checked, memory.toNat_lt, passes.toNat_lt⟩

/-- A stored hash that tells of what it was made: the algorithm, the costs and the salt. -/
structure Embeds (hash : PasswordHash) (costs : Costs) (salt output : List UInt8) : Prop where
  algorithm : Variant.ofName? hash.algorithm = some .id
  version : Version.ofNumber? hash.version = some .v19
  costs : Recipe.ofParameters hash.parameters = .ok ⟨costs, []⟩
  salt : hash.salt.map (PasswordHash.decodeField 64) = some (.ok salt)
  output : hash.output = some output

theorem embeds_hash (digest : Digest) {costs : Costs} (accepted : costs.Accepted)
    {salt : List UInt8} (short : salt.length ≤ 64) (password : String) :
    Embeds (hash digest costs salt password) costs salt
      (digest .id .v19 costs 32 password.toUTF8.toList salt []) where
  algorithm := rfl
  version := rfl
  costs := accepted.recipe
  salt := congrArg some (PasswordHash.decodeField_encode short)
  output := rfl

end Argon2

/--
For any digest that gives as many bytes as it is asked for, what a hasher stores with a salt of 16
bytes embeds the costs and the salt. A hasher with any other costs reads it, accepts the password,
and accepts another one exactly if its output under the embedded costs and salt is the same.
-/
theorem stored_hashes_verify_anywhere {digest : Argon2.Digest} (sized : digest.Sized)
    {memory passes lanes memory' passes' lanes' : UInt32} {hasher checker : Hasher}
    (built : Hasher.argon2With digest (.ofWords memory passes lanes) = .ok hasher)
    (other : Hasher.argon2With digest (.ofWords memory' passes' lanes') = .ok checker)
    {salt : List UInt8} (sixteen : salt.length = 16) (password attempt : String) :
    let output (text : String) :=
      digest .id .v19 (.ofWords memory passes lanes) 32 text.toUTF8.toList salt []
    ∃ stored hash, hasher.hash salt password = .ok stored ∧
      PasswordHash.ofText? stored = .ok hash ∧
      Argon2.Embeds hash (.ofWords memory passes lanes) salt (output password) ∧
      checker.verify stored password = .ok true ∧
      ∃ fits, checker.verify stored attempt = .ok fits ∧
        (fits = true ↔ output attempt = output password) := by
  intro output
  obtain ⟨checked, hashes, -⟩ := Hasher.eq_of_argon2With built
  obtain ⟨-, -, verifies⟩ := Hasher.eq_of_argon2With other
  have accepted := Argon2.Costs.accepted_ofWords checked
  have least : 8 ≤ salt.length := by omega
  have most : salt.length ≤ 48 := by omega
  have verified := Argon2.verify_hash sized accepted least most password
  rw [hashes, verifies]
  refine ⟨_, _, rfl, Argon2.ofText?_hash sized accepted least most password,
    Argon2.embeds_hash digest accepted (by omega) password, ?_, _, verified attempt, beq_iff_eq⟩
  rw [verified password, beq_self_eq_true]

/-! ## The cheapest hasher -/

/-- The least costs that can be used. -/
def Argon2.Costs.least : Costs where
  memory := 8
  passes := 1
  lanes := 1

theorem Argon2.Costs.least_accepted : least.Accepted :=
  ⟨rfl, by decide, by decide⟩

/-- The hasher with the least costs. -/
def Hasher.cheapest : Hasher where
  hash := fun salt password =>
    .ok (Argon2.hash Argon2.digest Argon2.Costs.least salt password).text
  verify := Argon2.verify Argon2.digest

theorem Hasher.argon2_least : Hasher.argon2 Argon2.Costs.least = .ok cheapest := rfl

/-- A password is still accepted after the costs were raised. -/
theorem raisedCosts_keep_passwords :
    let salt : List UInt8 := List.replicate 16 7
    ∃ raised stored, Hasher.argon2 (.ofWords 16 2 1) = .ok raised ∧ salt.length = 16 ∧
      Hasher.cheapest.hash salt "correct horse" = .ok stored ∧
      raised.verify stored "correct horse" = .ok true ∧
      ∃ fits, raised.verify stored "battery staple" = .ok fits := by
  intro salt
  have built : Hasher.argon2With Argon2.digest (.ofWords 8 1 1) = .ok .cheapest := rfl
  obtain ⟨raised, other⟩ : ∃ raised,
      Hasher.argon2With Argon2.digest (.ofWords 16 2 1) = .ok raised := ⟨_, rfl⟩
  have sixteen : salt.length = 16 := rfl
  obtain ⟨stored, hash, made, -, -, right, fits, decided, -⟩ :=
    stored_hashes_verify_anywhere Argon2.length_digest built other sixteen
      "correct horse" "battery staple"
  exact ⟨raised, stored, other, sixteen, made, right, fits, decided⟩

end OrgAccess
