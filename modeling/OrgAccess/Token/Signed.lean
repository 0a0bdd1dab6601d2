import OrgAccess.Encoding.Base64
import OrgAccess.Hash.Sha256
import OrgAccess.Json.Buffered
import OrgAccess.Text.Utf8
import OrgAccess.Token.Claims
import OrgAccess.Token.WebKey

/-!
# Signed tokens

A token is three parts with dots between them: a header that names the algorithm, the claims, and
a signature over both. The header and the claims are JSON in URL-safe base64; the signature is a
message authentication code under a shared secret, in the same alphabet.

Checking goes from the left: the notation of the header, its algorithm, the signature, and only
then the claims, which are looked at twice, first for their shape and then for the registered ones
among them that limit a token's use.
-/

namespace OrgAccess

/-- A message authentication code. -/
structure Mac where
  code : (key message : List UInt8) → List UInt8

/-- The code that is made with SHA-256. -/
def Mac.sha256 : Mac := ⟨Sha256.hmac⟩

namespace Token

/-- The header of every token that is issued here. -/
def header : String := "\x7b\"typ\":\"JWT\",\"alg\":\"HS256\"\x7d"

/-- A part of a token. -/
def encodePart (text : List Char) : List Char :=
  Base64.encode .urlSafe (Text.encodeUtf8 text)

/-- The signature of the part of a token before it. -/
def signature (mac : Mac) (secret : String) (signed : List Char) : List Char :=
  Base64.encode .urlSafe (mac.code (Text.utf8 secret) (Text.encodeUtf8 signed))

/-- The header and the claims, which are what is signed. -/
def signedPart (claims : Claims) : List Char :=
  encodePart header.toList ++ '.' :: encodePart claims.toJson.render

/-- The token of claims. -/
def sign (mac : Mac) (secret : String) (claims : Claims) : String :=
  let signed := signedPart claims
  String.ofList (signed ++ '.' :: signature mac secret signed)

/-! ## Checking -/

/-- Why a token is not accepted, its expiry apart. -/
inductive Flaw where
  | missingPart
  | encoding
  /-- A part is not JSON of the right shape. -/
  | json (refusal : Json.Refusal)
  | algorithm
  /-- The signature is not that of the other parts. -/
  | signature
  /-- There is no usable expiry. -/
  | missingExpiry
  | audience

/-- How a message tells what is wrong with a token. -/
def Flaw.message : Flaw → String
  | missingPart => "InvalidToken"
  | encoding => "Base64 error"
  | json refusal => "JSON error: " ++ refusal.message
  | algorithm => "InvalidAlgorithm"
  | signature => "InvalidSignature"
  | missingExpiry => "Missing required claim: exp"
  | audience => "InvalidAudience"

/-- The text before and after the last occurrence of a character. -/
def splitLast? (separator : Char) (text : List Char) : Option (List Char × List Char) :=
  let backwards := text.reverse
  match backwards.dropWhile fun character => character != separator with
  | [] => none
  | _ :: before =>
    some (before.reverse, (backwards.takeWhile fun character => character != separator).reverse)

/-- The algorithms that a header may name; only the first is accepted. -/
def algorithms : List String :=
  ["HS256", "HS384", "HS512", "ES256", "ES384", "RS256", "RS384", "RS512", "PS256", "PS384",
    "PS512", "EdDSA"]

/-- How a header is read; of its fields only the algorithm is used. -/
def headerRecord : Json.Record String where
  name := "Header"
  blank := ""
  fields :=
    let ignored {β : Type} (key : String) (decoder : Json.Decoder β) : Json.Field String :=
      .of key decoder.optional fun _ header => header
    [ignored "typ" .text,
      .of "alg" (.choice (algorithms.map fun name => (name, name))) fun name _ => name,
      ignored "cty" .text, ignored "jku" .text, ignored "jwk" WebKey.decoder, ignored "kid" .text,
      ignored "x5u" .text, ignored "x5c" (.listOf .text), ignored "x5t" .text,
      ignored "x5t#S256" .text]

/-- The registered claims that limit a token's use. -/
structure Limits where
  /-- The expiry, if it is a number from zero up. -/
  expiry : Option Nat
  hasAudience : Bool

/-- A reader whose refusal counts as the absence of a value. -/
def attempt {α : Type} (reader : Json.Reader (Option α)) : Json.Reader (Option α) :=
  tryCatch reader fun _ => return none

/-- Reads a whole number from zero up; whatever else stands there is read away. -/
def naturalOrNone : Json.Reader (Option Nat) := attempt do
  match ← Json.found with
  | .number (.natural value) => return some value
  | .list => do
    Json.skip
    Json.thenAlways (.malformed .expectedValue) Json.endList
    return none
  | .object => do
    Json.skip
    Json.thenAlways (.malformed .expectedValue) Json.endObject
    return none
  | _ => return none

/-- Whether a claim names recipients: one, or a list of them. -/
def namesAudience : Json.Buffered → Bool
  | .text _ => true
  | .list items => items.all Json.Buffered.isText
  | _ => false

/-- How the registered claims are read; one that has another shape counts as absent. -/
def limitsRecord : Json.Record Limits where
  name := "ClaimsForValidation"
  blank := ⟨none, false⟩
  fields :=
    let field {β : Type} (key : String) (reader : Json.Reader (Option β))
        (set : Option β → Limits → Limits) : Json.Field Limits :=
      .of key ⟨reader, some none⟩ set
    let anything : Json.Decoder Json.Buffered := { read := Json.Buffered.read 126 }
    [(field "exp" naturalOrNone fun value limits => { limits with expiry := value }).mayCutOff,
      (field "nbf" naturalOrNone fun _ limits => limits).mayCutOff,
      field "sub" (attempt Json.Decoder.text.optional.read) fun _ limits => limits,
      field "iss" (attempt anything.optional.read) fun _ limits => limits,
      field "aud" (attempt anything.optional.read) fun value limits =>
        { limits with hasAudience := value.any namesAudience }]

/-- Reads the bytes of a part. -/
def decodePart (part : List Char) : Except Flaw Json.Input :=
  match Base64.decode? .urlSafe part with
  | some bytes => .ok (Text.decodeUtf8 bytes)
  | none => .error .encoding

/-- Reads a part as a record. -/
def readRecord {α : Type} (record : Json.Record α) (input : Json.Input) : Except Flaw α :=
  (Json.Reader.runAll record.read input).mapError .json

/-- The claims of a signed token and the limits among them. -/
def open? (mac : Mac) (secret : String) (token : String) : Except Flaw (Claims × Limits) := do
  let (signed, given) ← (splitLast? '.' token.toList).elim (.error .missingPart) .ok
  let (header, payload) ← (splitLast? '.' signed).elim (.error .missingPart) .ok
  let algorithm ← readRecord headerRecord (← decodePart header)
  if algorithm ≠ "HS256" then throw .algorithm
  if given ≠ signature mac secret signed then throw .signature
  let input ← decodePart payload
  let claims ← readRecord Claims.record input
  let limits ← readRecord limitsRecord input
  return (claims, limits)

/-- The claims of a token that is signed under the secret and has not expired. -/
def parse (mac : Mac) (secret : String) (now : Instant) (token : String) :
    Except TokenError Claims :=
  match open? mac secret token with
  | .error flaw => .error (.invalid flaw.message)
  | .ok (claims, limits) =>
    match limits.expiry with
    | none => .error (.invalid Flaw.missingExpiry.message)
    | some expiry =>
      if (expiry : Int) < now.seconds then .error .expired
      else if limits.hasAudience then .error (.invalid Flaw.audience.message)
      else .ok claims

/-- Refuses claims of the other kind. -/
def checkKind (expected : TokenKind) (claims : Claims) : Except TokenError Claims :=
  if claims.kind = expected then .ok claims else .error (.wrongKind expected claims.kind)

end Token

/-- A newly issued pair of tokens. -/
structure TokenPair where
  accessToken : String
  refreshToken : String
  /-- The instant from which the refresh token no longer counts. -/
  refreshExpiresAt : Instant
deriving DecidableEq

/-- A signing secret with the lifetimes of the tokens issued under it. -/
structure TokenService where
  mac : Mac
  secret : String
  accessLifetime : Lifetime
  refreshLifetime : Lifetime

namespace TokenService

/-- The written form for diagnostics, which does not show the secret. -/
def describe (service : TokenService) : String :=
  "TokenService \x7b secret: \"[REDACTED]\", access_ttl: " ++ service.accessLifetime.describe ++
    ", refresh_ttl: " ++ service.refreshLifetime.describe ++ " \x7d"

/--
The claims of a token that expires a lifetime from now. Past the last instant the two cannot be
added, and whoever adds them is stopped there without an answer: the error, which has a text of its
own, stands for that stop.
-/
def claimsFor (kind : TokenKind) (user tokenId : Uuid) (now : Instant) (lifetime : Lifetime) :
    Except TokenError Claims :=
  match Claims.issue? kind user tokenId now lifetime with
  | some claims => .ok claims
  | none => .error (.creation (kind.name ++ " expiry out of range"))

/-- A token for a user, if it would expire in range. -/
def issue (service : TokenService) (kind : TokenKind) (user tokenId : Uuid) (now : Instant)
    (lifetime : Lifetime) : Except TokenError String :=
  (claimsFor kind user tokenId now lifetime).map (Token.sign service.mac service.secret)

/-- An access token and a refresh token, with the second in which the latter expires. -/
def issuePair (service : TokenService) (moment : Moment) (user : Uuid) :
    Except TokenError TokenPair := do
  let access ← claimsFor .access user moment.accessTokenId moment.now service.accessLifetime
  let refresh ← claimsFor .refresh user moment.refreshTokenId moment.now service.refreshLifetime
  match refresh.expiry? with
  | none => throw (.creation "refresh expiry out of range")
  | some refreshExpiresAt =>
    return {
      accessToken := Token.sign service.mac service.secret access
      refreshToken := Token.sign service.mac service.secret refresh
      refreshExpiresAt }

/-- The claims of an access token that counts now. -/
def validateAccess (service : TokenService) (now : Instant) (token : String) :
    Except TokenError Claims := do
  Token.checkKind .access (← Token.parse service.mac service.secret now token)

/-- The claims of a refresh token that counts now. -/
def validateRefresh (service : TokenService) (now : Instant) (token : String) :
    Except TokenError Claims := do
  Token.checkKind .refresh (← Token.parse service.mac service.secret now token)

end TokenService

end OrgAccess
