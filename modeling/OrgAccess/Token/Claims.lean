import OrgAccess.Json.Decoder
import OrgAccess.Json.Value
import OrgAccess.Moment

/-!
# What a token says

A token names a user, its own identifier, its kind and the seconds between which it counts. An
access token opens the interface; a refresh token only buys the next pair.
-/

namespace OrgAccess

/-- What a token is good for. -/
inductive TokenKind where
  | access
  | refresh
deriving DecidableEq

namespace TokenKind

/-- The name under which a kind is written. -/
def name : TokenKind → String
  | access => "access"
  | refresh => "refresh"

/-- The kinds of tokens by their names. -/
def named : List (String × TokenKind) :=
  [(access.name, access), (refresh.name, refresh)]

end TokenKind

/-- What a token says. -/
structure Claims where
  userId : Uuid
  /-- The Unix second in which the token was issued. -/
  issuedAt : Int
  /-- The Unix second from which the token no longer counts. -/
  expiresAt : Int
  tokenId : Uuid
  kind : TokenKind
deriving DecidableEq

namespace Claims

/-- The claims of a token issued now for a lifetime, if their expiry is an instant. -/
def issue? (kind : TokenKind) (user tokenId : Uuid) (now : Instant) (lifetime : Lifetime) :
    Option Claims :=
  (now.add? lifetime).map fun expiry =>
    { userId := user
      issuedAt := now.seconds
      expiresAt := expiry.seconds
      tokenId
      kind }

/-- The instant of expiry, if it is in range. -/
def expiry? (claims : Claims) : Option Instant :=
  Instant.ofUnix? claims.expiresAt 0

/-- The claims as they stand in a token. -/
def toJson (claims : Claims) : Json :=
  .object [
    ("uid", .text claims.userId.text),
    ("iat", .integer claims.issuedAt),
    ("exp", .integer claims.expiresAt),
    ("jti", .text claims.tokenId.text),
    ("token_type", .text claims.kind.name)]

/-- How the claims in a token are read. -/
def record : Json.Record Claims where
  name := "Claims"
  blank := ⟨⟨0⟩, 0, 0, ⟨0⟩, .access⟩
  fields := [
    .of "uid" .uuid fun value claims => { claims with userId := value },
    .of "iat" .integer fun value claims => { claims with issuedAt := value },
    .of "exp" .integer fun value claims => { claims with expiresAt := value },
    .of "jti" .uuid fun value claims => { claims with tokenId := value },
    .of "token_type" (.choice TokenKind.named) fun value claims => { claims with kind := value }]

end Claims

/-- Why a token was not issued or not accepted. -/
inductive TokenError where
  | creation (reason : String)
  | invalid (reason : String)
  /-- The token no longer counts. -/
  | expired
  | wrongKind (expected actual : TokenKind)
deriving DecidableEq

/-- How a message tells why a token does not count or could not be issued. -/
def TokenError.message : TokenError → String
  | creation reason => "Failed to create token: " ++ reason
  | invalid reason => "Invalid token: " ++ reason
  | expired => "Token has expired"
  | wrongKind expected actual =>
    "Expected " ++ expected.name ++ " token, got " ++ actual.name ++ " token"

end OrgAccess
