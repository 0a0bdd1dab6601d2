import OrgAccess.Program
import OrgAccess.Text.Blank

/-!
# Authenticating requests

A request authenticates with an access token after the word `Bearer` in its first authorization
header. The token names the user only; the role is looked up each time, so a changed role or a
deletion counts at once.
-/

namespace OrgAccess

/-- The user behind a request. -/
structure Identity where
  userId : Uuid
  role : Role
deriving DecidableEq

/-- Why a request is not authenticated. -/
inductive AuthError where
  /-- There is no authorization header. -/
  | missingCredentials
  /-- The header holds no bearer token. -/
  | invalidFormat
  /-- The token is not an access token that counts now. -/
  | invalidToken
  /-- The user whom the token names does not exist. -/
  | unknownUser
  /-- The store did not answer. -/
  | store (reason : String)
deriving DecidableEq

/-- What a caller is told whose credentials do not count. -/
def AuthError.message : AuthError → String
  | missingCredentials => "token manquant"
  | invalidFormat | invalidToken | unknownUser => "token invalide"
  | store reason => "Store error: " ++ reason

/-- Whether a byte may stand in a header value: any but the control characters, the tab excepted. -/
def isHeaderByte (byte : UInt8) : Bool :=
  (byte ≥ 0x20 && byte != 0x7F) || byte == 0x09

/-- Whether a byte of a header value is a visible ASCII character, a space or a tab. -/
def isPlainByte (byte : UInt8) : Bool :=
  (byte ≥ 0x20 && byte < 0x7F) || byte == 0x09

/-- The text of a header value, if it is plain ASCII. -/
def plainText? (value : List UInt8) : Option (List Char) :=
  if value.all isPlainByte then some (value.map fun byte => Char.ofNat byte.toNat) else none

/-- What stands before the token in an authorization header. -/
def bearerMark : List Char := "Bearer ".toList

/-- The token in the first of the authorization headers. -/
def bearerToken : (values : List (List UInt8)) → Except AuthError String
  | [] => .error .missingCredentials
  | value :: _ =>
    match plainText? value with
    | none => .error .invalidFormat
    | some text =>
      if bearerMark.isPrefixOf text then
        let token := Text.trim (String.ofList (text.drop bearerMark.length))
        if token = "" then .error .invalidFormat else .ok token
      else .error .invalidFormat

/-- The user behind the authorization headers of a request. -/
def authenticate (values : List (List UInt8)) : ExceptT AuthError Program Identity := do
  let token ← liftExcept (bearerToken values)
  let claims ← ExceptT.mk do
    return (← Program.effect (.checkToken .access token)).mapError fun _ => .invalidToken
  let user ← ExceptT.mk do
    return (← Program.effect (.store (.findUser claims.userId))).mapError fun error =>
      .store error.message
  match user with
  | some user => return { userId := user.id, role := user.role }
  | none => throw .unknownUser

end OrgAccess
