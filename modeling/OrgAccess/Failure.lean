import OrgAccess.Password.Hasher
import OrgAccess.Store.Basic
import OrgAccess.Token.Claims

/-!
# Why a workflow fails

Seven kinds of failure, each with the text that its caller may see; only the text of an internal
failure stays inside. Whatever the store, the hasher, the tokens or the permissions report becomes
one of the seven.
-/

namespace OrgAccess

/-- Why a workflow gave no result. -/
inductive Failure where
  | invalid (reason : String)
  /-- There is no role of the requested name. -/
  | unknownRole
  | unauthorized (reason : String)
  /-- The caller may not do this. -/
  | forbidden (reason : String)
  /-- There is no such record, or it was deleted. -/
  | notFound (reason : String)
  | conflict (reason : String)
  | internal (reason : String)
deriving DecidableEq

namespace Failure

/-- What the caller of a failed operation is told. -/
def message : Failure → String
  | invalid reason => reason
  | unknownRole => Denial.unknownRole.message
  | unauthorized reason => reason
  | forbidden reason => reason
  | notFound reason => reason
  | conflict reason => reason
  | internal reason => "internal error: " ++ reason

/-! ## Failures by their cause -/

/-- A conflict can be told to the caller; what else befalls the store is internal. -/
def ofStore : StoreError → Failure
  | .conflict reason => conflict reason
  | error => internal error.message

/-- What befalls a hasher is internal. -/
def ofPassword (error : PasswordError) : Failure :=
  internal ("password operation failed: " ++ error.message)

/-- A token that could not be issued is an internal fault; one that does not count is refused. -/
def ofToken : TokenError → Failure
  | .creation reason => internal reason
  | _ => unauthorized "token invalide"

/-- A denial forbids, but a role that is not known is a fault of the input. -/
def ofDenial : Denial → Failure
  | .unknownRole => unknownRole
  | denial => forbidden denial.message

/-! ## Failures by name -/

/-- The user does not exist. -/
def userNotFound : Failure := notFound "utilisateur non trouvé"

/-- The user on whose behalf an account is created does not exist. -/
def creatorNotFound : Failure := notFound "créateur non trouvé"

/-- The user who is to be linked or unlinked does not exist. -/
def managerNotFound : Failure := notFound "manager non trouvé"

/-- The team does not exist. -/
def teamNotFound : Failure := notFound "team non trouvée"

/-- Only an employee belongs to a team. -/
def teamNeedsEmployee : Failure := invalid "seul un employé peut être affecté à une team"

/-- Only a manager is linked to a team. -/
def notManager : Failure := invalid "l'utilisateur n'est pas un manager"

/-- A field that was given must not be blank. -/
def blankField (field : String) : Failure :=
  invalid ("le champ " ++ field ++ " ne peut pas être vide")

/-- A password needs a least number of characters. -/
def passwordTooShort (least : Nat) : Failure :=
  invalid ("le mot de passe doit contenir au moins " ++ toString least ++ " caractères")

/-- The address or the password is wrong; which of them is not told. -/
def invalidCredentials : Failure := unauthorized "identifiants invalides"

/-- A refresh token cannot be read or no longer counts. -/
def refreshTokenUnusable : Failure := unauthorized "refresh token invalide ou expiré"

/-- A refresh token is not the one of the current session. -/
def refreshTokenRejected : Failure := unauthorized "refresh token invalide ou révoqué"

/-- The caller no longer exists. -/
def callerUnknown : Failure := unauthorized "token invalide"

end Failure

end OrgAccess
