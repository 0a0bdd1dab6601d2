import OrgAccess.Workflow.Caller

/-!
# Administering users

Reading goes through what the caller may see; every change is reserved to admins.
-/

namespace OrgAccess

/--
A requested change to a user. A missing field stays as it is, a blank telephone number takes the
old one away, and a blank value of any other text is refused.
-/
structure UserPatch where
  email : Option String := none
  password : Option String := none
  firstName : Option String := none
  lastName : Option String := none
  phoneNumber : Option String := none
  role : Option String := none
  teamId : Option (Option Uuid) := none
deriving DecidableEq

namespace Workflow

/-- The least number of characters of a password. -/
def leastPasswordLength : Nat := 8

/-- The users that the caller may see, oldest first. -/
def listUsers (caller : Uuid) : Workflow (List PublicUser) := do
  let actor ← resolveActor caller
  let users ← store (.listUsers actor.userVisibility)
  return users.map User.toPublic

/-- A user whom the caller may read. -/
def getUser (caller id : Uuid) : Workflow PublicUser := do
  let actor ← resolveActor caller
  let user ← require .userNotFound (← store (.findUser id))
  permitted (actor.checkReadUser user)
  return user.toPublic

/-- The role that a patch names, which has to be known. -/
def patchedRole : Option String → Workflow (Option Role)
  | some name => some <$> require .unknownRole (Role.ofName? name)
  | none => pure none

/--
The change of team in a patch, given the role that the user will have. A team has to be live and
is for employees only; whoever stops being an employee leaves its team.
-/
def patchedTeam (target : User) (role : Role) (requested : Option (Option Uuid)) :
    Workflow (Option (Option Uuid)) := do
  if let some (some team) := requested then
    if role ≠ .employee then throw .teamNeedsEmployee
    let _ ← liveTeam team
  if role ≠ .employee ∧ target.teamId.isSome then return some none
  return requested

/-- The hash of the new password, if a patch has one. -/
def patchedPassword (password : Option String) : Workflow (Option String) := do
  match ← requiredText "password" password with
  | some password =>
    if password.length < leastPasswordLength then throw (.passwordTooShort leastPasswordLength)
    some <$> hashPassword password
  | none => return none

/-- Changes a user for an admin; all of the patch is judged before anything is written. -/
def updateUser (caller id : Uuid) (patch : UserPatch) : Workflow PublicUser := do
  let _ ← resolveAdmin caller .updateUser
  let target ← require .userNotFound (← store (.findUser id))
  let role ← patchedRole patch.role
  let teamId ← patchedTeam target (role.getD target.role) patch.teamId
  let passwordHash ← patchedPassword patch.password
  let email ← requiredText "email" patch.email
  let firstName ← requiredText "first_name" patch.firstName
  let lastName ← requiredText "last_name" patch.lastName
  let changes : UserChanges := {
    email
    passwordHash
    firstName
    lastName
    phoneNumber := clearableText patch.phoneNumber
    role
    teamId }
  if changes.isEmpty then return target.toPublic
  let updated ← require .userNotFound (← store (.updateUser id changes))
  return updated.toPublic

/-- Marks a user as deleted; a second time there is no such user. -/
def deleteUser (caller id : Uuid) : Workflow Unit := do
  let _ ← resolveAdmin caller .deleteUser
  let isDeleted ← store (.deleteUser id)
  if !isDeleted then throw .userNotFound

end Workflow

end OrgAccess
