import OrgAccess.Workflow.Caller

/-!
# Registration

Only an admin creates accounts, with one exception: as long as there is no admin, an anonymous
registration creates the first one, whatever role it asks for.
-/

namespace OrgAccess

/-- What is given to create an account. -/
structure Registration where
  /-- The address under which the user will log in. -/
  email : String
  password : String
  firstName : String
  lastName : String
  phoneNumber : Option String
  /-- The name of the requested role; an employee where none is given. -/
  role : Option String
  teamId : Option Uuid
deriving DecidableEq

namespace Workflow

/-- The role that a new account gets; the first account of all becomes an admin. -/
def grantedRole (adminExists : Bool) (creator : Option User) (requested : Option String) :
    Except Denial Role := do
  let role ← requestedRole requested
  if !adminExists && creator.isNone then return .admin
  checkRoleAssignment (creator.map User.role) role
  return role

/-- Creates an account. As long as there is no admin, nobody has to answer for it. -/
def register (createdBy : Option Uuid) (input : Registration) : Workflow PublicUser := do
  let adminExists ← store .adminExists
  if adminExists && createdBy.isNone then
    throw (.ofDenial (.adminRequired .createUser))
  let creator ← match createdBy with
    | some id => do
      let found ← store (.findUser id)
      some <$> require .creatorNotFound found
    | none => pure none
  if adminExists && !creator.any User.isAdmin then
    throw (.ofDenial (.adminRequired .createUser))
  let role ← permitted (grantedRole adminExists creator input.role)
  if let some team := input.teamId then
    if role ≠ .employee then throw .teamNeedsEmployee
    let _ ← liveTeam team
  let passwordHash ← hashPassword input.password
  let user ← store (.createUser {
    email := input.email
    passwordHash
    firstName := input.firstName
    lastName := input.lastName
    phoneNumber := optionalText input.phoneNumber
    role
    createdBy := creator.map User.id
    teamId := input.teamId })
  return user.toPublic

end Workflow

end OrgAccess
