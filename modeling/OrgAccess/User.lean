import OrgAccess.Role
import OrgAccess.Time.Instant
import OrgAccess.Uuid

/-!
# Users

A stored user carries credentials: a password hash and the refresh token of the current session.
Nothing outside the store sees them; `User.toPublic` is the projection that leaves. A user that
was deleted stays in the store with a tombstone.
-/

namespace OrgAccess

/-- A stored user account. -/
structure User where
  id : Uuid
  /-- The address under which the user logs in. -/
  email : String
  passwordHash : String
  firstName : String
  lastName : String
  phoneNumber : Option String
  role : Role
  /-- The admin who created the account; the first admin has none. -/
  createdBy : Option Uuid
  teamId : Option Uuid
  refreshToken : Option String
  /-- The instant from which the refresh token no longer counts. -/
  refreshExpiresAt : Option Instant
  /-- When the account was created. -/
  createdAt : Instant
  /-- When the account was last changed. -/
  updatedAt : Instant
  /-- The tombstone: when the account was deleted. -/
  deletedAt : Option Instant
deriving DecidableEq

namespace User

/-- Whether the account has not been deleted. -/
def isLive (user : User) : Bool :=
  user.deletedAt.isNone

/-- Whether the user is an admin. -/
def isAdmin (user : User) : Bool :=
  user.role == .admin

/-- Whether the user is an employee of the given team. -/
def isEmployeeOf (user : User) (team : Uuid) : Bool :=
  user.role == .employee && user.teamId == some team

/--
Whether `token` is the refresh token of the current session and has not expired. An empty stored
token matches nothing.
-/
def refreshTokenMatches (user : User) (token : String) (now : Instant) : Bool :=
  match user.refreshToken, user.refreshExpiresAt with
  | some stored, some expiresAt => stored != "" && stored == token && decide (now < expiresAt)
  | _, _ => false

end User

/-- What others may see of a user: no password hash and no session. -/
structure PublicUser where
  id : Uuid
  /-- The address under which the user logs in. -/
  email : String
  firstName : String
  lastName : String
  phoneNumber : Option String
  role : Role
  teamId : Option Uuid
  createdBy : Option Uuid
  /-- When the account was created. -/
  createdAt : Instant
deriving DecidableEq

/-- The projection of a user that may leave the system. -/
def User.toPublic (user : User) : PublicUser where
  id := user.id
  email := user.email
  firstName := user.firstName
  lastName := user.lastName
  phoneNumber := user.phoneNumber
  role := user.role
  teamId := user.teamId
  createdBy := user.createdBy
  createdAt := user.createdAt

/-- What is given to create a user; the store adds the identifier and the instants. -/
structure NewUser where
  /-- The address under which the user will log in. -/
  email : String
  passwordHash : String
  firstName : String
  lastName : String
  phoneNumber : Option String
  role : Role
  createdBy : Option Uuid
  teamId : Option Uuid
deriving DecidableEq

/--
Changes to a user. A missing field stays as it is; the two optional fields distinguish clearing
(`some none`) from leaving alone (`none`).
-/
structure UserChanges where
  email : Option String := none
  passwordHash : Option String := none
  firstName : Option String := none
  lastName : Option String := none
  phoneNumber : Option (Option String) := none
  role : Option Role := none
  teamId : Option (Option Uuid) := none
deriving DecidableEq

namespace UserChanges

/-- Whether nothing is to be changed. -/
def isEmpty (changes : UserChanges) : Bool :=
  changes.email.isNone && changes.passwordHash.isNone && changes.firstName.isNone &&
    changes.lastName.isNone && changes.phoneNumber.isNone && changes.role.isNone &&
    changes.teamId.isNone

/-- Whether the changes set a role that cannot manage teams. -/
def leavesManagerRole (changes : UserChanges) : Bool :=
  match changes.role with
  | some role => role != .manager
  | none => false

/-- The user after the changes, stamped with the instant at which they were made. -/
def apply (changes : UserChanges) (now : Instant) (user : User) : User :=
  { user with
    email := changes.email.getD user.email
    passwordHash := changes.passwordHash.getD user.passwordHash
    firstName := changes.firstName.getD user.firstName
    lastName := changes.lastName.getD user.lastName
    phoneNumber := changes.phoneNumber.getD user.phoneNumber
    role := changes.role.getD user.role
    teamId := changes.teamId.getD user.teamId
    updatedAt := now }

theorem isEmpty_iff (changes : UserChanges) : changes.isEmpty = true ↔ changes = {} := by
  cases changes
  simp only [isEmpty, Bool.and_eq_true, Option.isNone_iff_eq_none, UserChanges.mk.injEq,
    and_assoc]

end UserChanges

end OrgAccess
