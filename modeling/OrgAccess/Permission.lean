import OrgAccess.Team
import OrgAccess.User

/-!
# Permissions

What a caller may see and do, decided from its role and its teams alone.

An admin sees everything and writes everything. A manager sees itself, the employees of the teams
it manages, and those teams. An employee sees itself, the employees of its own team, and that
team. Only an admin writes. Reading one user by name is looser for a manager, who is refused
admins only.
-/

namespace OrgAccess

/-- A caller with its current role and its live teams. -/
structure Actor where
  id : Uuid
  role : Role
  teamId : Option Uuid
  managedTeamIds : List Uuid
deriving DecidableEq

/-- What only an admin may do. -/
inductive AdminAction where
  | createUser
  | assignPrivilegedRole
  | updateUser
  | deleteUser
  | createTeam
  | updateTeam
  | deleteTeam
  | addManager
  | removeManager
deriving DecidableEq

/-- The text that refuses an admin's action to anyone else. -/
def AdminAction.denial : AdminAction → String
  | createUser => "seul un admin peut créer des utilisateurs"
  | assignPrivilegedRole => "seul un admin peut créer des admins ou managers"
  | updateUser => "seul un admin peut modifier des utilisateurs"
  | deleteUser => "seul un admin peut supprimer des utilisateurs"
  | createTeam => "seul un admin peut créer des teams"
  | updateTeam => "seul un admin peut modifier des teams"
  | deleteTeam => "seul un admin peut supprimer des teams"
  | addManager => "seul un admin peut affecter des managers"
  | removeManager => "seul un admin peut retirer des managers"

/-- Why something is not permitted. -/
inductive Denial where
  /-- The requested role has no such name. -/
  | unknownRole
  | adminRequired (action : AdminAction)
  | outOfReach
deriving DecidableEq

/-- What a caller is told whose call is not permitted. -/
def Denial.message : Denial → String
  | unknownRole => "rôle invalide"
  | adminRequired action => action.denial
  | outOfReach => "accès refusé"

/-- The users that a listing may show. -/
inductive UserVisibility where
  | all
  | within (self : Uuid) (teams : List Uuid)
deriving DecidableEq

/-- The teams that a listing may show. -/
inductive TeamVisibility where
  | all
  | only (teams : List Uuid)
deriving DecidableEq

/-- Whether a user is among those that can be seen. -/
def UserVisibility.permits : UserVisibility → User → Bool
  | all, _ => true
  | within self teams, user =>
    user.id == self || teams.any fun team => user.isEmployeeOf team

/-- Whether a team is among those that can be seen. -/
def TeamVisibility.permits : TeamVisibility → Uuid → Bool
  | all, _ => true
  | only teams, team => teams.contains team

namespace Actor

/-- Whether the actor is an admin. -/
def isAdmin (actor : Actor) : Bool :=
  actor.role == .admin

/-- The teams whose employees the caller may see; none for an admin, whose sight has no bounds. -/
def teamScope (actor : Actor) : List Uuid :=
  match actor.role with
  | .admin => []
  | .manager => actor.managedTeamIds
  | .employee => actor.teamId.toList

/-- Which users the actor can see in a listing. -/
def userVisibility (actor : Actor) : UserVisibility :=
  if actor.isAdmin then .all else .within actor.id actor.teamScope

/-- Which teams the actor can see in a listing. -/
def teamVisibility (actor : Actor) : TeamVisibility :=
  if actor.isAdmin then .all else .only actor.teamScope

/-- Whether the actor may read a user; a manager may read all but admins. -/
def mayReadUser (actor : Actor) (target : User) : Bool :=
  match actor.role with
  | .admin => true
  | .manager => target.role != .admin
  | .employee =>
    target.id == actor.id ||
      (target.role == .employee && actor.teamId.isSome && target.teamId == actor.teamId)

/-- Refuses a user that the caller may not read. -/
def checkReadUser (actor : Actor) (target : User) : Except Denial Unit :=
  if actor.mayReadUser target then .ok () else .error .outOfReach

/-- Refuses a team that the caller may not read. -/
def checkReadTeam (actor : Actor) (team : Uuid) : Except Denial Unit :=
  if actor.teamVisibility.permits team then .ok () else .error .outOfReach

/-- Refuses an action to all but admins. -/
def checkAdmin (actor : Actor) (action : AdminAction) : Except Denial Unit :=
  if actor.isAdmin then .ok () else .error (.adminRequired action)

end Actor

/-- The role that a request names; an absent or empty name asks for an employee. -/
def requestedRole : Option String → Except Denial Role
  | none => .ok .employee
  | some name =>
    if name = "" then .ok .employee
    else match Role.ofName? name with
      | some role => .ok role
      | none => .error .unknownRole

/-- Refuses a privileged role unless an admin grants it. -/
def checkRoleAssignment (creator : Option Role) (requested : Role) : Except Denial Unit :=
  if requested.isPrivileged ∧ creator ≠ some .admin then
    .error (.adminRequired .assignPrivilegedRole)
  else .ok ()

end OrgAccess
