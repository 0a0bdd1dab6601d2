import OrgAccess.Workflow.Caller

/-!
# Administering teams

A team is shown with the employees and the managers that its reader may see. Every change is
reserved to admins. Linking a linked manager and unlinking an unlinked one succeed.
-/

namespace OrgAccess

/-- What is given to create a team. -/
structure TeamDraft where
  name : String
  description : Option String
deriving DecidableEq

/-- A requested change to a team; a blank description takes the old one away. -/
structure TeamPatch where
  name : Option String := none
  description : Option String := none
deriving DecidableEq

namespace Workflow

/-- A team with the members that the caller may see. -/
def teamDetails (actor : Actor) (team : Team) : Workflow TeamDetails := do
  let visible (users : List User) : List PublicUser :=
    (users.filter actor.userVisibility.permits).map User.toPublic
  let employees ← store (.listEmployees team.id)
  let managers ← store (.listManagers team.id)
  return { team, employees := visible employees, managers := visible managers }

/-- The teams that the caller may see, oldest first. -/
def listTeams (caller : Uuid) : Workflow (List TeamDetails) := do
  let actor ← resolveActor caller
  let teams ← store (.listTeams actor.teamVisibility)
  teams.mapM (teamDetails actor)

/-- A team with the members that the caller can see. -/
def getTeam (caller team : Uuid) : Workflow TeamDetails := do
  let actor ← resolveActor caller
  let team ← liveTeam team
  permitted (actor.checkReadTeam team.id)
  teamDetails actor team

/-- Adds a team to the store; its record is stamped before the store is called. -/
def storeTeam (data : NewTeam) : Workflow Team := do
  let stamp ← ExceptT.lift (Program.effect .readMoment)
  store (.createTeam stamp data)

/-- Creates a team for an admin. -/
def createTeam (caller : Uuid) (draft : TeamDraft) : Workflow Team := do
  let actor ← resolveAdmin caller .createTeam
  if Text.isBlankText draft.name then throw (.blankField "name")
  storeTeam {
    name := draft.name
    description := optionalText draft.description
    createdBy := actor.id }

/-- Changes a team for an admin. -/
def updateTeam (caller team : Uuid) (patch : TeamPatch) : Workflow Team := do
  let _ ← resolveAdmin caller .updateTeam
  let name ← requiredText "name" patch.name
  require .teamNotFound
    (← store (.updateTeam team { name, description := clearableText patch.description }))

/-- Marks a team as deleted; a second time there is no such team. -/
def deleteTeam (caller team : Uuid) : Workflow Unit := do
  let _ ← resolveAdmin caller .deleteTeam
  let isDeleted ← store (.deleteTeam team)
  if !isDeleted then throw .teamNotFound

/-- Links a manager to a team for an admin. -/
def addManager (caller team manager : Uuid) : Workflow Unit := do
  let _ ← resolveAdmin caller .addManager
  let user ← require .managerNotFound (← store (.findUser manager))
  if user.role ≠ .manager then throw .notManager
  let _ ← liveTeam team
  store (.addManager team manager)

/-- Takes the link between a manager and a team away, whatever the role of the user is by now. -/
def removeManager (caller team manager : Uuid) : Workflow Unit := do
  let _ ← resolveAdmin caller .removeManager
  let _ ← require .managerNotFound (← store (.findUser manager))
  let _ ← liveTeam team
  store (.removeManager team manager)

end Workflow

end OrgAccess
