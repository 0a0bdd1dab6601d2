import OrgAccess.Program
import OrgAccess.Text.Blank

/-!
# Callers and texts

What every workflow begins with. The caller is looked up anew, so a decision follows its current
role and its live teams, and the texts that a request gives are checked or taken as blank.
-/

namespace OrgAccess.Workflow

/--
The caller with its current role and teams. A deleted team counts for nothing: an employee of one
has no team, and a manager has only live ones.
-/
def resolveActor (caller : Uuid) : Workflow Actor := do
  let user ← require .callerUnknown (← store (.findUser caller))
  let teamId ← match user.role, user.teamId with
    | .employee, some team => do
      let found ← store (.findTeam team)
      pure (found.map Team.id)
    | _, _ => pure none
  let managedTeamIds ←
    if user.role = .manager then store (.managedTeamIds user.id) else pure []
  return { id := user.id, role := user.role, teamId, managedTeamIds }

/-- The caller, if it is an admin. -/
def resolveAdmin (caller : Uuid) (action : AdminAction) : Workflow Actor := do
  let actor ← resolveActor caller
  permitted (actor.checkAdmin action)
  return actor

/-- A text that may be left alone, but not be replaced by a blank one. -/
def requiredText (field : String) (value : Option String) : Workflow (Option String) :=
  if value.any Text.isBlankText then throw (.blankField field) else pure value

/-- An optional text, of which a blank one counts as none. -/
def optionalText (value : Option String) : Option String :=
  value.filter fun text => !Text.isBlankText text

/-- A change to an optional text, of which a blank one takes the old one away. -/
def clearableText (value : Option String) : Option (Option String) :=
  value.map fun text => if Text.isBlankText text then none else some text

/-- The live team with an identifier; otherwise the operation fails. -/
def liveTeam (team : Uuid) : Workflow Team := do
  require .teamNotFound (← store (.findTeam team))

end OrgAccess.Workflow
