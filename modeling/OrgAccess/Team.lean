import OrgAccess.Time.Instant
import OrgAccess.User
import OrgAccess.Uuid

/-!
# Teams

A stored team and the two projections that leave the system: the team alone, and the team with
the members its reader may see.
-/

namespace OrgAccess

/-- A stored team. -/
structure Team where
  id : Uuid
  name : String
  description : Option String
  createdBy : Uuid
  /-- When the team was created. -/
  createdAt : Instant
  /-- When the team was last changed. -/
  updatedAt : Instant
  /-- The tombstone: when the team was deleted. -/
  deletedAt : Option Instant
deriving DecidableEq

namespace Team

/-- Whether the team has not been deleted. -/
def isLive (team : Team) : Bool :=
  team.deletedAt.isNone

end Team

/-- A team with the members that its reader may see. -/
structure TeamDetails where
  team : Team
  /-- The employees of the team, oldest account first. -/
  employees : List PublicUser
  /-- The managers linked to the team, oldest account first. -/
  managers : List PublicUser
deriving DecidableEq

/-- What is given to create a team. -/
structure NewTeam where
  name : String
  description : Option String
  createdBy : Uuid
deriving DecidableEq

/-- Changes to a team; a missing field stays as it is. -/
structure TeamChanges where
  name : Option String := none
  description : Option (Option String) := none
deriving DecidableEq

namespace TeamChanges

/-- The team after the changes, stamped with the instant at which they were made. -/
def apply (changes : TeamChanges) (now : Instant) (team : Team) : Team :=
  { team with
    name := changes.name.getD team.name
    description := changes.description.getD team.description
    updatedAt := now }

end TeamChanges

end OrgAccess
