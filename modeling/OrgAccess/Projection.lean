import OrgAccess.Json.Decoder
import OrgAccess.Json.Value
import OrgAccess.Team
import OrgAccess.Workflow.Session

/-!
# Records as JSON

The JSON forms in which users, teams and the results of the workflows leave the system. A user and
a team are also read back: what is written always reads as the same record, a team's tombstone
apart, which is not written.
-/

namespace OrgAccess

namespace Instant

/-- An instant is written as a text. -/
def toJson (instant : Instant) : Json :=
  .text instant.toRfc3339

end Instant

namespace Uuid

/-- An identifier is written as a text. -/
def toJson (id : Uuid) : Json :=
  .text id.text

end Uuid

namespace Role

/-- The roles by their names. -/
def named : List (String × Role) :=
  all.map fun role => (role.name, role)

/-- A role is read by its name. -/
def decoder : Json.Decoder Role :=
  .choice named

end Role

namespace PublicUser

/-- What is shown of a user, in this order. -/
def members (user : PublicUser) : List (String × Json) :=
  [("id", user.id.toJson),
    ("email", .text user.email),
    ("first_name", .text user.firstName),
    ("last_name", .text user.lastName),
    ("phone_number", .ofOption .text user.phoneNumber),
    ("role", .text user.role.name),
    ("team_id", .ofOption Uuid.toJson user.teamId),
    ("created_by", .ofOption Uuid.toJson user.createdBy),
    ("created_at", user.createdAt.toJson)]

/-- A user as it is shown, without anything secret. -/
def toJson (user : PublicUser) : Json :=
  .object user.members

/-- How a user that was shown is read again. -/
def record : Json.Record PublicUser where
  name := "PublicUser"
  blank := ⟨⟨0⟩, "", "", "", none, .employee, none, none, .epoch⟩
  fields := [
    .of "id" .uuid fun value user => { user with id := value },
    .of "email" .text fun value user => { user with email := value },
    .of "first_name" .text fun value user => { user with firstName := value },
    .of "last_name" .text fun value user => { user with lastName := value },
    .of "phone_number" (.optional .text) fun value user => { user with phoneNumber := value },
    .of "role" Role.decoder fun value user => { user with role := value },
    .of "team_id" (.optional .uuid) fun value user => { user with teamId := value },
    .of "created_by" (.optional .uuid) fun value user => { user with createdBy := value },
    .of "created_at" .instant fun value user => { user with createdAt := value }]

/-- Reads a user that was shown. -/
def ofJsonText (text : String) : Except Json.Refusal PublicUser :=
  record.read.runAll (Json.inputOfText text)

end PublicUser

namespace Team

/-- What is shown of a team, in this order. -/
def members (team : Team) : List (String × Json) :=
  [("id", team.id.toJson),
    ("name", .text team.name),
    ("description", .ofOption .text team.description),
    ("created_by", team.createdBy.toJson),
    ("created_at", team.createdAt.toJson),
    ("updated_at", team.updatedAt.toJson)]

/-- The JSON form of a team, which does not tell of a deletion. -/
def toJson (team : Team) : Json :=
  .object team.members

/-- How a team that was shown is read again. -/
def record : Json.Record Team where
  name := "Team"
  blank := ⟨⟨0⟩, "", none, ⟨0⟩, .epoch, .epoch, none⟩
  fields := [
    .of "id" .uuid fun value team => { team with id := value },
    .of "name" .text fun value team => { team with name := value },
    .of "description" (.optional .text) fun value team => { team with description := value },
    .of "created_by" .uuid fun value team => { team with createdBy := value },
    .of "created_at" .instant fun value team => { team with createdAt := value },
    .of "updated_at" .instant fun value team => { team with updatedAt := value }]

/-- Reads a team that was shown. -/
def ofJsonText (text : String) : Except Json.Refusal Team :=
  record.read.runAll (Json.inputOfText text)

end Team

/-- Users as they are listed. -/
def PublicUser.listToJson (users : List PublicUser) : Json :=
  .list (users.map toJson)

/-- The JSON form of a team with its members: those of the team and the two lists. -/
def TeamDetails.toJson (details : TeamDetails) : Json :=
  .object (details.team.members ++
    [("employees", PublicUser.listToJson details.employees),
      ("managers", PublicUser.listToJson details.managers)])

/-- The JSON form of a profile: the members of the user, the team and the teams. -/
def Profile.toJson (profile : Profile) : Json :=
  .object (profile.user.members ++
    [("team", .ofOption Team.toJson profile.team), ("teams", .list (profile.teams.map Team.toJson))])

/-- What a login is answered. -/
def Login.toJson (login : Login) : Json :=
  .object [
    ("token", .text login.token),
    ("refresh_token", .text login.refreshToken),
    ("user", login.user.toJson)]

/-- What an exchange of tokens is answered. -/
def Renewal.toJson (renewal : Renewal) : Json :=
  .object [("token", .text renewal.token), ("refresh_token", .text renewal.refreshToken)]

end OrgAccess
