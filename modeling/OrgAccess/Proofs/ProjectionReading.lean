import OrgAccess.Projection
import OrgAccess.Proofs.JsonReading
import OrgAccess.Proofs.WrittenInstants

/-!
# Users and teams are read back from their JSON

What is written of a user or a team is read as the same record: identifiers, names of any
characters, roles, absent values and instants are each taken back from their own text, and the
fields of the record are filled in from the members that were written of them. A team's tombstone
is the one thing that is not written, so it reads as absent.
-/

namespace OrgAccess

open Json

/-! ## Values -/

theorem takes_instant (instant : Instant) :
    Decoder.instant.read.Takes instant.toJson.render instant := by
  rw [Instant.toJson, Json.render]
  exact takes_ofText (by rw [Instant.ofRfc3339_toRfc3339])

theorem takes_id (id : Uuid) : Decoder.uuid.read.Takes id.toJson.render id := by
  rw [Uuid.toJson, Json.render]
  exact takes_uuid id

theorem takes_name (name : String) : Decoder.text.read.Takes (Json.text name).render name := by
  rw [Json.render]
  exact takes_text name

theorem takes_role (role : Role) : Role.decoder.read.Takes (Json.text role.name).render role := by
  rw [Json.render]
  cases role <;> exact takes_choice rfl

/-! ## Records -/

/-- A user is read back from its projection. -/
theorem PublicUser.ofJsonText_toJson (user : PublicUser) :
    ofJsonText user.toJson.compact = .ok user := by
  have fills : record.Fills [] record.blank user.members
      ["created_at", "created_by", "team_id", "role", "phone_number", "last_name", "first_name",
        "email", "id"] user := by
    refine .known rfl (by decide) (takes_field (takes_id user.id) _ _ _) ?_
    refine .known rfl (by decide) (takes_field (takes_name user.email) _ _ _) ?_
    refine .known rfl (by decide) (takes_field (takes_name user.firstName) _ _ _) ?_
    refine .known rfl (by decide) (takes_field (takes_name user.lastName) _ _ _) ?_
    refine .known rfl (by decide) (takes_field (takes_ofOption takes_text user.phoneNumber) _ _ _) ?_
    refine .known rfl (by decide) (takes_field (takes_role user.role) _ _ _) ?_
    refine .known rfl (by decide) (takes_field (takes_ofOption takes_uuid user.teamId) _ _ _) ?_
    refine .known rfl (by decide) (takes_field (takes_ofOption takes_uuid user.createdBy) _ _ _) ?_
    refine .known rfl (by decide) (takes_field (takes_instant user.createdAt) _ _ _) ?_
    exact .done _ _
  rw [ofJsonText, inputOfText, compact, String.toList_ofList, toJson]
  exact fills.runAll fun input => rfl

/-- A team is read back from its projection, without its tombstone. -/
theorem Team.ofJsonText_toJson (team : Team) :
    ofJsonText team.toJson.compact = .ok { team with deletedAt := none } := by
  have fills : record.Fills [] record.blank team.members
      ["updated_at", "created_at", "created_by", "description", "name", "id"]
      { team with deletedAt := none } := by
    refine .known rfl (by decide) (takes_field (takes_id team.id) _ _ _) ?_
    refine .known rfl (by decide) (takes_field (takes_name team.name) _ _ _) ?_
    refine .known rfl (by decide) (takes_field (takes_ofOption takes_text team.description) _ _ _) ?_
    refine .known rfl (by decide) (takes_field (takes_id team.createdBy) _ _ _) ?_
    refine .known rfl (by decide) (takes_field (takes_instant team.createdAt) _ _ _) ?_
    refine .known rfl (by decide) (takes_field (takes_instant team.updatedAt) _ _ _) ?_
    exact .done _ _
  rw [ofJsonText, inputOfText, compact, String.toList_ofList, toJson]
  exact fills.runAll fun input => rfl

/-- The projection of a team tells everything but its tombstone. -/
theorem Team.compact_eq_iff (first second : Team) :
    first.toJson.compact = second.toJson.compact ↔
      { first with deletedAt := none } = { second with deletedAt := none } := by
  constructor
  · intro same
    have read := ofJsonText_toJson first
    rw [same, ofJsonText_toJson] at read
    exact (Except.ok.inj read).symm
  · intro same
    have untold (team : Team) : team.toJson = { team with deletedAt := none }.toJson := rfl
    rw [untold first, same, ← untold second]

/--
Users and teams are read back from their projections, a team without its tombstone; so two of them
that are written the same are the same. Each identifier, each name and each instant is read back
from its own text in whatever object it stands.
-/
theorem projections_read_back :
    (∀ user : PublicUser, PublicUser.ofJsonText user.toJson.compact = .ok user) ∧
      (∀ team : Team, Team.ofJsonText team.toJson.compact = .ok { team with deletedAt := none }) ∧
      (∀ first second : PublicUser,
        first.toJson.compact = second.toJson.compact ↔ first = second) ∧
      (∀ first second : Team, first.toJson.compact = second.toJson.compact ↔
        { first with deletedAt := none } = { second with deletedAt := none }) ∧
      (∀ id : Uuid, Uuid.ofText? id.text = some id ∧
        Decoder.uuid.read.Takes id.toJson.render id) ∧
      (∀ name : String, Decoder.text.read.Takes (Json.text name).render name) ∧
      ∀ instant : Instant, Instant.ofRfc3339 instant.toRfc3339 = .ok instant ∧
        Decoder.instant.read.Takes instant.toJson.render instant := by
  have users (first second : PublicUser) :
      first.toJson.compact = second.toJson.compact ↔ first = second := by
    constructor
    · intro same
      have read := PublicUser.ofJsonText_toJson first
      rw [same, PublicUser.ofJsonText_toJson] at read
      exact (Except.ok.inj read).symm
    · rintro rfl
      rfl
  exact ⟨PublicUser.ofJsonText_toJson, Team.ofJsonText_toJson, users, Team.compact_eq_iff,
    fun id => ⟨Uuid.ofText?_text id, takes_id id⟩, takes_name,
    fun instant => ⟨Instant.ofRfc3339_toRfc3339 instant, takes_instant instant⟩⟩

end OrgAccess
