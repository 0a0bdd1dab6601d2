import OrgAccess.Proofs.JsonMembers
import OrgAccess.Proofs.Serving

/-!
# What a patch of a user was read from

The body of a request that changes a user is an object with up to seven members that count. Each of
them becomes the field of its name: no member and null leave the field out, but a null team takes
the team away.
-/

namespace OrgAccess

open Json

/-- The members of an object spell the fields of a patch. -/
structure UserPatch.SpelledBy (members : List (String × Input)) (patch : UserPatch) : Prop where
  email : ∃ said, Means .text (members.lookup "email") said ∧ patch.email = said.join
  password : ∃ said, Means .text (members.lookup "password") said ∧ patch.password = said.join
  firstName : ∃ said, Means .text (members.lookup "first_name") said ∧ patch.firstName = said.join
  lastName : ∃ said, Means .text (members.lookup "last_name") said ∧ patch.lastName = said.join
  phoneNumber :
    ∃ said, Means .text (members.lookup "phone_number") said ∧ patch.phoneNumber = said.join
  role : ∃ said, Means .text (members.lookup "role") said ∧ patch.role = said.join
  teamId : Means .uuid (members.lookup "team_id") patch.teamId

namespace Http.Form

theorem scalars_userPatch :
    ∀ field ∈ userPatch.record.fields, ∀ patch, TakesScalar (field.read patch) := by
  have text : TakesScalar Decoder.text.optional.read :=
    takesScalar_optional (takesScalar_ofText _ _)
  have uuid : TakesScalar Decoder.uuid.explicit.read :=
    takesScalar_explicit (takesScalar_ofText _ _)
  simp [userPatch, Field.takesScalar_of, text, uuid]

/-- The texts that a patch may have, by their keys. -/
def textParts : List (String × (UserPatch → Option String)) :=
  [("email", UserPatch.email), ("password", UserPatch.password),
    ("first_name", UserPatch.firstName), ("last_name", UserPatch.lastName),
    ("phone_number", UserPatch.phoneNumber), ("role", UserPatch.role)]

theorem tells_text {key : String} {get : UserPatch → Option String}
    (listed : (key, get) ∈ textParts) : userPatch.record.Tells key (.optional .text) get := by
  have known : ∀ part ∈ textParts, part.1 ∈ userPatch.record.fields.map Field.key := by
    simp [textParts, userPatch]
  have own : ∀ part ∈ textParts, ∀ field ∈ userPatch.record.fields, field.key = part.1 →
      field.Fills (.optional .text) part.2 := by
    simp [textParts, userPatch, Field.fills_of]
  have others : ∀ part ∈ textParts, ∀ field ∈ userPatch.record.fields, field.key ≠ part.1 →
      field.Keeps part.2 := by
    simp [textParts, userPatch, Field.keeps_of]
  have blank : ∀ part ∈ textParts,
      (Decoder.text.optional).absent = some (part.2 userPatch.record.blank) := by
    simp [textParts, userPatch, Decoder.optional]
  exact ⟨known _ listed, own _ listed, others _ listed, blank _ listed⟩

theorem tells_teamId : userPatch.record.Tells "team_id" (.explicit .uuid) UserPatch.teamId :=
  Record.tells_of_split [_, _, _, _, _, _] _ rfl
    (Field.fills_mayCutOff (Field.fills_of fun _ _ => rfl)) (by simp [Field.keeps_of]) rfl

/-- A patch that was read from an object is what the members of the object spell. -/
theorem exists_spelling {request : Request} {patch : UserPatch} {tail : Input}
    (isObject : fromToken (Text.decodeUtf8 request.body) = some '{' :: tail)
    (read : userPatch.read request = .ok patch) :
    ∃ members, Lists true tail members ∧ patch.SpelledBy members := by
  have reads : userPatch.record.read.Reads (Text.decodeUtf8 request.body) patch
      (userPatch.record.read.outcome (Text.decodeUtf8 request.body)).2 :=
    Prod.ext (accepted_of_read read).1 rfl
  obtain ⟨members, lists, told⟩ := Record.exists_members scalars_userPatch isObject reads
  have spelled {key : String} {get : UserPatch → Option String} (listed : (key, get) ∈ textParts) :
      ∃ said, Means .text (members.lookup key) said ∧ get patch = said.join :=
    (told (tells_text listed)).exists_means
  exact ⟨members, lists, {
    email := spelled (by simp [textParts])
    password := spelled (by simp [textParts])
    firstName := spelled (by simp [textParts])
    lastName := spelled (by simp [textParts])
    phoneNumber := spelled (by simp [textParts])
    role := spelled (by simp [textParts])
    teamId := (told tells_teamId).means }⟩

end Http.Form

end OrgAccess
