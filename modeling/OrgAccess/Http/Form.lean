import OrgAccess.Email.Address
import OrgAccess.Http.MediaType
import OrgAccess.Http.Problem
import OrgAccess.Json.Decoder
import OrgAccess.Workflow.Registration
import OrgAccess.Workflow.Teams
import OrgAccess.Workflow.Users

/-!
# Inputs of requests

A form is what the body of a request is read into: a record with rules for its fields. Lengths
count characters. All faults of an input are told at once, in the order of the field names.
-/

namespace OrgAccess.Http

/-! ## Rules -/

/-- What a field has to satisfy. -/
structure Rule where
  holds : String → Bool
  /-- What is told when it does not. -/
  message : String

namespace Rule

/-- A rule on the number of characters. -/
def length (least : Nat) (greatest : Option Nat) (message : String) : Rule where
  holds := fun value => least ≤ value.length && greatest.all fun limit => value.length ≤ limit
  message := message

/-- The rules for an e-mail address. -/
def email : List Rule :=
  [length 0 (some 255) "l'email doit contenir au plus 255 caractères",
    ⟨Email.isAddress, "email invalide"⟩]

/-- The rules for a password that is to be set. -/
def password : List Rule :=
  [length 8 none "le mot de passe doit contenir au moins 8 caractères"]

/-- The rules for a given name. -/
def firstName : List Rule :=
  [length 1 (some 100) "le prénom doit contenir entre 1 et 100 caractères"]

/-- The rules for a family name or the name of a team. -/
def name : List Rule :=
  [length 1 (some 100) "le nom doit contenir entre 1 et 100 caractères"]

/-- The rules for a new given name, which the operation itself keeps from being blank. -/
def newFirstName : List Rule :=
  [length 0 (some 100) "le prénom doit contenir au plus 100 caractères"]

/-- The rules for a new family name or a new name of a team. -/
def newName : List Rule :=
  [length 0 (some 100) "le nom doit contenir au plus 100 caractères"]

/-- The rules for a phone number. -/
def phoneNumber : List Rule :=
  [length 0 (some 20) "le téléphone doit contenir au plus 20 caractères"]

/-- The rules for what a team says of itself. -/
def description : List Rule :=
  [length 0 (some 500) "la description doit contenir au plus 500 caractères"]

/-- A fault for each rule that the value of a field breaks. -/
def faults (field : String) (rules : List Rule) (value : String) : List FieldFault :=
  (rules.filter fun rule => !rule.holds value).map fun rule => ⟨field, rule.message⟩

/-- The faults of a field that may have no value. -/
def optionalFaults (field : String) (rules : List Rule) : Option String → List FieldFault
  | some value => faults field rules value
  | none => []

end Rule

/-! ## Forms -/

/-- How the body of a request is read and checked. -/
structure Form (α : Type) where
  record : Json.Record α
  /-- The faults of what was read, in the order of the field names. -/
  faults : α → List FieldFault

/-- An address and a password. -/
structure Credentials where
  email : String
  password : String
deriving DecidableEq

namespace Form

/-- The form for an account that is to be registered. -/
def registration : Form Registration where
  record := {
    name := "RegisterRequest"
    blank := ⟨"", "", "", "", none, none, none⟩
    fields := [
      .of "email" .text fun value form => { form with email := value },
      .of "password" .text fun value form => { form with password := value },
      .of "first_name" .text fun value form => { form with firstName := value },
      .of "last_name" .text fun value form => { form with lastName := value },
      .of "phone_number" (.optional .text) fun value form => { form with phoneNumber := value },
      .of "role" (.optional .text) fun value form => { form with role := value },
      .of "team_id" (.optional .uuid) fun value form => { form with teamId := value }] }
  faults := fun form =>
    Rule.faults "email" Rule.email form.email ++
      Rule.faults "first_name" Rule.firstName form.firstName ++
      Rule.faults "last_name" Rule.name form.lastName ++
      Rule.faults "password" Rule.password form.password ++
      Rule.optionalFaults "phone_number" Rule.phoneNumber form.phoneNumber

/-- The form for a login, for which any password will do that is not empty. -/
def login : Form Credentials where
  record := {
    name := "LoginRequest"
    blank := ⟨"", ""⟩
    fields := [
      .of "email" .text fun value form => { form with email := value },
      .of "password" .text fun value form => { form with password := value }] }
  faults := fun form =>
    Rule.faults "email" Rule.email form.email ++
      Rule.faults "password" [.length 1 none "mot de passe requis"] form.password

/-- The form for an exchange of tokens, which is the refresh token alone. -/
def refresh : Form String where
  record := {
    name := "RefreshRequest"
    blank := ""
    fields := [.of "refresh_token" .text fun value _ => value] }
  faults := Rule.faults "refresh_token" [.length 1 none "refresh token requis"]

/-- The form for changes to a user, in which every field may be missing. -/
def userPatch : Form UserPatch where
  record := {
    name := "UpdateUserRequest"
    blank := {}
    fields := [
      .of "email" (.optional .text) fun value form => { form with email := value },
      .of "password" (.optional .text) fun value form => { form with password := value },
      .of "first_name" (.optional .text) fun value form => { form with firstName := value },
      .of "last_name" (.optional .text) fun value form => { form with lastName := value },
      .of "phone_number" (.optional .text) fun value form => { form with phoneNumber := value },
      .of "role" (.optional .text) fun value form => { form with role := value },
      (.of "team_id" (.explicit .uuid)
        fun value form => { form with teamId := value } : Json.Field UserPatch).mayCutOff] }
  faults := fun form =>
    Rule.optionalFaults "email" Rule.email form.email ++
      Rule.optionalFaults "first_name" Rule.newFirstName form.firstName ++
      Rule.optionalFaults "last_name" Rule.newName form.lastName ++
      Rule.optionalFaults "password" Rule.password form.password ++
      Rule.optionalFaults "phone_number" Rule.phoneNumber form.phoneNumber

/-- The form for a team that is to be created. -/
def team : Form TeamDraft where
  record := {
    name := "CreateTeamRequest"
    blank := ⟨"", none⟩
    fields := [
      .of "name" .text fun value form => { form with name := value },
      .of "description" (.optional .text) fun value form => { form with description := value }] }
  faults := fun form =>
    Rule.optionalFaults "description" Rule.description form.description ++
      Rule.faults "name" Rule.name form.name

/-- The form for changes to a team, in which every field may be missing. -/
def teamPatch : Form TeamPatch where
  record := {
    name := "UpdateTeamRequest"
    blank := {}
    fields := [
      .of "name" (.optional .text) fun value form => { form with name := value },
      .of "description" (.optional .text) fun value form => { form with description := value }] }
  faults := fun form =>
    Rule.optionalFaults "description" Rule.description form.description ++
      Rule.optionalFaults "name" Rule.newName form.name

/-- The form for a link, which is the manager alone. -/
def manager : Form Uuid where
  record := {
    name := "AddManagerRequest"
    blank := ⟨0⟩
    fields := [.of "manager_id" .uuid fun value _ => value] }
  faults := fun _ => []

end Form

/-! ## Reading a body -/

/-- The largest number of bytes that a body may have. -/
def largestBody : Nat := 2097152

/-- What is told when a body is no JSON by its content type. -/
def contentTypeMessage : String :=
  "Expected request with `Content-Type: application/json`"

/-- What is told when a body cannot be read as the input. -/
def refusalMessage (refusal : Json.Refusal) : String :=
  match refusal.fault with
  | .malformed _ => "Failed to parse the request body as JSON: " ++ refusal.placedMessage
  | .mismatched _ =>
    "Failed to deserialize the JSON body into the target type: " ++ refusal.placedMessage

/-- Reads the body of a request into a form and checks its rules. -/
def Form.read {α : Type} (form : Form α) (request : Request) : Except Problem α :=
  if !(request.header? "content-type").any isJsonContent then
    .error (.badRequest contentTypeMessage)
  else if request.body.length > largestBody then
    .error (.badRequest "Failed to buffer the request body: length limit exceeded")
  else
    match form.record.read.runFront (Text.decodeUtf8 request.body) with
    | .error refusal => .error (.badRequest (refusalMessage refusal))
    | .ok value =>
      match form.faults value with
      | [] => .ok value
      | faults => .error (.invalidFields faults)

end OrgAccess.Http
