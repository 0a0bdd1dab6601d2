import OrgAccess.Http.Cors
import OrgAccess.Http.Form
import OrgAccess.Http.Path
import OrgAccess.Http.Route
import OrgAccess.Projection

/-!
# Answering requests

Every request is answered by one program. A preflight is answered from the policy for other
origins alone. On a path for members, and on one that leads nowhere, the caller has to be
authenticated before anything else is told; what is done there is done on behalf of the caller.
-/

namespace OrgAccess.Http

/-- A program that gives a value, or the response that ends the request. -/
abbrev Handling (α : Type) := ExceptT Response Program α

namespace Handling

/-- Carries out an operation; its failure is the response. -/
def ofWorkflow {α : Type} (workflow : Workflow α) : Handling α :=
  ExceptT.mk do
    return (← workflow.run).mapError fun failure => (Problem.ofFailure failure).response

/-- Reads the body of a request; what is wrong with it is the response. -/
def readForm {α : Type} (form : Form α) (request : Request) : Handling α :=
  liftExcept ((form.read request).mapError Problem.response)

/-- The text of a segment of the path. -/
def segment (name : String) (written : List Char) : Handling String :=
  liftExcept ((segmentText name written).mapError SegmentFault.response)

/-- The identifier that a segment of the path is. -/
def identifier (message text : String) : Handling Uuid :=
  liftExcept ((Http.identifier message text).mapError SegmentFault.response)

/-- The identifier in the path of a user or a team. -/
def pathId (written : List Char) : Handling Uuid := do
  identifier "ID invalide" (← segment "id" written)

/-- The identifiers in the path of a link, both of which are decoded before either is read. -/
def pathIds (team manager : List Char) : Handling (Uuid × Uuid) := do
  let team ← segment "id" team
  let manager ← segment "manager_id" manager
  let team ← identifier "ID invalide" team
  let manager ← identifier "ID manager invalide" manager
  return (team, manager)

/-- The response of a handling, whether it came to its end or not. -/
def response (handling : Handling Response) : Program Response := do
  match ← handling.run with
  | .ok response | .error response => return response

end Handling

/-- A response with a JSON body. -/
def jsonResponse (status : Nat) (value : Json) : Response :=
  .of status (.json value)

/-- A body that only tells something. -/
def messageJson (message : String) : Json :=
  .object [("message", .text message)]

/-- The response that tells that something has been done. -/
def confirmation (message : String) : Response :=
  jsonResponse 200 (messageJson message)

/-- The version of which the server tells. -/
def version : String := "0.1.0"

/-- The body that tells how the server and its database are. -/
def healthJson (status database : String) : Json :=
  .object [("status", .text status), ("version", .text version), ("database", .text database)]

/-- The JSON form of a registration that succeeded. -/
def registeredJson (user : PublicUser) : Json :=
  .object [("user", user.toJson)]

/-- Asks the store for a sign of life. The answer is a success either way. -/
def checkHealth : Program Response := do
  match ← Program.effect (.store .ping) with
  | .ok () => return jsonResponse 200 (healthJson "healthy" "connected")
  | .error _ => return jsonResponse 200 (healthJson "degraded" "disconnected")

/-- Serves what is open to all. -/
def serveShared (request : Request) : SharedResource → Handling Response
  | .health => ExceptT.lift checkHealth
  | .login => do
    let form ← Handling.readForm .login request
    let login ← Handling.ofWorkflow (Workflow.login form.email form.password)
    return jsonResponse 200 login.toJson
  | .refresh => do
    let token ← Handling.readForm .refresh request
    let renewal ← Handling.ofWorkflow (Workflow.refresh token)
    return jsonResponse 200 renewal.toJson

/-- Creates an account, on behalf of the caller if there is one. -/
def serveRegistration (request : Request) (caller : Option Identity) : Handling Response := do
  let form ← Handling.readForm .registration request
  let user ← Handling.ofWorkflow (Workflow.register (caller.map Identity.userId) form)
  return jsonResponse 201 (registeredJson user)

/-- Serves what a caller may ask for who has been identified. -/
def serveMember (request : Request) (caller : Uuid) : MemberAction → Handling Response
  | .logout => do
    Handling.ofWorkflow (Workflow.logout caller)
    return confirmation "déconnexion réussie"
  | .showProfile => do
    let profile ← Handling.ofWorkflow (Workflow.profile caller)
    return jsonResponse 200 profile.toJson
  | .listUsers => do
    let users ← Handling.ofWorkflow (Workflow.listUsers caller)
    return jsonResponse 200 (PublicUser.listToJson users)
  | .showUser id => do
    let id ← Handling.pathId id
    let user ← Handling.ofWorkflow (Workflow.getUser caller id)
    return jsonResponse 200 user.toJson
  | .updateUser id => do
    let id ← Handling.pathId id
    let patch ← Handling.readForm .userPatch request
    let user ← Handling.ofWorkflow (Workflow.updateUser caller id patch)
    return jsonResponse 200 user.toJson
  | .deleteUser id => do
    let id ← Handling.pathId id
    Handling.ofWorkflow (Workflow.deleteUser caller id)
    return confirmation "utilisateur supprimé avec succès"
  | .listTeams => do
    let teams ← Handling.ofWorkflow (Workflow.listTeams caller)
    return jsonResponse 200 (.list (teams.map TeamDetails.toJson))
  | .createTeam => do
    let draft ← Handling.readForm .team request
    let team ← Handling.ofWorkflow (Workflow.createTeam caller draft)
    return jsonResponse 201 team.toJson
  | .showTeam id => do
    let id ← Handling.pathId id
    let details ← Handling.ofWorkflow (Workflow.getTeam caller id)
    return jsonResponse 200 details.toJson
  | .updateTeam id => do
    let id ← Handling.pathId id
    let patch ← Handling.readForm .teamPatch request
    let team ← Handling.ofWorkflow (Workflow.updateTeam caller id patch)
    return jsonResponse 200 team.toJson
  | .deleteTeam id => do
    let id ← Handling.pathId id
    Handling.ofWorkflow (Workflow.deleteTeam caller id)
    return confirmation "team supprimée avec succès"
  | .addManager team => do
    let team ← Handling.pathId team
    let manager ← Handling.readForm .manager request
    Handling.ofWorkflow (Workflow.addManager caller team manager)
    return confirmation "manager ajouté à la team"
  | .removeManager team manager => do
    let (team, manager) ← Handling.pathIds team manager
    Handling.ofWorkflow (Workflow.removeManager caller team manager)
    return confirmation "manager retiré de la team"

/-- The caller behind the authorization headers of the request. -/
def identify (request : Request) : Handling Identity :=
  ExceptT.mk do
    return (← (authenticate (request.headerValues "authorization")).run).mapError fun error =>
      (Problem.ofAuthError error).response

/-- The caller, if the request has an authorization header at all. -/
def identifyIfPresent (request : Request) : Handling (Option Identity) :=
  if (request.headerValues "authorization").isEmpty then pure none
  else some <$> identify request

/-- Answers a request that is no preflight. -/
def serve (request : Request) : Handling Response := do
  match request.resource? with
  | some (.shared resource) =>
    if resource.method = request.method.served then serveShared request resource
    else return .of 405 .empty
  | some .registration =>
    let caller ← identifyIfPresent request
    if request.method.served = .post then serveRegistration request caller
    else return .of 405 .empty
  | some (.member resource) =>
    let caller ← identify request
    match resource.action? request.method with
    | some action => serveMember request caller.userId action
    | none => return .of 405 .empty
  | none =>
    let _ ← identify request
    return .of 404 .empty

/-- Gives a response its length; what a method does not serve is told with the methods that are. -/
def finish (request : Request) (response : Response) : Response :=
  match request.resource? with
  | none => response.withLength
  | some resource =>
    if resource.serves request.method then
      if request.method = .head then response.withLength.withoutBody else response.withLength
    else (response.addHeaders [resource.allowHeader]).withLength

@[simp]
theorem status_finish (request : Request) (response : Response) :
    (finish request response).status = response.status := by
  unfold finish
  split
  · rfl
  · split
    · split <;> rfl
    · rfl

/-- Answers a request: a preflight by the policy alone, any other by serving it. -/
def answer (policy : CorsPolicy) (request : Request) : Program Response := do
  let origin := request.header? "origin"
  let response ←
    if request.method = .options then
      pure ((Response.of 200 .empty).addHeaders (policy.preflightHeaders origin))
    else do
      let response ← (serve request).response
      pure (response.addHeaders (policy.responseHeaders origin))
  return finish request response

end OrgAccess.Http
