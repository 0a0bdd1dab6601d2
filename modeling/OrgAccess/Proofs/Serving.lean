import OrgAccess.Http.Server
import OrgAccess.Proofs.Operation

/-!
# How a request is served

A path leads to one resource, and the paths that do not ask for an access token are written in one
way only. On every other path a request is first authenticated. What comes after that is a refusal
of its form, the answer that there is nothing, or one operation on behalf of the caller
(`Http.Handling.Serves`). So there are five ways in which a request is served
(`Http.Handling.Served`), and what holds of each holds of every request.
-/

namespace OrgAccess.Http

/-! ## Paths -/

/-- The one segment of the path of a resource that is open to all. -/
def SharedResource.name : SharedResource → String
  | health => "health"
  | login => "login"
  | refresh => "refresh"

theorem Resource.segments_of_shared {segments : List (List Char)} {resource : SharedResource}
    (leads : ofSegments? segments = some (.shared resource)) :
    segments = [resource.name.toList] := by
  unfold ofSegments? at leads
  split at leads
  · rename_i name
    split at leads
    · rename_i isHealth
      cases leads
      rw [isHealth]
      rfl
    split at leads
    · rename_i isLogin
      cases leads
      rw [isLogin]
      rfl
    split at leads
    · rename_i isRefresh
      cases leads
      rw [isRefresh]
      rfl
    repeat' split at leads
    all_goals cases leads
  all_goals
    repeat' split at leads
    all_goals cases leads

theorem Resource.segments_of_registration {segments : List (List Char)}
    (leads : ofSegments? segments = some .registration) : segments = ["register".toList] := by
  unfold ofSegments? at leads
  split at leads
  · rename_i name
    by_cases isRegister : name = "register".toList
    · rw [isRegister]
    · rw [if_neg isRegister] at leads
      repeat' split at leads
      all_goals cases leads
  all_goals
    repeat' split at leads
    all_goals cases leads

namespace Request

variable {request : Request}

theorem path_of_segment {name : List Char} (parts : request.segments? = some [name]) :
    request.path = '/' :: name := by
  have cut : Text.fields '/' request.path = [[], name] := by
    unfold segments? at parts
    split at parts
    · rename_i rest cut
      rw [cut, Option.some.inj parts]
    · cases parts
  rw [← Text.joinFields_fields '/' request.path, cut]
  rfl

theorem path_of_shared {resource : SharedResource}
    (leads : request.resource? = some (.shared resource)) :
    request.path = '/' :: resource.name.toList := by
  rcases Option.bind_eq_some_iff.mp leads with ⟨segments, parts, named⟩
  rw [Resource.segments_of_shared named] at parts
  exact path_of_segment parts

/-- The path on which accounts are created is written in one way only. -/
theorem path_of_registration (leads : request.resource? = some .registration) :
    request.path = "/register".toList := by
  rcases Option.bind_eq_some_iff.mp leads with ⟨segments, parts, named⟩
  rw [Resource.segments_of_registration named] at parts
  exact path_of_segment parts

theorem resource?_of_path (path : request.path = "/register".toList) :
    request.resource? = some .registration := by
  rw [resource?, segments?, path]
  decide

end Request

theorem Method.served_eq_post_iff {method : Method} : method.served = .post ↔ method = .post := by
  cases method <;> simp [Method.served]

/-! ## What is done for a caller -/

theorem Form.status_of_read {α : Type} {form : Form α} {request : Request} {problem : Problem}
    (refused : form.read request = .error problem) : problem.status = 400 := by
  unfold Form.read at refused
  split at refused
  · cases refused
    rfl
  split at refused
  · cases refused
    rfl
  split at refused
  · cases refused
    rfl
  split at refused
  · cases refused
  · cases refused
    rfl

theorem Form.accepted_of_read {α : Type} {form : Form α} {request : Request} {value : α}
    (read : form.read request = .ok value) :
    form.record.read.runFront (Text.decodeUtf8 request.body) = .ok value ∧
      form.faults value = [] := by
  unfold Form.read at read
  split at read
  · cases read
  split at read
  · cases read
  split at read
  · cases read
  rename_i accepted
  split at read
  · rename_i none_found
    obtain rfl := Except.ok.inj read
    exact ⟨accepted, none_found⟩
  · cases read

/-- A form that was read breaks none of its rules. -/
theorem Form.faults_of_read {α : Type} {form : Form α} {request : Request} {value : α}
    (read : form.read request = .ok value) : form.faults value = [] :=
  (Form.accepted_of_read read).2

/-- Whether a response has no headers but those that tell the kind of its body. -/
def Response.IsBare (response : Response) : Prop :=
  response.headers = response.body.contentType

/-- The input of an operation is what the body of the request reads as. -/
def Request.Submits (request : Request) : Operation → Prop
  | .register _ input => Form.registration.read request = .ok input
  | .login email password => Form.login.read request = .ok ⟨email, password⟩
  | .refresh token => Form.refresh.read request = .ok token
  | .updateUser _ _ patch => Form.userPatch.read request = .ok patch
  | .createTeam _ draft => Form.team.read request = .ok draft
  | .updateTeam _ _ patch => Form.teamPatch.read request = .ok patch
  | .addManager _ _ manager => Form.manager.read request = .ok manager
  | _ => True

theorem SegmentFault.status_response (fault : SegmentFault) : fault.response.status = 400 := by
  cases fault <;> rfl

theorem SegmentFault.isBare_response (fault : SegmentFault) : fault.response.IsBare := by
  cases fault <;> rfl

namespace Handling

variable {α : Type} {allowed allowed' : Operation → Prop} {request : Request}

/-- What a handling may come to once the caller is known. -/
inductive Serves (allowed : Operation → Prop) : Handling Response → Prop where
  /-- The request is not written as it should be. -/
  | refuses {response : Response} (bad : response.status = 400)
      (bare : response.IsBare := by rfl) : Serves allowed (throw response)
  /-- There is nothing on the path, or nothing for the method. -/
  | lacks {response : Response} (nothing : response.status = 404 ∨ response.status = 405)
      (bare : response.IsBare := by rfl) : Serves allowed (pure response)
  | performs (operation : Operation) {toResponse : operation.Value → Response}
      (may : allowed operation)
      (success : ∀ value, (toResponse value).status = 200 ∨ (toResponse value).status = 201)
      (bare : ∀ value, (toResponse value).IsBare := by exact fun _ => rfl) :
      Serves allowed (ofWorkflow operation.workflow >>= fun value => pure (toResponse value))

theorem Serves.mono {handling : Handling Response} (serves : Serves allowed handling)
    (weaker : ∀ operation, allowed operation → allowed' operation) : Serves allowed' handling := by
  cases serves with
  | refuses bad bare => exact .refuses bad bare
  | lacks nothing bare => exact .lacks nothing bare
  | performs operation may success bare =>
      exact .performs operation (weaker operation may) success bare

theorem serves_liftExcept_bind {result : Except Response α} {rest : α → Handling Response}
    (bad : ∀ response, result = .error response → response.status = 400 ∧ response.IsBare)
    (next : ∀ value, result = .ok value → Serves allowed (rest value)) :
    Serves allowed (liftExcept result >>= rest) := by
  cases result with
  | ok value => exact next value rfl
  | error response => exact .refuses (bad response rfl).1 (bad response rfl).2

theorem serves_readForm_bind {form : Form α} {rest : α → Handling Response}
    (next : ∀ value, form.read request = .ok value → Serves allowed (rest value)) :
    Serves allowed (readForm form request >>= rest) := by
  rw [readForm]
  cases reading : form.read request with
  | ok value => exact next value reading
  | error problem => exact .refuses (Form.status_of_read reading)

theorem serves_segment_bind {name : String} {written : List Char}
    {rest : String → Handling Response}
    (next : ∀ text, Serves allowed (rest text)) :
    Serves allowed (segment name written >>= rest) := by
  refine serves_liftExcept_bind (fun response refused => ?_) fun text _ => next text
  cases reading : segmentText name written with
  | ok text =>
      rw [reading] at refused
      cases refused
  | error fault =>
      rw [reading] at refused
      cases refused
      exact ⟨fault.status_response, fault.isBare_response⟩

theorem serves_identifier_bind {message text : String} {rest : Uuid → Handling Response}
    (next : ∀ id, Serves allowed (rest id)) :
    Serves allowed (identifier message text >>= rest) := by
  refine serves_liftExcept_bind (fun response refused => ?_) fun id _ => next id
  cases reading : Http.identifier message text with
  | ok id =>
      rw [reading] at refused
      cases refused
  | error fault =>
      rw [reading] at refused
      cases refused
      exact ⟨fault.status_response, fault.isBare_response⟩

theorem serves_pathId_bind {written : List Char} {rest : Uuid → Handling Response}
    (next : ∀ id, Serves allowed (rest id)) : Serves allowed (pathId written >>= rest) := by
  rw [pathId, bind_assoc]
  exact serves_segment_bind fun text => serves_identifier_bind next

theorem serves_pathIds_bind {team manager : List Char} {rest : Uuid × Uuid → Handling Response}
    (next : ∀ ids, Serves allowed (rest ids)) :
    Serves allowed (pathIds team manager >>= rest) := by
  unfold pathIds
  simp only [bind_assoc]
  refine serves_segment_bind fun team => serves_segment_bind fun manager => ?_
  refine serves_identifier_bind fun team => serves_identifier_bind fun manager => ?_
  exact next (team, manager)

theorem serves_shared {resource : SharedResource} (isSession : resource ≠ .health) :
    Serves
      (fun operation =>
        (operation.caller? = none ∧ operation.registers = false) ∧ request.Submits operation)
      (serveShared request resource) := by
  cases resource with
  | health => exact absurd rfl isSession
  | login =>
      refine serves_readForm_bind fun form read => ?_
      exact .performs (.login form.email form.password) ⟨⟨rfl, rfl⟩, read⟩ fun _ => Or.inl rfl
  | refresh =>
      refine serves_readForm_bind fun token read => ?_
      exact .performs (.refresh token) ⟨⟨rfl, rfl⟩, read⟩ fun _ => Or.inl rfl

theorem serves_registration (request : Request) (caller : Option Identity) :
    Serves
      (fun operation =>
        (∃ input, operation = .register (caller.map Identity.userId) input) ∧
          request.Submits operation)
      (serveRegistration request caller) := by
  refine serves_readForm_bind fun form read => ?_
  exact .performs (.register (caller.map Identity.userId) form) ⟨⟨form, rfl⟩, read⟩
    fun user => Or.inr rfl

theorem serves_member (request : Request) (caller : Uuid) (action : MemberAction) :
    Serves
      (fun operation =>
        (operation.caller? = some caller ∧ operation.registers = false) ∧
          request.Submits operation)
      (serveMember request caller action) := by
  cases action with
  | logout => exact .performs (.logout caller) ⟨⟨rfl, rfl⟩, trivial⟩ fun _ => Or.inl rfl
  | showProfile => exact .performs (.profile caller) ⟨⟨rfl, rfl⟩, trivial⟩ fun _ => Or.inl rfl
  | listUsers => exact .performs (.listUsers caller) ⟨⟨rfl, rfl⟩, trivial⟩ fun _ => Or.inl rfl
  | showUser id =>
      refine serves_pathId_bind fun id => ?_
      exact .performs (.getUser caller id) ⟨⟨rfl, rfl⟩, trivial⟩ fun _ => Or.inl rfl
  | updateUser id =>
      refine serves_pathId_bind fun id => serves_readForm_bind fun patch read => ?_
      exact .performs (.updateUser caller id patch) ⟨⟨rfl, rfl⟩, read⟩ fun _ => Or.inl rfl
  | deleteUser id =>
      refine serves_pathId_bind fun id => ?_
      exact .performs (.deleteUser caller id) ⟨⟨rfl, rfl⟩, trivial⟩ fun _ => Or.inl rfl
  | listTeams => exact .performs (.listTeams caller) ⟨⟨rfl, rfl⟩, trivial⟩ fun _ => Or.inl rfl
  | createTeam =>
      refine serves_readForm_bind fun draft read => ?_
      exact .performs (.createTeam caller draft) ⟨⟨rfl, rfl⟩, read⟩ fun _ => Or.inr rfl
  | showTeam id =>
      refine serves_pathId_bind fun id => ?_
      exact .performs (.getTeam caller id) ⟨⟨rfl, rfl⟩, trivial⟩ fun _ => Or.inl rfl
  | updateTeam id =>
      refine serves_pathId_bind fun id => serves_readForm_bind fun patch read => ?_
      exact .performs (.updateTeam caller id patch) ⟨⟨rfl, rfl⟩, read⟩ fun _ => Or.inl rfl
  | deleteTeam id =>
      refine serves_pathId_bind fun id => ?_
      exact .performs (.deleteTeam caller id) ⟨⟨rfl, rfl⟩, trivial⟩ fun _ => Or.inl rfl
  | addManager team =>
      refine serves_pathId_bind fun team => serves_readForm_bind fun manager read => ?_
      exact .performs (.addManager caller team manager) ⟨⟨rfl, rfl⟩, read⟩ fun _ => Or.inl rfl
  | removeManager team manager =>
      refine serves_pathIds_bind fun ids => ?_
      exact .performs (.removeManager caller ids.1 ids.2) ⟨⟨rfl, rfl⟩, trivial⟩ fun _ => Or.inl rfl

/--
How a request is served, by what its path leads to. On the paths of the last two kinds the caller is
identified first, for a registration only if there are credentials.
-/
inductive Served (request : Request) : Handling Response → Prop where
  | health (leads : request.resource? = some (.shared .health)) :
      Served request (ExceptT.lift checkHealth)
  /-- Tokens are asked for. -/
  | session {resource : SharedResource} {handling : Handling Response}
      (leads : request.resource? = some (.shared resource)) (posts : request.method = .post)
      (other : resource ≠ .health)
      (serves : Serves
        (fun operation =>
          (operation.caller? = none ∧ operation.registers = false) ∧ request.Submits operation)
        handling) : Served request handling
  /-- A path for everyone does not have the method. -/
  | notAllowed {resource : SharedResource}
      (leads : request.resource? = some (.shared resource)) :
      Served request (pure (.of 405 .empty))
  | registration {rest : Option Identity → Handling Response}
      (leads : request.resource? = some .registration)
      (serves : ∀ caller, Serves
        (fun operation => request.method = .post ∧
          (∃ input, operation = .register (caller.map Identity.userId) input) ∧
            request.Submits operation)
        (rest caller)) : Served request (identifyIfPresent request >>= rest)
  /-- The path is for members, or it leads nowhere. -/
  | member {rest : Identity → Handling Response}
      (notShared : ∀ resource, request.resource? ≠ some (.shared resource))
      (notRegistration : request.resource? ≠ some .registration)
      (serves : ∀ caller, Serves
        (fun operation =>
          (operation.caller? = some caller.userId ∧ operation.registers = false) ∧
            request.Submits operation)
        (rest caller)) : Served request (identify request >>= rest)

theorem served (request : Request) : Served request (serve request) := by
  unfold serve
  split
  · rename_i resource leads
    split
    · rename_i method
      by_cases isHealth : resource = .health
      · subst isHealth
        exact .health leads
      · have isPost : resource.method = .post := by
          cases resource <;> first | rfl | exact absurd rfl isHealth
        have posts := Method.served_eq_post_iff.mp (method.symm.trans isPost)
        exact .session leads posts isHealth (serves_shared isHealth)
    · exact .notAllowed leads
  · rename_i leads
    refine .registration leads fun caller => ?_
    split
    · rename_i posts
      exact (serves_registration request caller).mono fun operation may =>
        ⟨Method.served_eq_post_iff.mp posts, may⟩
    · exact .lacks (Or.inr rfl)
  · rename_i resource leads
    refine .member (by simp [leads]) (by simp [leads]) fun caller => ?_
    split
    · exact serves_member request caller.userId _
    · exact .lacks (Or.inr rfl)
  · rename_i leads
    exact .member (by simp [leads]) (by simp [leads]) fun _ => .lacks (Or.inl rfl)

end Handling

end OrgAccess.Http
