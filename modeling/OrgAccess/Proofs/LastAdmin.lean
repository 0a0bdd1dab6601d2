import OrgAccess.Proofs.AuthenticationGate
import OrgAccess.Proofs.Sequence
import OrgAccess.Proofs.WriteGate

/-!
# The last admin

Where there is an admin, nobody registers anonymously. There is an admin until the last one
resigns, which nobody else can bring about: a request after which there is no admin any more
carries the access token of the only admin, and deletes this very account or gives it another role.
From then on registration is open again.

Main statement: in a run of requests that has had an admin, an anonymous registration is refused
unless the only admin of that time has resigned in between.
-/

namespace OrgAccess

/-- A live admin besides whom there is no other. -/
def Store.IsOnlyAdmin (store : Store) (admin : User) : Prop :=
  (admin ∈ store.users ∧ admin.isLive = true ∧ admin.isAdmin = true) ∧
    ∀ other ∈ store.users, other.isLive = true → other.isAdmin = true → other = admin

/-- Whether a call deletes a user or gives it another role than that of an admin. -/
def StoreCall.Dismisses (call : StoreCall) (id : Uuid) : Prop :=
  call = .deleteUser id ∨
    ∃ changes role, call = .updateUser id changes ∧ changes.role = some role ∧ role ≠ .admin

theorem StoreCall.Dismisses.isSession {call : StoreCall} {id : Uuid} (dismisses : call.Dismisses id) :
    call.isSession = false := by
  rcases dismisses with rfl | ⟨changes, role, rfl, _⟩ <;> rfl

namespace Store

variable {store : Store} {moment : Moment} {id : Uuid}

theorem adminExists_iff_exists_live :
    store.adminExists = true ↔
      ∃ admin ∈ store.users, admin.isLive = true ∧ admin.isAdmin = true := by
  simp [adminExists]

theorem changed_of_admin_lost {change : User → User} {admin : User} (mem : admin ∈ store.users)
    (live : admin.isLive = true) (isAdmin : admin.isAdmin = true)
    (lost : (store.modifyUser id change).adminExists = false) :
    store.liveUser? id = some admin ∧
      ¬((change admin).isLive = true ∧ (change admin).isAdmin = true) := by
  have none_left (user : User) (mem : user ∈ (store.modifyUser id change).users) :
      ¬(user.isLive = true ∧ user.isAdmin = true) := by
    rintro ⟨live, isAdmin⟩
    rw [adminExists_iff_exists_live.mpr ⟨user, mem, live, isAdmin⟩] at lost
    cases lost
  -- A row that the change passes over stays in the table and would still be an admin's.
  rcases mem_updateFirst_of_mem (isLiveUser id) change mem with mem | ⟨found, mem⟩
  · exact absurd ⟨live, isAdmin⟩ (none_left admin mem)
  · exact ⟨found, none_left (change admin) mem⟩

/-- A call after which there is no admin any more dismisses the only one. -/
theorem dismisses_of_admin_lost {call : StoreCall} (exists_admin : store.adminExists = true)
    (lost : (store.perform moment call).2.adminExists = false) :
    ∃ admin, store.IsOnlyAdmin admin ∧ call.Dismisses admin.id := by
  rcases adminExists_iff_exists_live.mp exists_admin with ⟨admin, mem, live, isAdmin⟩
  have step := store.userStep moment call
  have none_left : (store.perform moment call).2.users.any
      (fun user => user.isLive && user.isAdmin) = false := lost
  generalize (store.perform moment call).1 = answer,
    (store.perform moment call).2.users = users at step none_left
  have only (other : Uuid) (change : User → User)
      (lost : (store.modifyUser other change).adminExists = false) :
      store.IsOnlyAdmin admin ∧ other = admin.id ∧
        ¬((change admin).isLive = true ∧ (change admin).isAdmin = true) := by
    rcases changed_of_admin_lost mem live isAdmin lost with ⟨found, dismissed⟩
    refine ⟨⟨⟨mem, live, isAdmin⟩, fun second second_mem second_live second_isAdmin => ?_⟩, ?_⟩
    · rcases changed_of_admin_lost second_mem second_live second_isAdmin lost with ⟨same, _⟩
      exact Option.some.inj (same.symm.trans found)
    · exact ⟨(id_of_liveUser? found).symm, dismissed⟩
  cases step with
  | keep leaves => simp [adminExists, none_left] at exists_admin
  | create =>
      rw [List.any_append, Bool.or_eq_false_iff] at none_left
      simp [adminExists, none_left.1] at exists_admin
  | @update other changes user found =>
      rcases only other (changes.apply moment.now) none_left with ⟨isOnly, rfl, dismissed⟩
      refine ⟨admin, isOnly, Or.inr ⟨changes, ?_⟩⟩
      cases named : changes.role with
      | none =>
          refine absurd ⟨live, ?_⟩ dismissed
          simpa [UserChanges.apply, User.isAdmin, named] using isAdmin
      | some role =>
          refine ⟨role, rfl, rfl, fun stays => dismissed ⟨live, ?_⟩⟩
          simpa [UserChanges.apply, User.isAdmin, named] using stays
  | @delete other user found =>
      rcases only other (tombstone moment) none_left with ⟨isOnly, rfl, dismissed⟩
      exact ⟨admin, isOnly, Or.inl rfl⟩
  | @openSession other token expiresAt user found =>
      exact absurd ⟨live, isAdmin⟩ (only other (openSession token expiresAt) none_left).2.2
  | @renewSession other old new expiresAt user found current =>
      exact absurd ⟨live, isAdmin⟩ (only other (openSession new expiresAt) none_left).2.2
  | @closeSession other =>
      exact absurd ⟨live, isAdmin⟩ (only other closeSession none_left).2.2

end Store

namespace Http

/-- A registration without credentials. -/
structure Request.IsAnonymousRegistration (request : Request) : Prop where
  posts : request.method = .post
  path : request.path = "/register".toList
  anonymous : request.headerValues "authorization" = []

/-- The only admin deletes its account or takes another role, by a request with its own token. -/
def Request.Resigns (request : Request) (tokens : TokenService) (moments : Nat → Moment)
    (before after : World) : Prop :=
  ∃ token claims admin, bearerToken (request.headerValues "authorization") = .ok token ∧
    tokens.validateAccess (moments before.tick).now token = .ok claims ∧
      before.store.liveUser? claims.userId = some admin ∧ before.store.IsOnlyAdmin admin ∧
        ∃ call tick, call.Dismisses admin.id ∧
          after.store = (before.store.perform (moments tick) call).2

/-- What there is after requests that came one after the other, beginning with an empty store. -/
def worldAfter (hasher : Hasher) (tokens : TokenService) (moments : Nat → Moment)
    (policy : CorsPolicy) (requests : List Request) : World :=
  (Program.runEach ((System.inMemory hasher tokens).handler moments)
    (requests.map (answer policy)) {}).2

theorem Problem.le_status (problem : Problem) : 400 ≤ problem.status := by
  cases problem <;> simp [status]

theorem Handling.Serves.refused {handler : Handler} {world : World} {allowed : Operation → Prop}
    {handling : Handling Response} (serves : Serves allowed handling)
    (fails : ∀ operation, allowed operation → ∃ failure later,
      operation.program.run handler world = (.error failure, later) ∧
        later.store = world.store) :
    400 ≤ (handling.response.run handler world).1.status ∧
      (handling.response.run handler world).2.store = world.store := by
  cases serves with
  | @refuses response bad =>
      refine ⟨?_, rfl⟩
      change 400 ≤ response.status
      omega
  | @lacks response nothing =>
      refine ⟨?_, rfl⟩
      change 400 ≤ response.status
      omega
  | performs operation may success =>
      rcases fails operation may with ⟨failure, later, ran, unchanged⟩
      rw [response_performs, Program.run_bind, ran]
      exact ⟨(Problem.ofFailure failure).le_status, unchanged⟩

section Refusal

variable {hasher : Hasher} {tokens : TokenService} {moments : Nat → Moment} {world : World}
  {request : Request} {policy : CorsPolicy}

theorem run_register_anonymous (closed : world.store.adminExists = true) (input : Registration) :
    (Operation.register none input).program.run ((System.inMemory hasher tokens).handler moments)
        world =
      (.error (.ofDenial (.adminRequired .createUser)), { world with tick := world.tick + 1 }) := by
  let handler := (System.inMemory hasher tokens).handler moments
  have asked : handler.step (.store .adminExists) world =
      (.ok world.store.adminExists, { world with tick := world.tick + 1 }) := rfl
  change (Program.call (.store .adminExists) _).run handler world = _
  rw [Program.run_call, asked, closed]
  rfl

theorem serve_of_anonymous (anonymous : request.IsAnonymousRegistration) :
    serve request = serveRegistration request none := by
  rw [serve, Request.resource?_of_path anonymous.path]
  rw [identifyIfPresent, anonymous.anonymous]
  rw [Method.served_eq_post_iff.mpr anonymous.posts]
  rfl

theorem run_anonymous_of_adminExists (closed : world.store.adminExists = true)
    (anonymous : request.IsAnonymousRegistration) :
    let answered := (System.inMemory hasher tokens).run moments (answer policy request) world
    400 ≤ answered.1.status ∧ answered.2.store = world.store := by
  intro answered
  let handler := (System.inMemory hasher tokens).handler moments
  have noPreflight : request.method ≠ .options := by
    rw [anonymous.posts]
    decide
  have same : answered.1.status = ((serve request).response.run handler world).1.status ∧
      answered.2 = ((serve request).response.run handler world).2 :=
    run_answer noPreflight
  rw [serve_of_anonymous anonymous] at same
  rw [same.1, same.2]
  apply (Handling.serves_registration request none).refused
  rintro operation ⟨⟨input, rfl⟩, _⟩
  exact ⟨_, _, run_register_anonymous closed input, rfl⟩

/-- A request after which there is no admin any more is the resignation of the only one. -/
theorem resigns_of_admin_lost (exists_admin : world.store.adminExists = true)
    (lost : ¬((answer policy request).run ((System.inMemory hasher tokens).handler moments)
      world).2.store.adminExists = true) :
    request.Resigns tokens moments world
      ((answer policy request).run ((System.inMemory hasher tokens).handler moments) world).2 := by
  have honest := System.inMemory_honest hasher tokens moments
  rcases Program.run_commits honest world (answer_obeys policy request) with
    unchanged | ⟨before, call, answered, because, made⟩
  · rw [unchanged] at lost
    exact absurd exists_admin lost
  · rw [made] at lost
    rcases Store.dismisses_of_admin_lost exists_admin (eq_false_of_ne_true lost) with
      ⟨admin, isOnly, dismisses⟩
    rcases because with isSession | ⟨caller, acts, sawAdmin⟩ | ⟨_, _, asked⟩
    · rw [dismisses.isSession] at isSession
      cases isSession
    · -- The caller was found to be a live admin, so it is the one whom the call dismisses.
      rcases acts with ⟨token, claims, user, bears, ⟨rest, rfl⟩, found, rfl⟩
      rcases sawAdmin with ⟨again, found_again, isAdmin⟩
      have valid : Except.ok claims = tokens.validateAccess (moments world.tick).now token :=
        answered 0 ⟨.checkToken .access token, .ok claims⟩ rfl
      have same := answered.liveUser?_of_saw found
      have same_again := answered.liveUser?_of_saw found_again
      rw [Store.id_of_liveUser? same] at same_again
      obtain rfl : user = again := Option.some.inj (same.symm.trans same_again)
      obtain rfl : user = admin := by
        apply isOnly.2 user (Store.mem_of_liveUser? same) (Store.isLive_of_liveUser? same)
        simpa [User.isAdmin] using isAdmin
      exact ⟨token, claims, user, bears, valid.symm, same, isOnly, call, _, dismisses, made⟩
    · have no_admin := answered.adminExists_of_saw asked
      rw [exists_admin] at no_admin
      cases no_admin

end Refusal

section Sequence

variable {hasher : Hasher} {tokens : TokenService} {moments : Nat → Moment} {policy : CorsPolicy}

theorem worldAfter_append (first second : List Request) :
    worldAfter hasher tokens moments policy (first ++ second) =
      (Program.runEach ((System.inMemory hasher tokens).handler moments)
        (second.map (answer policy)) (worldAfter hasher tokens moments policy first)).2 := by
  rw [worldAfter, List.map_append, Program.runEach_append]
  rfl

theorem exists_resignation {earlier between : List Request}
    (exists_admin : (worldAfter hasher tokens moments policy earlier).store.adminExists = true)
    (lost : ¬(worldAfter hasher tokens moments policy (earlier ++ between)).store.adminExists =
      true) :
    ∃ before resignation rest, between = before ++ resignation :: rest ∧
      resignation.Resigns tokens moments
        (worldAfter hasher tokens moments policy (earlier ++ before))
        (worldAfter hasher tokens moments policy (earlier ++ before ++ [resignation])) := by
  rw [worldAfter_append] at lost
  rcases Program.exists_loss_of_runEach (fun store => store.adminExists = true) _ _ exists_admin
    lost with ⟨_, _, _, parts, still, lost⟩
  rcases List.map_eq_append_iff.mp parts with ⟨first, second, together, rfl, following⟩
  rcases List.map_eq_cons_iff.mp following with ⟨resignation, rest, rfl, rfl, rfl⟩
  refine ⟨first, resignation, rest, together, ?_⟩
  rw [← worldAfter_append] at still lost
  rw [worldAfter_append (earlier ++ first)]
  exact resigns_of_admin_lost still lost

end Sequence

/--
Once there has been an admin, an anonymous registration is refused and changes nothing, unless
there is no admin any more because the only one of some time in between has resigned.
-/
theorem anonymous_registration_closed_unless_resigned (hasher : Hasher) (tokens : TokenService)
    (moments : Nat → Moment) (policy : CorsPolicy) (earlier between : List Request)
    (request : Request)
    (exists_admin : (worldAfter hasher tokens moments policy earlier).store.adminExists = true)
    (anonymous : request.IsAnonymousRegistration) :
    let after := worldAfter hasher tokens moments policy
    let answered := (System.inMemory hasher tokens).run moments (answer policy request)
      (after (earlier ++ between))
    (400 ≤ answered.1.status ∧ answered.2.store = (after (earlier ++ between)).store) ∨
      ((after (earlier ++ between)).store.adminExists = false ∧
        ∃ before resignation rest, between = before ++ resignation :: rest ∧
          resignation.Resigns tokens moments (after (earlier ++ before))
            (after (earlier ++ before ++ [resignation]))) := by
  intro after answered
  cases closed : (after (earlier ++ between)).store.adminExists with
  | true => exact Or.inl (run_anonymous_of_adminExists closed anonymous)
  | false =>
      have lost : ¬(after (earlier ++ between)).store.adminExists = true := by
        rw [closed]
        exact Bool.false_ne_true
      exact Or.inr ⟨rfl, exists_resignation exists_admin lost⟩

/-- The account that the first registration creates. -/
def founder : Uuid :=
  (Moment.numbered 2).freshId

/-- The access token of the founder. -/
def founderToken : String :=
  match TokenService.unsigned.issuePair (.numbered 0) founder with
  | .ok pair => pair.accessToken
  | .error _ => ""

/-- The founder deletes its own account. -/
def founderResignation : Request where
  method := .delete
  target := "/users/" ++ founder.text
  headers := [.ofText "authorization" ("Bearer " ++ founderToken)]
  body := []

theorem firstRegistration_creates_admin :
    (worldAfter .plain .unsigned .numbered .any [firstRegistration]).store.adminExists = true := by
  decide +kernel

theorem firstRegistration_isAnonymous : firstRegistration.IsAnonymousRegistration :=
  ⟨rfl, by decide +kernel, by decide +kernel⟩

theorem status_after_resignation :
    ((System.inMemory .plain .unsigned).run .numbered (answer .any firstRegistration)
      (worldAfter .plain .unsigned .numbered .any
        [firstRegistration, founderResignation])).1.status = 201 := by
  decide +kernel

/-- The second registration is let through, so the founder has resigned before it. -/
theorem founderResignation_found :
    let after := worldAfter .plain .unsigned .numbered .any
    (after [firstRegistration]).store.adminExists = true ∧
      firstRegistration.IsAnonymousRegistration ∧
        ∃ before resignation rest, [founderResignation] = before ++ resignation :: rest ∧
          resignation.Resigns .unsigned .numbered (after ([firstRegistration] ++ before))
            (after ([firstRegistration] ++ before ++ [resignation])) := by
  refine ⟨firstRegistration_creates_admin, firstRegistration_isAnonymous, ?_⟩
  have told := anonymous_registration_closed_unless_resigned .plain .unsigned .numbered .any
    [firstRegistration] [founderResignation] firstRegistration firstRegistration_creates_admin
    firstRegistration_isAnonymous
  refine (told.resolve_left fun refused => ?_).2
  have accepted := status_after_resignation
  have status : 400 ≤ 201 := accepted ▸ refused.1
  omega

/-- After the only admin has resigned, anyone becomes one anonymously. -/
theorem founderResignation_reopens_registration :
    let after := worldAfter .plain .unsigned .numbered .any
    (after [firstRegistration]).store.adminExists = true ∧
      firstRegistration.IsAnonymousRegistration ∧
        ((System.inMemory .plain .unsigned).run .numbered (answer .any firstRegistration)
          (after ([firstRegistration] ++ [founderResignation]))).1.status = 201 :=
  ⟨firstRegistration_creates_admin, firstRegistration_isAnonymous, status_after_resignation⟩

end Http

end OrgAccess
