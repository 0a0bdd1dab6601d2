import OrgAccess.Proofs.Causes
import OrgAccess.Proofs.Rows
import OrgAccess.Proofs.Serving

/-!
# Who is let in

On every path but the few for everyone, a request is answered with status 401 exactly if its first
authorization header does not carry the access token of a live user. Whoever is let in is not told
the same by what is done next: an operation fails for want of authentication only if its caller is
unknown, and the caller has just been found.

The gate stands before everything else. Paths that lead nowhere and methods that are not allowed
are told to authenticated callers only.
-/

namespace OrgAccess.Http

/-- A request whose credentials are checked: its path asks for them, or it registers with some. -/
structure Request.IsGuarded (request : Request) : Prop where
  noPreflight : request.method ≠ .options
  notShared : ∀ path ∈ ["/health", "/login", "/refresh"], request.path ≠ path.toList
  /-- Registering is open to all as long as no credentials are presented. -/
  registration : request.path = "/register".toList → request.headerValues "authorization" ≠ []

/-- The first authorization header of the request carries the access token of a live user. -/
def Request.IsAuthenticated (request : Request) (tokens : TokenService) (now : Instant)
    (store : Store) : Prop :=
  ∃ token claims user, bearerToken (request.headerValues "authorization") = .ok token ∧
    tokens.validateAccess now token = .ok claims ∧ store.liveUser? claims.userId = some user

theorem Request.IsGuarded.not_shared {request : Request} (guarded : request.IsGuarded)
    (resource : SharedResource) : request.resource? ≠ some (.shared resource) := by
  intro leads
  have path := Request.path_of_shared leads
  cases resource with
  | health => exact guarded.notShared "/health" (by simp) path
  | login => exact guarded.notShared "/login" (by simp) path
  | refresh => exact guarded.notShared "/refresh" (by simp) path

/-- Credentials are refused before the token is looked at for two reasons only. -/
theorem eq_of_bearerToken_error {values : List (List UInt8)} {error : AuthError}
    (refused : bearerToken values = .error error) :
    error = .missingCredentials ∨ error = .invalidFormat := by
  unfold bearerToken at refused
  split at refused
  · exact Or.inl (Except.error.inj refused).symm
  · right
    split at refused
    · exact (Except.error.inj refused).symm
    · split at refused
      · dsimp only at refused
        split at refused
        · exact (Except.error.inj refused).symm
        · cases refused
      · exact (Except.error.inj refused).symm

theorem Problem.status_of_bearerToken {values : List (List UInt8)} {error : AuthError}
    (refused : bearerToken values = .error error) : (ofAuthError error).response.status = 401 := by
  rcases eq_of_bearerToken_error refused with rfl | rfl <;> rfl

theorem Problem.eq_unauthorized_of_status {failure : Failure}
    (refused : (ofFailure failure).response.status = 401) :
    ∃ reason, failure = .unauthorized reason := by
  cases failure with
  | unauthorized reason => exact ⟨reason, rfl⟩
  | _ => simp [ofFailure, Problem.response, Response.of, status] at refused

namespace Handling

variable {α : Type} {handler : Handler} {world later : World} {request : Request}

/-! ## Running in parts -/

theorem response_run_of_ok {first : Handling α} {rest : α → Handling Response} {value : α}
    (ran : first.run.run handler world = (.ok value, later)) :
    (first >>= rest).response.run handler world = (rest value).response.run handler later := by
  rw [Handling.response, ExceptT.run_bind, bind_assoc, Program.run_bind, ran]
  rfl

theorem response_run_of_error {first : Handling α} {rest : α → Handling Response}
    {response : Response} (ran : first.run.run handler world = (.error response, later)) :
    (first >>= rest).response.run handler world = (response, later) := by
  rw [Handling.response, ExceptT.run_bind, bind_assoc, Program.run_bind, ran]
  rfl

theorem response_performs (operation : Operation) (toResponse : operation.Value → Response) :
    (ofWorkflow operation.workflow >>= fun value => pure (toResponse value)).response =
      operation.program >>= fun result =>
        match result with
        | .ok value => pure (toResponse value)
        | .error failure => pure (Problem.ofFailure failure).response := by
  rw [Handling.response, ExceptT.run_bind, bind_assoc, ofWorkflow, ExceptT.run_mk, bind_assoc]
  refine bind_congr fun result => ?_
  cases result <;> rfl

/-- Once the caller is known, only an operation can answer with status 401. -/
theorem Serves.status_ne {allowed : Operation → Prop} {handling : Handling Response}
    (serves : Serves allowed handling)
    (authorized : ∀ operation, allowed operation → ∀ reason,
      (operation.program.run handler world).1 ≠ .error (.unauthorized reason)) :
    (handling.response.run handler world).1.status ≠ 401 := by
  cases serves with
  | @refuses response bad =>
      change response.status ≠ 401
      omega
  | @lacks response nothing =>
      change response.status ≠ 401
      omega
  | @performs operation toResponse may success =>
      rw [response_performs, Program.run_bind]
      cases ended : (operation.program.run handler world).1 with
      | ok value =>
          change (toResponse value).status ≠ 401
          have := success value
          omega
      | error failure =>
          intro refused
          rcases Problem.eq_unauthorized_of_status refused with ⟨reason, rfl⟩
          exact authorized operation may reason ended

/-! ## The gate -/

theorem serve_of_guarded (guarded : request.IsGuarded) :
    ∃ rest : Identity → Handling Response, serve request = identify request >>= rest ∧
      ∀ identity,
        Serves (fun operation => operation.caller? = some identity.userId) (rest identity) := by
  have served := served request
  generalize serve request = handling at served
  cases served with
  | health leads => exact absurd leads (guarded.not_shared _)
  | session leads => exact absurd leads (guarded.not_shared _)
  | notAllowed leads => exact absurd leads (guarded.not_shared _)
  | registration leads serves =>
      have present := guarded.registration (Request.path_of_registration leads)
      have identified : identifyIfPresent request = some <$> identify request := by
        rw [identifyIfPresent, if_neg (by simpa using present)]
      rw [identified, bind_map_left]
      refine ⟨_, rfl, fun identity => (serves (some identity)).mono ?_⟩
      rintro operation ⟨_, ⟨input, rfl⟩, _⟩
      rfl
  | member _ _ serves =>
      exact ⟨_, rfl, fun identity => (serves identity).mono fun operation may => may.1.1⟩

section Identify

variable {hasher : Hasher} {tokens : TokenService} {moments : Nat → Moment}

theorem run_identify (request : Request) (world : World) :
    (identify request).run.run ((System.inMemory hasher tokens).handler moments) world =
      match bearerToken (request.headerValues "authorization") with
      | .error error => (.error (Problem.ofAuthError error).response, world)
      | .ok token =>
        match tokens.validateAccess (moments world.tick).now token with
        | .error _ =>
          (.error (Problem.ofAuthError .invalidToken).response, { world with tick := world.tick + 1 })
        | .ok claims =>
          match world.store.liveUser? claims.userId with
          | none =>
            (.error (Problem.ofAuthError .unknownUser).response,
              { world with tick := world.tick + 2 })
          | some user => (.ok ⟨user.id, user.role⟩, { world with tick := world.tick + 2 }) := by
  unfold identify authenticate
  cases bearerToken (request.headerValues "authorization") with
  | error error => rfl
  | ok token =>
      let handler := (System.inMemory hasher tokens).handler moments
      have checked : handler.step (.checkToken .access token) world =
          (tokens.validateAccess (moments world.tick).now token,
            { world with tick := world.tick + 1 }) := rfl
      change (Program.call (.checkToken .access token) _).run handler world = _
      rw [Program.run_call, checked]
      dsimp only
      cases tokens.validateAccess (moments world.tick).now token with
      | error error => rfl
      | ok claims =>
          have looked : handler.step (.store (.findUser claims.userId))
              { world with tick := world.tick + 1 } =
                (.ok (world.store.liveUser? claims.userId),
                  { world with tick := world.tick + 2 }) := rfl
          change (Program.call (.store (.findUser claims.userId)) _).run handler _ = _
          rw [Program.run_call, looked]
          dsimp only
          cases world.store.liveUser? claims.userId with
          | none => rfl
          | some user => rfl

theorem run_identify_of_authenticated
    (authenticated : request.IsAuthenticated tokens (moments world.tick).now world.store) :
    ∃ identity user later,
      (identify request).run.run ((System.inMemory hasher tokens).handler moments) world =
          (.ok identity, later) ∧
        later.store = world.store ∧ world.store.liveUser? identity.userId = some user := by
  rcases authenticated with ⟨token, claims, user, bears, valid, found⟩
  rw [run_identify, bears]
  dsimp only
  rw [valid]
  dsimp only
  rw [found]
  refine ⟨⟨user.id, user.role⟩, user, _, rfl, rfl, ?_⟩
  rw [Store.id_of_liveUser? found]
  exact found

theorem run_identify_of_unauthenticated
    (unknown : ¬request.IsAuthenticated tokens (moments world.tick).now world.store) :
    ∃ response later,
      (identify request).run.run ((System.inMemory hasher tokens).handler moments) world =
          (.error response, later) ∧
        later.store = world.store ∧ response.status = 401 := by
  rw [run_identify]
  split
  · rename_i error bears
    refine ⟨_, _, rfl, rfl, ?_⟩
    exact Problem.status_of_bearerToken bears
  · rename_i token bears
    split
    · exact ⟨_, _, rfl, rfl, rfl⟩
    · rename_i claims valid
      split
      · exact ⟨_, _, rfl, rfl, rfl⟩
      · rename_i user found
        exact absurd ⟨token, claims, user, bears, valid, found⟩ unknown

end Identify

end Handling

theorem run_answer {handler : Handler} {world : World} {policy : CorsPolicy} {request : Request}
    (noPreflight : request.method ≠ .options) :
    let served := (serve request).response.run handler world
    ((answer policy request).run handler world).1.status = served.1.status ∧
      ((answer policy request).run handler world).2 = served.2 := by
  unfold answer
  rw [if_neg noPreflight]
  simp [Program.run_bind]

/--
A guarded request is answered with status 401 exactly if it does not carry the access token of a
live user, and then it changes nothing.
-/
theorem guarded_answered_401_iff (hasher : Hasher) (tokens : TokenService) (moments : Nat → Moment)
    (policy : CorsPolicy) (request : Request) (world : World) (guarded : request.IsGuarded) :
    let answered := (System.inMemory hasher tokens).run moments (answer policy request) world
    (answered.1.status = 401 ↔
        ¬request.IsAuthenticated tokens (moments world.tick).now world.store) ∧
      (¬request.IsAuthenticated tokens (moments world.tick).now world.store →
        answered.2.store = world.store) := by
  intro answered
  let handler := (System.inMemory hasher tokens).handler moments
  have same : answered.1.status = ((serve request).response.run handler world).1.status ∧
      answered.2 = ((serve request).response.run handler world).2 :=
    run_answer guarded.noPreflight
  rcases Handling.serve_of_guarded guarded with ⟨rest, serves, performs⟩
  rw [serves] at same
  by_cases authenticated : request.IsAuthenticated tokens (moments world.tick).now world.store
  · -- The store has not changed since the caller was found, so no operation misses the caller.
    rcases Handling.run_identify_of_authenticated authenticated with
      ⟨identity, user, later, ran, unchanged, found⟩
    rw [Handling.response_run_of_ok ran] at same
    rw [← unchanged] at found
    have let_in : answered.1.status ≠ 401 := by
      rw [same.1]
      refine (performs identity).status_ne fun operation named => ?_
      exact operation.run_ne_unauthorized named found
    exact ⟨iff_of_false let_in (not_not_intro authenticated), absurd authenticated⟩
  · rcases Handling.run_identify_of_unauthenticated authenticated with
      ⟨response, later, ran, unchanged, refused⟩
    rw [Handling.response_run_of_error ran] at same
    rw [same.1, same.2]
    exact ⟨iff_of_true refused authenticated, fun _ => unchanged⟩

/-- A registration with credentials that are no bearer token. -/
def strangeRegistration : Request where
  method := .post
  target := "/register"
  headers := [.ofText "authorization" "Basic YWRhOmJ5cm9u"]
  body := []

/-- Where no admin exists yet, anonymous registration is open, but these credentials close it. -/
theorem strangeRegistration_refused :
    strangeRegistration.IsGuarded ∧
      ((System.inMemory .plain .unsigned).run .numbered (answer .any strangeRegistration)
          {}).1.status = 401 ∧
        ((System.inMemory .plain .unsigned).run .numbered (answer .any strangeRegistration)
          {}).2.store = {} := by
  have guarded : strangeRegistration.IsGuarded :=
    ⟨by decide, by decide +kernel, by decide +kernel⟩
  have unknown :
      ¬strangeRegistration.IsAuthenticated .unsigned (Moment.numbered 0).now ({} : World).store := by
    rintro ⟨token, claims, user, bears, _⟩
    have refused :
        (bearerToken (strangeRegistration.headerValues "authorization")).toOption = none := by
      decide +kernel
    rw [bears] at refused
    cases refused
  have gate := guarded_answered_401_iff .plain .unsigned .numbered .any strangeRegistration {}
    guarded
  exact ⟨guarded, gate.1.mpr unknown, gate.2 unknown⟩

end OrgAccess.Http
