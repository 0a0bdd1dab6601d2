import OrgAccess.Proofs.Purge
import OrgAccess.Proofs.Relaying
import OrgAccess.Proofs.StoredTexts
import OrgAccess.Proofs.TokenReading

/-!
# No internal error

With the store in memory nothing fails internally. The store only refuses addresses that are taken,
whatever hash it keeps was made by the hasher and can be checked, and tokens can be issued as long
as their expiry can be written. So no operation ends with an internal failure
(`Operation.run_ne_internal`), and no request is answered with status 500.

A request reaches what is done for members only behind the layer that tells who the caller is. If
the layers and what they guard are taken apart (`Http.Layer`, `Http.dispatch`), it makes no
difference what would be answered if the caller were missing (`Http.serve_eq_dispatch`).
-/

namespace OrgAccess

/-- Any password can be checked against the hash. -/
def Hasher.CanCheck (hasher : Hasher) (stored : String) : Prop :=
  ∀ password, ∃ isRight, hasher.verify stored password = .ok isRight

section Memory

variable {hasher : Hasher} {tokens : TokenService} {moments : Nat → Moment} {store : Store}

theorem System.offersUsable {usable : String → Prop}
    (stored : ∀ user ∈ store.users, usable user.passwordHash) (tick : Nat) (effect : Effect) :
    effect.OffersUsable usable
      ((System.inMemory hasher tokens).handler moments tick effect store).1 := by
  cases effect with
  | store call =>
      cases call with
      | findUserByEmail email =>
          change Effect.OffersUsable usable (.store (.findUserByEmail email))
            (.ok (store.liveUserByEmail? email))
          cases found : store.liveUserByEmail? email with
          | none => trivial
          | some user => exact stored user (List.mem_of_find?_eq_some found)
      | _ => trivial
  | _ => trivial

variable (hashes : ∀ salt password error, hasher.hash salt password ≠ .error error)
  (lasting : ∀ tick, tokens.CanIssue (moments tick).now)
include hashes lasting

theorem System.failure?_ne_internal (tick : Nat) {effect : Effect}
    (checks : effect.ChecksUsable hasher.CanCheck) (reason : String) :
    effect.failure? ((System.inMemory hasher tokens).handler moments tick effect store).1 ≠
      some (.internal reason) := by
  cases effect with
  | store call =>
      change Effect.failure? (.store call) (store.perform (moments tick) call).1 ≠ _
      cases answer : (store.perform (moments tick) call).1 with
      | ok value => exact nofun
      | error error =>
          rw [(Store.taken_of_error answer).1]
          exact nofun
  | hashPassword password =>
      change Effect.failure? (.hashPassword password) (hasher.hash (moments tick).salt password) ≠ _
      cases answer : hasher.hash (moments tick).salt password with
      | ok hash => exact nofun
      | error error => exact absurd answer (hashes _ _ _)
  | verifyPassword stored password =>
      rcases checks password with ⟨isRight, answer⟩
      change Effect.failure? (.verifyPassword stored password) (hasher.verify stored password) ≠ _
      rw [answer]
      exact nofun
  | issueTokens user =>
      rcases TokenService.exists_pair (lasting tick) user with ⟨pair, answer⟩
      change Effect.failure? (.issueTokens user) (tokens.issuePair (moments tick) user) ≠ _
      rw [answer]
      exact nofun
  | checkToken kind token => exact nofun
  | readMoment => exact nofun

/-- As long as all stored hashes can be checked, no operation ends with an internal failure. -/
theorem Operation.run_ne_internal (operation : Operation) (world : World)
    (stored : ∀ user ∈ world.store.users, hasher.CanCheck user.passwordHash) (reason : String) :
    (operation.program.run ((System.inMemory hasher tokens).handler moments) world).1 ≠
      .error (.internal reason) := by
  let handler := (System.inMemory hasher tokens).handler moments
  intro failed
  have honest : handler.Honest := System.inMemory_honest hasher tokens moments
  have quiet : History.Quiet (operation.program.exchanges handler world) :=
    (Program.run_obeys handler world operation.program_obeys).1.2 _ failed
  have answered := Program.answeredFrom_of_quiet honest operation.program world quiet
  -- Nothing was written before the failure, so each exchange was answered from the same store.
  have given {exchange : Exchange} (mem : exchange ∈ operation.program.exchanges handler world) :
      ∃ tick, exchange.answer = (handler tick exchange.effect world.store).1 := by
    rcases List.mem_iff_getElem?.mp mem with ⟨position, found⟩
    exact ⟨_, answered position exchange found⟩
  have offers : ∀ exchange ∈ operation.program.exchanges handler world,
      exchange.effect.OffersUsable hasher.CanCheck exchange.answer := by
    intro exchange mem
    rcases given mem with ⟨tick, answer⟩
    rw [answer]
    exact System.offersUsable stored tick exchange.effect
  rcases (operation.relays hasher.CanCheck).internal_cause offers failed with
    ⟨exchange, mem, checks, cause⟩
  rcases given mem with ⟨tick, answer⟩
  rw [answer] at cause
  exact System.failure?_ne_internal hashes lasting tick checks reason cause

end Memory

namespace Http

/-! ## Layers -/

/-- What stands before a path. -/
inductive Layer where
  | none
  /-- Credentials are checked if there are any. -/
  | optional
  | required
deriving DecidableEq

/-- What a layer leaves for what comes behind it: the caller, if one was authenticated. -/
def Layer.pass (layer : Layer) (request : Request) : Handling (Option Identity) :=
  match layer with
  | none => pure .none
  | optional => identifyIfPresent request
  | required => some <$> identify request

/-- What the path of a request demands by way of credentials. -/
def Request.layer (request : Request) : Layer :=
  match request.resource? with
  | some (.shared _) => .none
  | some .registration => .optional
  | some (.member _) | none => .required

theorem Layer.required_pass_ne_none (request : Request) (handler : Handler) (world : World) :
    ((required.pass request).run.run handler world).1 ≠ .ok .none := by
  rw [pass, map_eq_pure_bind, ExceptT.run_bind, Program.run_bind]
  cases ((identify request).run.run handler world).1 with
  | error response => exact nofun
  | ok caller => exact nofun

/-- The caller that a layer has left, or the response to a request without one. -/
def extract (missing : Response) : Option Identity → Handling Identity
  | some caller => pure caller
  | none => throw missing

/-- What is done behind the layers. Only what is done for members cannot do without a caller. -/
def dispatch (missing : Response) (request : Request) (caller : Option Identity) :
    Handling Response :=
  match request.resource? with
  | some (.shared resource) =>
    if resource.method = request.method.served then serveShared request resource
    else return .of 405 .empty
  | some .registration =>
    if request.method.served = .post then serveRegistration request caller
    else return .of 405 .empty
  | some (.member resource) =>
    match resource.action? request.method with
    | some action => do serveMember request (← extract missing caller).userId action
    | none => return .of 405 .empty
  | none => return .of 404 .empty

/-- Whatever would be answered if a caller were missing, it is never answered. -/
theorem serve_eq_dispatch (missing : Response) (request : Request) :
    serve request = request.layer.pass request >>= dispatch missing request := by
  unfold serve Request.layer dispatch
  cases request.resource? with
  | none => rw [Layer.pass, bind_map_left]
  | some resource =>
      cases resource with
      | shared resource => rfl
      | registration => rfl
      | member resource =>
          rw [Layer.pass, bind_map_left]
          rfl

/-! ## Requests -/

theorem Answered.status_ne_500 {request : Request} {handler : Handler} {store : Store}
    {answered : Response × World} (answers : Answered request handler store answered)
    (noInternal : ∀ (operation : Operation) (start : World) reason, start.store = store →
      (operation.program.run handler start).1 ≠ .error (.internal reason)) :
    answered.1.status ≠ 500 := by
  cases answers with
  | @refused response later bad unchanged =>
      change response.status ≠ 500
      omega
  | @told response later other fine unchanged =>
      change response.status ≠ 500
      omega
  | @failed operation failure start response later asks same ran status =>
      change response.status ≠ 500
      rw [status]
      cases failure with
      | internal reason => exact absurd (congrArg Prod.fst ran) (noInternal operation start reason same)
      | _ => simp [Problem.ofFailure, Problem.status]
  | @succeeded operation value start response later asks same ran status =>
      change response.status ≠ 500
      omega

section Memory

variable {hasher : Hasher} {tokens : TokenService} {moments : Nat → Moment}

theorem run_authenticate_ne_store (values : List (List UInt8)) (world : World) (reason : String) :
    ((authenticate values).run.run ((System.inMemory hasher tokens).handler moments) world).1 ≠
      .error (.store reason) := by
  unfold authenticate
  cases bears : bearerToken values with
  | error error =>
      rcases eq_of_bearerToken_error bears with rfl | rfl <;> exact nofun
  | ok token =>
      let handler := (System.inMemory hasher tokens).handler moments
      change ((Program.call (.checkToken .access token) _).run handler world).1 ≠ _
      rw [Program.run_call]
      cases (handler.step (.checkToken .access token) world).1 with
      | error error => exact nofun
      | ok claims =>
          have looked (world : World) : (handler.step (.store (.findUser claims.userId)) world).1 =
              .ok (world.store.liveUser? claims.userId) := rfl
          change ((Program.call (.store (.findUser claims.userId)) _).run handler _).1 ≠ _
          rw [Program.run_call, looked]
          cases Store.liveUser? _ claims.userId with
          | none => exact nofun
          | some user => exact nofun

end Memory

/--
With the memory-hard hasher, salts of sixteen bytes and tokens whose expiry can be written, no
request is ever answered with status 500, whatever requests were made before. Every stored hash can
be read and checked, neither an operation nor an authentication fails internally, and on a path for
members nothing is done without a caller.
-/
theorem answered_without_internal_error (costs : Argon2.Costs) (hasher : Hasher)
    (tokens : TokenService) (moments : Nat → Moment) (policy : CorsPolicy)
    (requests : List Request) (request : Request) (accepted : costs.Accepted)
    (built : Hasher.argon2 costs = .ok hasher) (salts : ∀ tick, (moments tick).salt.length = 16)
    (lasting : ∀ tick, tokens.CanIssue (moments tick).now) :
    let handler := (System.inMemory hasher tokens).handler moments
    let before := worldAfter hasher tokens moments policy requests
    ((answer policy request).run handler before).1.status ≠ 500 ∧
      (∀ user ∈ before.store.users,
        (∃ hash, PasswordHash.ofText? user.passwordHash = .ok hash) ∧
          hasher.CanCheck user.passwordHash) ∧
      (∀ (start : World) reason, start.store = before.store →
        (∀ operation : Operation,
          (operation.program.run handler start).1 ≠ .error (.internal reason)) ∧
        ∀ values, ((authenticate values).run.run handler start).1 ≠ .error (.store reason)) ∧
      (∀ missing, serve request = request.layer.pass request >>= dispatch missing request) ∧
      ∀ resource, request.resource? = some (.member resource) →
        ∀ start, ((request.layer.pass request).run.run handler start).1 ≠ .ok none := by
  intro handler before
  have stored : ∀ user ∈ before.store.users,
      (∃ hash, PasswordHash.ofText? user.passwordHash = .ok hash) ∧
        hasher.CanCheck user.passwordHash := by
    refine hashes_worldAfter (fun stored => (∃ hash, PasswordHash.ofText? stored = .ok hash) ∧
      hasher.CanCheck stored) requests salts ?_
    intro salt password stored sixteen made
    exact ⟨Hasher.ofText?_of_hash built accepted sixteen made,
      Hasher.verify_of_hash built accepted sixteen made⟩
  have noInternal (operation : Operation) (start : World) (reason : String)
      (same : start.store = before.store) :
      (operation.program.run handler start).1 ≠ .error (.internal reason) := by
    refine operation.run_ne_internal (Hasher.hash_ne_error built) lasting start ?_ reason
    rw [same]
    exact fun user mem => (stored user mem).2
  refine ⟨?_, stored, fun start reason same => ⟨?_, ?_⟩, ?_, fun resource leads start => ?_⟩
  · exact (answered policy request before).status_ne_500 noInternal
  · exact fun operation => noInternal operation start reason same
  · exact fun values => run_authenticate_ne_store values start reason
  · exact fun missing => serve_eq_dispatch missing request
  · have required : request.layer = .required := by rw [Request.layer, leads]
    rw [required]
    exact Layer.required_pass_ne_none request handler start

/-- A login with the credentials of the first account. -/
def firstLogin : Request where
  method := .post
  target := "/login"
  headers := [.ofText "content-type" "application/json"]
  body := Text.utf8
    "\x7b\"email\":\"ada@example.org\",\"password\":\"correct horse\"\x7d"

/-- Once an account exists, its hash can be checked, and a login with it is not answered with 500. -/
theorem firstLogin_without_internal_error :
    let handler := (System.inMemory .cheapest .unsigned).handler saltedMoment
    let before := worldAfter .cheapest .unsigned saltedMoment .any [firstRegistration]
    before.store.users.length = 1 ∧
      (∀ user ∈ before.store.users, Hasher.cheapest.CanCheck user.passwordHash) ∧
      ((answer .any firstLogin).run handler before).1.status ≠ 500 := by
  have lasting (tick : Nat) : TokenService.unsigned.CanIssue (saltedMoment tick).now := by
    change TokenService.unsigned.CanIssue .epoch
    exact ⟨by decide, by decide⟩
  have sound := answered_without_internal_error .least .cheapest .unsigned saltedMoment .any
    [firstRegistration] firstLogin Argon2.Costs.least_accepted Hasher.argon2_least (fun _ => rfl)
    lasting
  exact ⟨by decide +kernel, fun user mem => (sound.2.1 user mem).2, sound.1⟩

end Http

end OrgAccess
