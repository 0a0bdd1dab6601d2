import OrgAccess.Proofs.InternalErrors
import OrgAccess.Proofs.StoredHashes

/-!
# Sessions that are refused

Who is refused a session is told nothing more. A login fails with one failure, whether the address
is unknown, the account was deleted, before the look-up or while the password is checked, or the
password is wrong. A refresh whose token can be read fails with one failure as well, whatever has
become of the user and of the session.

A login or a refresh could fail otherwise only because an exchange does (`Workflow.login_fails_as`,
`Workflow.refresh_fails_as`), and none does in memory, whatever operations take turns with it: the
hashes that are checked were made by the hasher, and tokens can be issued
(`Interleaved.not_sessionFault`).
-/

namespace OrgAccess

/-! ## Reasons to fail -/

/-- An exchange of a login or a refresh failed, other than the check of a refresh token. -/
inductive History.SessionFault (history : History) : Prop where
  | lookUp {email : String} {error : StoreError}
      (mem : (⟨.store (.findUserByEmail email), .error error⟩ : Exchange) ∈ history)
  | password {email password : String} {user : User} {error : PasswordError}
      (found : history.Saw (.findUserByEmail email) (some user))
      (mem : (⟨.verifyPassword user.passwordHash password, .error error⟩ : Exchange) ∈ history)
  | issue {user : Uuid} {error : TokenError}
      (mem : (⟨.issueTokens user, .error error⟩ : Exchange) ∈ history)
  | opening {user : Uuid} {token : String} {expiresAt : Instant} {error : StoreError}
      (mem : (⟨.store (.storeRefreshToken user token expiresAt), .error error⟩ : Exchange) ∈
        history)
  | rotation {user : Uuid} {old new : String} {expiresAt : Instant} {error : StoreError}
      (mem : (⟨.store (.rotateRefreshToken user old new expiresAt), .error error⟩ : Exchange) ∈
        history)

/-- A refresh token did not pass its check. -/
def History.RefusedToken (history : History) (token : String) : Prop :=
  ∃ error, (⟨.checkToken .refresh token, .error error⟩ : Exchange) ∈ history

namespace Workflow

variable {ε α β : Type} {history : History} {fails : History → Failure → Prop}
  {ends : History → β → Prop}

/-- An effect before the rest, where nothing is said of writes. -/
theorem obeys_effect_bind (effect : Effect) (result : effect.Answer → Except ε α)
    {toFailure : ε → Failure} {rest : α → Workflow β}
    (failed : ∀ answer error, result answer = .error error →
      fails (history ++ [⟨effect, answer⟩]) (toFailure error))
    (next : ∀ answer value, result answer = .ok value →
      Attempt.Obeys (fun _ _ => True) fails ends (history ++ [⟨effect, answer⟩]) (rest value)) :
    Attempt.Obeys (fun _ _ => True) fails ends history
      (lift toFailure (.call effect fun answer => .done (result answer)) >>= rest) := by
  rw [Attempt.obeys_bind, obeys_lift]
  refine ⟨fun _ _ _ => trivial, fun answer => ?_⟩
  cases came : result answer with
  | error error => simpa only [Program.Obeys, came] using failed answer error came
  | ok value => simpa only [Program.Obeys, came] using next answer value came

theorem obeys_store_bind {call : StoreCall} {rest : call.Answer → Workflow β}
    (failed : ∀ error, fails (history ++ [⟨.store call, .error error⟩]) (.ofStore error))
    (next : ∀ value, Attempt.Obeys (fun _ _ => True) fails ends
      (history ++ [⟨.store call, .ok value⟩]) (rest value)) :
    Attempt.Obeys (fun _ _ => True) fails ends history (store call >>= rest) := by
  rw [Attempt.obeys_bind, obeys_store]
  exact ⟨fun _ => trivial, failed, next⟩

theorem login_fails_as (email password : String) :
    Attempt.Obeys (fun _ _ => True)
      (fun later failure => failure = .invalidCredentials ∨ later.SessionFault) (fun _ _ => True)
      [] (login email password) := by
  unfold login
  refine obeys_store_bind (fun error => Or.inr (.lookUp List.mem_cons_self)) fun found => ?_
  cases found with
  | none => exact Or.inl rfl
  | some user =>
      refine obeys_effect_bind (.verifyPassword _ _) id ?_ ?_
      · rintro _ error rfl
        exact Or.inr (.password List.mem_cons_self List.mem_concat_self)
      rintro _ isRight rfl
      cases isRight with
      | false => exact Or.inl rfl
      | true =>
          refine obeys_effect_bind (.issueTokens _) id ?_ ?_
          · rintro _ error rfl
            exact Or.inr (.issue List.mem_concat_self)
          rintro _ pair rfl
          refine obeys_store_bind (fun error => Or.inr (.opening List.mem_concat_self)) ?_
          rintro (⟨⟩ | ⟨⟩)
          · exact Or.inl rfl
          · trivial

theorem refresh_fails_as (token : String) :
    Attempt.Obeys (fun _ _ => True)
      (fun later failure =>
        failure = .refreshTokenRejected ∨ later.RefusedToken token ∨ later.SessionFault)
      (fun _ _ => True) [] (refresh token) := by
  unfold refresh
  refine obeys_effect_bind (.checkToken .refresh token) id ?_ ?_
  · rintro _ error rfl
    exact Or.inr (Or.inl ⟨error, List.mem_cons_self⟩)
  rintro _ claims rfl
  refine obeys_effect_bind (.issueTokens _) id ?_ ?_
  · rintro _ error rfl
    exact Or.inr (Or.inr (.issue List.mem_concat_self))
  rintro _ pair rfl
  refine obeys_store_bind (fun error => Or.inr (Or.inr (.rotation List.mem_concat_self))) ?_
  rintro (⟨⟩ | ⟨⟩)
  · exact Or.inl rfl
  · trivial

end Workflow

namespace Interleaved

variable {α : Type} {hasher : Hasher} {tokens : TokenService} {moments : Nat → Moment}
  {programs now : List (Program α)} {world : World} {log : List Turn}
  {ends : Nat → History → α → Prop}

/-- In memory no exchange of a session fails, as long as all stored hashes can be checked. -/
theorem not_sessionFault
    (run : Interleaved ((System.inMemory hasher tokens).handler moments) programs {} log now world)
    (each : ∀ position (program : Program α), programs[position]? = some program →
      program.Obeys History.GaveHash (ends position) [])
    (made : ∀ tick password hash, hasher.hash (moments tick).salt password = .ok hash →
      hasher.CanCheck hash)
    (lasting : ∀ tick, tokens.CanIssue (moments tick).now) (position : Nat) :
    ¬(historyOf log position).SessionFault := by
  intro fault
  cases fault with
  | lookUp mem =>
      rcases run.exists_turn mem with ⟨_, _, _, _, answer⟩
      exact nomatch answer
  | @password email password user error found mem =>
      rcases run.exists_turn found with ⟨looking, looked, _, _, answer⟩
      have look : looking.before.store.liveUserByEmail? email = some user :=
        (Except.ok.inj answer).symm
      have stored : user ∈ looking.before.store.users := List.mem_of_find?_eq_some look
      rcases List.append_of_mem looked with ⟨_, _, parts⟩
      rcases run.at_turn parts with ⟨_, _, _, before, _, _⟩
      rcases before.keepsHashes each made (by simp [Store.KeepsHashes]) user stored password with
        ⟨isRight, verified⟩
      rcases run.exists_turn mem with ⟨_, _, _, _, refused⟩
      exact nomatch refused.trans verified
  | @issue user error mem =>
      rcases run.exists_turn mem with ⟨turn, _, _, _, refused⟩
      rcases TokenService.exists_pair (lasting turn.before.tick) user with ⟨pair, issued⟩
      exact nomatch refused.trans issued
  | opening mem =>
      rcases run.exists_turn mem with ⟨_, _, _, _, answer⟩
      exact nomatch answer
  | rotation mem =>
      rcases run.exists_turn mem with ⟨_, _, _, _, answer⟩
      exact nomatch answer

end Interleaved

/-! ## Responses -/

namespace Http

/-- A request to log in whose body passes the rules of its form. -/
structure Request.IsLogin (request : Request) : Prop where
  posts : request.method = .post
  leads : request.resource? = some (.shared .login)
  reads : ∃ credentials, Form.login.read request = .ok credentials

/-- A request to refresh a session with a token, whose body passes the rules of its form. -/
structure Request.IsRefresh (request : Request) (token : String) : Prop where
  posts : request.method = .post
  leads : request.resource? = some (.shared .refresh)
  reads : Form.refresh.read request = .ok token

/-- What is sent for a response to a request from an origin. -/
def sent (policy : CorsPolicy) (origin : Option (List UInt8)) (response : Response) : Response :=
  (response.addHeaders (policy.responseHeaders origin)).withLength

/-- What is sent when an operation fails. -/
def refusal (policy : CorsPolicy) (origin : Option (List UInt8)) (failure : Failure) : Response :=
  sent policy origin (Problem.ofFailure failure).response

/-- Carries an operation out and sends what came of it. -/
def answerWith (policy : CorsPolicy) (origin : Option (List UInt8)) (operation : Operation)
    (toResponse : operation.Value → Response) : Program Response :=
  operation.program >>= fun result =>
    .done (match result with
      | .ok value => sent policy origin (toResponse value)
      | .error failure => refusal policy origin failure)

theorem answer_of_performs {policy : CorsPolicy} {request : Request} {resource : SharedResource}
    {operation : Operation} {toResponse : operation.Value → Response}
    (posts : request.method = .post) (leads : request.resource? = some (.shared resource))
    (method : resource.method = .post)
    (performs : serveShared request resource =
      (Handling.ofWorkflow operation.workflow >>= fun value => pure (toResponse value))) :
    answer policy request = answerWith policy (request.header? "origin") operation toResponse := by
  have served : serve request = serveShared request resource := by
    rw [serve, leads, posts]
    exact if_pos method
  have finished (response : Response) : finish request response = response.withLength := by
    have serves : (Resource.shared resource).serves .post = true := by
      simp [Resource.serves, Resource.methods, Method.served, method]
    rw [finish, leads, posts]
    simp [serves]
  have other : request.method ≠ .options := by simp [posts]
  simp only [answer, if_neg other, served, performs, Handling.response_performs, bind_assoc,
    answerWith]
  refine bind_congr fun result => ?_
  cases result <;> simp [finished, sent, refusal]

theorem answer_of_isLogin {request : Request} (isLogin : request.IsLogin) (policy : CorsPolicy) :
    ∃ email password, answer policy request =
      answerWith policy (request.header? "origin") (.login email password)
        fun login => jsonResponse 200 login.toJson := by
  rcases isLogin.reads with ⟨⟨email, password⟩, reads⟩
  refine ⟨email, password, answer_of_performs isLogin.posts isLogin.leads rfl ?_⟩
  rw [serveShared, Handling.readForm, reads]
  rfl

theorem answer_of_isRefresh {request : Request} {token : String}
    (isRefresh : request.IsRefresh token) (policy : CorsPolicy) :
    answer policy request =
      answerWith policy (request.header? "origin") (.refresh token)
        fun renewal => jsonResponse 200 renewal.toJson := by
  refine answer_of_performs isRefresh.posts isRefresh.leads rfl ?_
  rw [serveShared, Handling.readForm, isRefresh.reads]
  rfl

/-! ## Circumstances -/

/--
What happens around a request: the moments of all effects, what other clients have done, and in
which turns. Nothing is stored at first, the salts have sixteen bytes, and tokens can be issued.
-/
structure Circumstances (tokens : TokenService) where
  moments : Nat → Moment
  operations : List Operation
  /-- Whose turn it is; the request is at position zero, and the operations come after it. -/
  schedule : List Nat
  salts : ∀ tick, (moments tick).salt.length = 16
  lasting : ∀ tick, tokens.CanIssue (moments tick).now

namespace Circumstances

variable {tokens : TokenService}

/-- The request and the operations of the others, as programs that take turns. -/
def programs (circumstances : Circumstances tokens) (policy : CorsPolicy) (request : Request) :
    List (Program (Option Response)) :=
  (answer policy request >>= fun response => .done (some response)) ::
    circumstances.operations.map fun operation => operation.program >>= fun _ => .done none

variable (circumstances : Circumstances tokens) (hasher : Hasher) (policy : CorsPolicy)
  (request : Request)

/-- The turns in which the request is answered. -/
def turns : List Turn :=
  Program.turns ((System.inMemory hasher tokens).handler circumstances.moments)
    circumstances.schedule (circumstances.programs policy request) {}

/-- What the programs have come to after all turns, and what is stored. -/
def outcome : List (Program (Option Response)) × World :=
  Program.interleave ((System.inMemory hasher tokens).handler circumstances.moments)
    circumstances.schedule (circumstances.programs policy request) {}

/-- The response to the request, if the turns are enough for it to be answered. -/
def response? : Option Response :=
  match (circumstances.outcome hasher policy request).1[0]? with
  | some (Program.done response) => response
  | _ => none

/-- Whenever the request has a refresh token checked, the token passes. -/
def Accepts (token : String) : Prop :=
  ∀ turn ∈ circumstances.turns hasher policy request, turn.position = 0 →
    turn.exchange.effect = .checkToken .refresh token →
      ∃ claims, tokens.validateRefresh (circumstances.moments turn.before.tick).now token =
        .ok claims

theorem run : Interleaved ((System.inMemory hasher tokens).handler circumstances.moments)
    (circumstances.programs policy request) {} (circumstances.turns hasher policy request)
    (circumstances.outcome hasher policy request).1
    (circumstances.outcome hasher policy request).2 :=
  Interleaved.ofSchedule _ _ _ _

variable {circumstances hasher policy request}

theorem ended_of_response? {response : Response}
    (answered : circumstances.response? hasher policy request = some response) :
    (circumstances.outcome hasher policy request).1[0]? = some (.done (some response)) := by
  unfold response? at answered
  split at answered
  · rename_i ended
    rw [ended, answered]
  · cases answered

theorem programs_write_seen_hashes {operation : Operation}
    {toResponse : operation.Value → Response} {origin : Option (List UInt8)}
    (answers : answer policy request = answerWith policy origin operation toResponse)
    (position : Nat) (program : Program (Option Response))
    (found : (circumstances.programs policy request)[position]? = some program) :
    program.Obeys History.GaveHash (fun _ _ => True) [] := by
  have each (operation : Operation) (rest : _ → Program (Option Response))
      (ends : ∀ result, ∃ value, rest result = .done value) :
      (operation.program >>= rest).Obeys History.GaveHash (fun _ _ => True) [] := by
    rw [Program.obeys_bind]
    refine operation.writes_seen_hashes.mono (fun _ _ _ allowed => allowed) fun _ result _ _ => ?_
    rcases ends result with ⟨value, done⟩
    rw [done]
    trivial
  cases position with
  | zero =>
      obtain rfl : _ = program := Option.some.inj found
      rw [answers, answerWith, bind_assoc]
      exact each operation _ fun result => ⟨_, rfl⟩
  | succ position =>
      rw [programs, List.getElem?_cons_succ, List.getElem?_map, Option.map_eq_some_iff] at found
      rcases found with ⟨operation, _, rfl⟩
      exact each operation _ fun result => ⟨_, rfl⟩

/-- What is sent tells of the operation, and a failure is one that its history admits. -/
theorem response_cases {operation : Operation} {toResponse : operation.Value → Response}
    {origin : Option (List UInt8)} {fails : History → Failure → Prop} {response : Response}
    (answers : answer policy request = answerWith policy origin operation toResponse)
    (fails_as : Attempt.Obeys (fun _ _ => True) fails (fun _ _ => True) [] operation.workflow)
    (answered : circumstances.response? hasher policy request = some response) :
    (∃ value, response = sent policy origin (toResponse value)) ∨
      ∃ failure, fails (historyOf (circumstances.turns hasher policy request) 0) failure ∧
        response = refusal policy origin failure := by
  let ends (position : Nat) (later : History) (result : Option Response) : Prop :=
    position = 0 → ∀ response, result = some response →
      (∃ value, response = sent policy origin (toResponse value)) ∨
        ∃ failure, fails later failure ∧ response = refusal policy origin failure
  have each (position : Nat) (program : Program (Option Response))
      (found : (circumstances.programs policy request)[position]? = some program) :
      program.Obeys (fun _ _ => True) (ends position) [] := by
    cases position with
    | zero =>
        obtain rfl : _ = program := Option.some.inj found
        rw [answers, answerWith, bind_assoc, Program.obeys_bind]
        refine Program.Obeys.mono fails_as (fun _ _ _ _ => trivial) fun later result _ ended => ?_
        rintro - _ ⟨rfl⟩
        cases result with
        | ok value => exact Or.inl ⟨value, rfl⟩
        | error failure => exact Or.inr ⟨failure, ended, rfl⟩
    | succ position =>
        exact (programs_write_seen_hashes answers _ program found).mono
          (fun _ _ _ _ => trivial) (fun _ _ _ _ => nofun)
  exact (circumstances.run hasher policy request).obeys each 0 _ (ended_of_response? answered) rfl
    response rfl

end Circumstances

section Memory

variable {costs : Argon2.Costs} {tokens : TokenService} {circumstances : Circumstances tokens}
  {hasher : Hasher} {policy : CorsPolicy} {request : Request} {response : Response}
  (accepted : costs.Accepted) (built : Hasher.argon2 costs = .ok hasher)
  (answered : circumstances.response? hasher policy request = some response)
include accepted built

theorem Circumstances.not_sessionFault {operation : Operation}
    {toResponse : operation.Value → Response} {origin : Option (List UInt8)}
    (answers : answer policy request = answerWith policy origin operation toResponse) :
    ¬(historyOf (circumstances.turns hasher policy request) 0).SessionFault := by
  refine (circumstances.run hasher policy request).not_sessionFault
    (programs_write_seen_hashes answers) ?_ circumstances.lasting 0
  intro tick password hash made
  exact Hasher.verify_of_hash built accepted (circumstances.salts tick) made

include answered

theorem response_of_isLogin (isLogin : request.IsLogin) :
    response.status = 200 ∨
      response = refusal policy (request.header? "origin") .invalidCredentials := by
  rcases answer_of_isLogin isLogin policy with ⟨email, password, answers⟩
  rcases Circumstances.response_cases answers (Workflow.login_fails_as email password) answered
    with ⟨login, rfl⟩ | ⟨failure, rfl | fault, rfl⟩
  · exact Or.inl rfl
  · exact Or.inr rfl
  · exact absurd fault (Circumstances.not_sessionFault accepted built answers)

theorem response_of_isRefresh {token : String} (isRefresh : request.IsRefresh token)
    (accepts : circumstances.Accepts hasher policy request token) :
    response.status = 200 ∨
      response = refusal policy (request.header? "origin") .refreshTokenRejected := by
  have answers := answer_of_isRefresh isRefresh policy
  rcases Circumstances.response_cases answers (Workflow.refresh_fails_as token) answered
    with ⟨renewal, rfl⟩ | ⟨failure, rfl | ⟨error, refused⟩ | fault, rfl⟩
  · exact Or.inl rfl
  · exact Or.inr rfl
  · rcases (circumstances.run hasher policy request).exists_turn refused with
      ⟨turn, among, mine, asked, judged⟩
    rcases accepts turn among mine asked with ⟨claims, valid⟩
    exact nomatch judged.trans valid
  · exact absurd fault (Circumstances.not_sessionFault accepted built answers)

end Memory

/--
With the memory-hard hasher, two logins that do not succeed are answered alike, in any circumstances
of the one and the other, if the requests name the same origin and their bodies pass the rules of
the form. Two refreshes that do not succeed are answered alike as well, if their tokens pass the
check of the token service.
-/
theorem refused_sessions_indistinguishable {costs : Argon2.Costs} {hasher : Hasher}
    (accepted : costs.Accepted) (built : Hasher.argon2 costs = .ok hasher) {tokens : TokenService}
    {policy : CorsPolicy} {request other : Request}
    (sameOrigin : request.header? "origin" = other.header? "origin")
    {first second : Circumstances tokens} {response response' : Response}
    (answered : first.response? hasher policy request = some response)
    (answered' : second.response? hasher policy other = some response')
    (failed : response.status ≠ 200) (failed' : response'.status ≠ 200) :
    (request.IsLogin → other.IsLogin → response = response') ∧
      ∀ token token', request.IsRefresh token → other.IsRefresh token' →
        first.Accepts hasher policy request token → second.Accepts hasher policy other token' →
          response = response' := by
  constructor
  · intro isLogin isLogin'
    have refused := (response_of_isLogin accepted built answered isLogin).resolve_left failed
    have refused' := (response_of_isLogin accepted built answered' isLogin').resolve_left failed'
    rw [refused, refused', sameOrigin]
  · intro token token' isRefresh isRefresh' accepts accepts'
    have refused :=
      (response_of_isRefresh accepted built answered isRefresh accepts).resolve_left failed
    have refused' :=
      (response_of_isRefresh accepted built answered' isRefresh' accepts').resolve_left failed'
    rw [refused, refused', sameOrigin]

/-- The account for which the first login is. -/
def firstAccount : Registration where
  email := "ada@example.org"
  password := "correct horse"
  firstName := "Ada"
  lastName := "Byron"
  phoneNumber := none
  role := none
  teamId := none

/-- A token that the service signed for this account, at some time. -/
def firstToken : String :=
  (TokenService.unsigned.issuePair (.numbered 5) ⟨2⟩).toOption.elim "" TokenPair.refreshToken

/-- A refresh with this token. -/
def firstRefresh : Request where
  method := .post
  target := "/refresh"
  headers := [.ofText "content-type" "application/json"]
  body := Text.utf8 ("\x7b\"refresh_token\":\"" ++ firstToken ++ "\"\x7d")

/-- Operations in these turns, at moments with numbers. -/
def numberedCircumstances (operations : List Operation) (schedule : List Nat) :
    Circumstances .unsigned where
  moments := saltedMoment
  operations
  schedule
  salts := fun _ => rfl
  lasting := fun _ => by
    change TokenService.unsigned.CanIssue .epoch
    exact ⟨by decide, by decide⟩

/--
A login is answered alike before there is an account and after the account was deleted, and a
refresh before there is an account and before the account has had a session.
-/
theorem firstAccount_not_revealed :
    let before := numberedCircumstances [] [0, 0, 0]
    let deleted := numberedCircumstances [.register none firstAccount, .deleteUser ⟨2⟩ ⟨2⟩]
      [1, 1, 1, 2, 2, 0]
    let unused := numberedCircumstances [.register none firstAccount] [1, 1, 1, 0, 0, 0]
    (firstLogin.IsLogin ∧ ∃ response, response.status = 401 ∧
        before.response? .cheapest .any firstLogin = some response ∧
        deleted.response? .cheapest .any firstLogin = some response) ∧
      firstRefresh.IsRefresh firstToken ∧
        before.Accepts .cheapest .any firstRefresh firstToken ∧
        unused.Accepts .cheapest .any firstRefresh firstToken ∧
        ∃ response, response.status = 401 ∧
          before.response? .cheapest .any firstRefresh = some response ∧
          unused.response? .cheapest .any firstRefresh = some response := by
  intro before deleted unused
  have logins : (before.response? .cheapest .any firstLogin).map Response.status = some 401 ∧
      (deleted.response? .cheapest .any firstLogin).map Response.status = some 401 ∧
      Form.login.read firstLogin = .ok ⟨firstAccount.email, firstAccount.password⟩ := by
    decide +kernel
  have refreshes : (before.response? .cheapest .any firstRefresh).map Response.status = some 401 ∧
      (unused.response? .cheapest .any firstRefresh).map Response.status = some 401 ∧
      Form.refresh.read firstRefresh = .ok firstToken ∧
      (TokenService.unsigned.validateRefresh .epoch firstToken).isOk = true := by
    decide +kernel
  rcases logins with ⟨first, second, read⟩
  rcases refreshes with ⟨third, fourth, token_read, valid⟩
  have isLogin : firstLogin.IsLogin := ⟨rfl, by decide +kernel, _, read⟩
  have isRefresh : firstRefresh.IsRefresh firstToken := ⟨rfl, by decide +kernel, token_read⟩
  have accepts (operations : List Operation) (schedule : List Nat) :
      (numberedCircumstances operations schedule).Accepts .cheapest .any firstRefresh
        firstToken := by
    intro turn _ _ _
    cases judged : TokenService.unsigned.validateRefresh .epoch firstToken with
    | ok claims => exact ⟨claims, judged⟩
    | error error =>
        rw [judged] at valid
        cases valid
  have indistinguishable {request : Request} {first second : Circumstances .unsigned}
      {response response' : Response}
      (answered : first.response? .cheapest .any request = some response)
      (answered' : second.response? .cheapest .any request = some response')
      (status : response.status = 401) (status' : response'.status = 401) :=
    refused_sessions_indistinguishable Argon2.Costs.least_accepted Hasher.argon2_least rfl answered
      answered' (by omega) (by omega)
  rcases Option.map_eq_some_iff.mp first with ⟨unknown, answered, status⟩
  rcases Option.map_eq_some_iff.mp second with ⟨gone, answered', status'⟩
  rcases Option.map_eq_some_iff.mp third with ⟨early, refreshed, late⟩
  rcases Option.map_eq_some_iff.mp fourth with ⟨never, refreshed', late'⟩
  have same := (indistinguishable answered answered' status status').1 isLogin isLogin
  have alike := (indistinguishable refreshed refreshed' late late').2 firstToken firstToken
    isRefresh isRefresh (accepts _ _) (accepts _ _)
  refine ⟨⟨isLogin, unknown, status, answered, same ▸ answered'⟩, isRefresh, accepts _ _,
    accepts _ _, early, late, refreshed, alike ▸ refreshed'⟩

end Http

end OrgAccess
