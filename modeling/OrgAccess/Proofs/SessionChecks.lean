import OrgAccess.Proofs.ConfiguredSessions
import OrgAccess.Proofs.TokenExpiry

/-!
# Checking a session and exchanging it

A refresh token is judged in two ways. A check asks the row of a user alone whether this is the token
of the session and still counts. An exchange reads the token first, with its own expiry in whole
seconds, and then asks the row of the user whom the token names.

Both come to the same because of what is stored. Whatever operations take turns, a session that a
user has is a refresh token which the service signed for that very user, and the instant beside it is
the expiry that the token claims (`Interleaved.keepsSessions`).

Main statement: in each state that operations reach by turns a live user's check of a text answers
yes exactly if the text names that user and would be exchanged at the same instant.
-/

namespace OrgAccess

/-- The session of a user, if there is one, is a refresh token that was signed for this user. -/
inductive User.SessionSigned (tokens : TokenService) (user : User) : Prop where
  | closed (token : user.refreshToken = none) (expires : user.refreshExpiresAt = none)
  | opened (issued expiry : Instant) (tokenId : Uuid)
      (token : user.refreshToken = some (Token.sign tokens.mac tokens.secret
        ⟨user.id, issued.seconds, expiry.seconds, tokenId, .refresh⟩))
      (expires : user.refreshExpiresAt = some expiry) (whole : expiry.nanos = 0)

/-- The sessions of all users were signed for them, those of deleted ones included. -/
def Store.SessionsSigned (tokens : TokenService) (store : Store) : Prop :=
  ∀ user ∈ store.users, user.SessionSigned tokens

/-- A text is a token of the service and names this user. -/
def TokenService.Names (tokens : TokenService) (token : String) (user : Uuid) : Prop :=
  ∃ claims limits, Token.open? tokens.mac tokens.secret token = .ok (claims, limits) ∧
    claims.userId = user

/-- A session that a call gives to a user, if it gives one, is as demanded. -/
def StoreCall.WritesSession (demanded : Uuid → String → Instant → Prop) : StoreCall → Prop
  | storeRefreshToken user token expiresAt => demanded user token expiresAt
  | rotateRefreshToken user _ token expiresAt => demanded user token expiresAt
  | _ => True

/-! ## What is stored -/

/-- An operation opens a session only with a pair that was issued for the user. -/
theorem Operation.Justifies.writesSession {operation : Operation} {history : History}
    {call : StoreCall} (because : operation.Justifies history call) :
    call.WritesSession fun user token expiresAt => ∃ pair, history.Issued user pair ∧
      pair.refreshToken = token ∧ pair.refreshExpiresAt = expiresAt := by
  cases call with
  | storeRefreshToken user token expiresAt =>
      cases operation with
      | login email password =>
          rcases because with ⟨user, pair, issued, ⟨⟩⟩
          exact ⟨pair, issued, rfl, rfl⟩
      | _ => simp [Justifies] at because
  | rotateRefreshToken user old token expiresAt =>
      cases operation with
      | refresh presented =>
          rcases because with ⟨user, pair, issued, ⟨⟩⟩
          exact ⟨pair, issued, rfl, rfl⟩
      | _ => simp [Justifies] at because
  | _ => trivial

namespace User.SessionSigned

variable {tokens : TokenService} {user other : User}

theorem of_same (signed : user.SessionSigned tokens) (id : other.id = user.id)
    (token : other.refreshToken = user.refreshToken)
    (expires : other.refreshExpiresAt = user.refreshExpiresAt) : other.SessionSigned tokens := by
  cases signed with
  | closed noToken noExpiry => exact .closed (token.trans noToken) (expires.trans noExpiry)
  | opened issued expiry tokenId isToken isExpiry whole =>
      exact .opened issued expiry tokenId (by rw [token, isToken, id]) (expires.trans isExpiry) whole

theorem of_issuePair {moment : Moment} {pair : TokenPair}
    (issued : tokens.issuePair moment user.id = .ok pair) :
    (Store.openSession pair.refreshToken pair.refreshExpiresAt user).SessionSigned tokens := by
  have possible := TokenService.canIssue_of_issuePair issued
  obtain ⟨expiry, expires⟩ := Option.isSome_iff_exists.mp possible.2
  obtain ⟨signed, seconds, whole⟩ := TokenService.refreshToken_eq issued expires
  refine .opened moment.now pair.refreshExpiresAt moment.refreshTokenId ?_ rfl whole
  simp only [Store.openSession, signed, seconds]

end User.SessionSigned

theorem Store.SessionsSigned.of_step {tokens : TokenService} {store : Store} {moment : Moment}
    {effect : Effect} {answer : effect.Answer} {users : List User}
    (step : UserStep store moment ⟨effect, answer⟩ users)
    (written : ∀ call, effect = .store call → call.isWrite = true →
      call.WritesSession fun user token expiresAt => ∃ moment pair,
        tokens.issuePair moment user = .ok pair ∧ pair.refreshToken = token ∧
          pair.refreshExpiresAt = expiresAt)
    (stored : store.SessionsSigned tokens) : ∀ user ∈ users, user.SessionSigned tokens := by
  have changed {id : Uuid} {change : User → User}
      (each : ∀ user, user.id = id → user.SessionSigned tokens →
        (change user).SessionSigned tokens) :
      ∀ user ∈ (store.modifyUser id change).users, user.SessionSigned tokens := by
    intro user mem
    rcases mem_updateFirst mem with mem | ⟨old, found, rfl⟩
    · exact stored user mem
    · exact each old (id_of_liveUser? found) (stored old (List.mem_of_find?_eq_some found))
  cases step with
  | keep leaves => exact stored
  | create =>
      intro user mem
      rcases List.mem_append.mp mem with mem | mem
      · exact stored user mem
      · obtain rfl := List.mem_singleton.mp mem
        exact .closed rfl rfl
  | update found => exact changed fun user _ signed => signed.of_same rfl rfl rfl
  | delete found => exact changed fun user _ signed => signed.of_same rfl rfl rfl
  | openSession found =>
      obtain ⟨moment, pair, issued, rfl, rfl⟩ := written _ rfl rfl
      refine changed fun user named _ => ?_
      subst named
      exact .of_issuePair issued
  | renewSession found current =>
      obtain ⟨moment, pair, issued, rfl, rfl⟩ := written _ rfl rfl
      refine changed fun user named _ => ?_
      subst named
      exact .of_issuePair issued
  | closeSession => exact changed fun user _ _ => .closed rfl rfl

/-- Whatever operations take turns, stored sessions stay signed for their users. -/
theorem TakingTurns.keepsSessions {hasher : Hasher} {tokens : TokenService}
    {moments : Nat → Moment} {operations : List Operation} {start world : World}
    {log : List Turn} {now : List (Program Outcome)}
    (run : TakingTurns hasher tokens moments operations start log now world)
    (stored : start.store.SessionsSigned tokens) : world.store.SessionsSigned tokens := by
  have each := TakingTurns.outcome_obeys operations (fun _ _ _ => True) fun _ operation _ =>
    operation.program_obeys.mono (fun _ _ _ allowed => allowed) fun _ _ _ _ => trivial
  induction run with
  | start => exact stored
  | @turn log now world position effect next run calls ih =>
      have step := System.inMemory_userStep hasher tokens moments effect world
      refine Store.SessionsSigned.of_step step (fun call same isWrite => ?_) ih
      obtain ⟨-, operation, -, because⟩ := (run.obeys each position _ calls).1 call same isWrite
      have writes := because.writesSession
      -- The pair that the operation was given came from the service, in an earlier turn.
      have given {user : Uuid} {pair : TokenPair} (issued : (historyOf log position).Issued user pair) :
          ∃ moment, tokens.issuePair moment user = .ok pair := by
        rcases run.exists_turn issued with ⟨turn, _, _, _, answer⟩
        exact ⟨moments turn.before.tick, answer.symm⟩
      cases call with
      | storeRefreshToken user token expiresAt =>
          rcases writes with ⟨pair, issued, same⟩
          exact (given issued).imp fun _ issued => ⟨pair, issued, same⟩
      | rotateRefreshToken user old token expiresAt =>
          rcases writes with ⟨pair, issued, same⟩
          exact (given issued).imp fun _ issued => ⟨pair, issued, same⟩
      | _ => trivial

/-! ## What is answered -/

namespace TokenService

variable {tokens : TokenService} {token : String} {now : Instant} {claims : Claims} {user : Uuid}

theorem validateRefresh_eq_ok_iff :
    tokens.validateRefresh now token = .ok claims ↔
      Token.parse tokens.mac tokens.secret now token = .ok claims ∧ claims.kind = .refresh := by
  unfold validateRefresh Token.checkKind
  cases Token.parse tokens.mac tokens.secret now token with
  | error error => simp [bind, Except.bind]
  | ok read =>
      simp only [bind, Except.bind, Except.ok.injEq]
      split <;> grind

theorem names_iff_of_validateRefresh (accepted : tokens.validateRefresh now token = .ok claims) :
    tokens.Names token user ↔ claims.userId = user := by
  obtain ⟨limits, opened, -⟩ := Token.open?_of_accepted (validateRefresh_eq_ok_iff.mp accepted).1
  simp [Names, opened]

end TokenService

/-- From 1970 on the token of a session that counts is accepted, and names the user. -/
theorem User.SessionSigned.exists_claims {tokens : TokenService} {user : User}
    (signed : user.SessionSigned tokens) {token : String} {now : Instant}
    (since : 0 ≤ now.seconds) (current : user.refreshTokenMatches token now = true) :
    ∃ claims, tokens.validateRefresh now token = .ok claims ∧ claims.userId = user.id := by
  cases signed with
  | closed noToken => simp [refreshTokenMatches, noToken] at current
  | opened issued expiry tokenId isToken isExpiry whole =>
      simp only [refreshTokenMatches, isToken, isExpiry, Bool.and_eq_true, beq_iff_eq,
        decide_eq_true_eq, Instant.lt_def, whole] at current
      obtain ⟨⟨-, rfl⟩, counts⟩ := current
      have fit := TokenService.timesFit_of_instants user.id tokenId .refresh issued expiry
      -- The expiry that is stored has no part of a second, so a strict comparison is one of seconds.
      have later : now.seconds < expiry.seconds := by omega
      have nonneg : 0 ≤ expiry.seconds := Int.le_trans since (Int.le_of_lt later)
      have parsed := Token.parse_sign tokens.mac tokens.secret fit nonneg (Int.le_of_lt later)
      exact ⟨_, TokenService.validateRefresh_eq_ok_iff.mpr ⟨parsed, rfl⟩, rfl⟩

section Runs

variable {hasher : Hasher} {tokens : TokenService} {moments : Nat → Moment} {store : Store}
  {user : User} {id : Uuid} {now : Instant}

theorem run_checkRefreshToken (live : store.liveUser? id = some user) (hasher : Hasher)
    (tokens : TokenService) (moments : Nat → Moment) (token : String) (tick : Nat) :
    ((Operation.checkRefreshToken id token).program.run
      ((System.inMemory hasher tokens).handler moments) ⟨store, tick⟩).1 =
        .ok (user.refreshTokenMatches token (moments (tick + 1)).now) := by
  let handler := (System.inMemory hasher tokens).handler moments
  have looked : (Program.effect (.store (.findUser id))).run handler ⟨store, tick⟩ =
      (.ok (some user), ⟨store, tick + 1⟩) := by
    rw [← live]
    rfl
  change ((ExceptT.run (Workflow.isCurrentRefreshToken id token)).run handler _).1 = _
  rw [Workflow.isCurrentRefreshToken, Workflow.store, Workflow.run_lift_bind, looked]
  rfl

/-- While the clock stands still, a token is exchanged if it counts by its claims and by the row. -/
theorem run_refresh_succeeds_iff (still : ∀ tick, (moments tick).now = now)
    (possible : tokens.CanIssue now) (token : String) (tick : Nat) :
    (∃ renewal, ((Operation.refresh token).program.run
        ((System.inMemory hasher tokens).handler moments) ⟨store, tick⟩).1 = .ok renewal) ↔
      ∃ claims holder, tokens.validateRefresh now token = .ok claims ∧
        store.liveUser? claims.userId = some holder ∧
          holder.refreshTokenMatches token now = true := by
  rw [run_refresh]
  dsimp only
  rw [still]
  cases tokens.validateRefresh now token with
  | error error => simp
  | ok claims =>
      rw [← still (tick + 1)] at possible
      obtain ⟨pair, issued⟩ := TokenService.exists_pair possible claims.userId
      simp only [issued, Store.rotateRefreshToken, still, Except.ok.injEq, exists_and_left,
        exists_eq_left']
      cases store.liveUser? claims.userId with
      | none => simp
      | some holder =>
          by_cases current : holder.refreshTokenMatches token now = true <;> simp [current]

theorem refreshTokenMatches_iff_exchanged (signed : user.SessionSigned tokens)
    (live : store.liveUser? id = some user) (still : ∀ tick, (moments tick).now = now)
    (since : 0 ≤ now.seconds) (possible : tokens.CanIssue now) (token : String) (tick : Nat) :
    user.refreshTokenMatches token now = true ↔
      tokens.Names token id ∧ ∃ renewal, ((Operation.refresh token).program.run
        ((System.inMemory hasher tokens).handler moments) ⟨store, tick⟩).1 = .ok renewal := by
  rw [run_refresh_succeeds_iff still possible]
  constructor
  · intro current
    obtain ⟨claims, accepted, named⟩ := signed.exists_claims since current
    rw [Store.id_of_liveUser? live] at named
    refine ⟨(TokenService.names_iff_of_validateRefresh accepted).mpr named, claims, user, accepted,
      ?_, current⟩
    rw [named, live]
  · rintro ⟨names, claims, holder, accepted, found, current⟩
    obtain rfl := (TokenService.names_iff_of_validateRefresh accepted).mp names
    obtain rfl := Option.some.inj (live.symm.trans found)
    exact current

end Runs

/--
In each state that operations reach by turns, a user has both a refresh token and its expiry or
neither, and the token was signed for this user as a refresh token with that expiry. So, with any
clock that stands still from 1970 on, at an instant at which tokens can be issued, the check of a
text for a live user answers yes exactly if the text names the user and would be exchanged.
-/
theorem session_checks_agree (hasher : Hasher) (tokens : TokenService) (moments : Nat → Moment)
    (operations : List Operation) (schedule : List Nat) :
    let reached := (Program.interleave ((System.inMemory hasher tokens).handler moments) schedule
      (operations.map Operation.outcome) {}).2.store
    reached.SessionsSigned tokens ∧
      ∀ (clock : Nat → Moment) (now : Instant) (tick : Nat), (∀ tick, (clock tick).now = now) →
        0 ≤ now.seconds → tokens.CanIssue now →
          let answer (operation : Operation) := (operation.program.run
            ((System.inMemory hasher tokens).handler clock) ⟨reached, tick⟩).1
          ∀ id user, reached.liveUser? id = some user → ∀ token,
            ∃ current, answer (.checkRefreshToken id token) = .ok current ∧
              (current = true ↔
                tokens.Names token id ∧ ∃ renewal, answer (.refresh token) = .ok renewal) := by
  intro reached
  have run : SideBySide hasher tokens moments operations _ _ _ :=
    Interleaved.ofSchedule ((System.inMemory hasher tokens).handler moments) schedule
      (operations.map Operation.outcome) {}
  have signed : reached.SessionsSigned tokens := run.keepsSessions fun user mem => by cases mem
  refine ⟨signed, fun clock now tick still since possible => ?_⟩
  intro answer id user live token
  refine ⟨_, run_checkRefreshToken live hasher tokens clock token tick, ?_⟩
  rw [still]
  exact refreshTokenMatches_iff_exchanged (signed user (Store.mem_of_liveUser? live)) live still
    since possible token tick

/-- The first admin registers and logs in. -/
def firstSession : List Operation :=
  [.register none founding, .login founding.email founding.password]

/-- The refresh token of the first login counts, and the access token that came with it does not. -/
theorem firstSession_checks_agree :
    let handler := (System.inMemory .plain .unsigned).handler .numbered
    let schedule := [0, 0, 0, 1, 1, 1, 1]
    let reached :=
      (Program.interleave handler schedule (firstSession.map Operation.outcome) {}).2.store
    let answer (operation : Operation) := (operation.program.run handler ⟨reached, 7⟩).1
    let pair := (TokenService.unsigned.issuePair (.numbered 5) ⟨2⟩).toOption.getD ⟨"", "", .epoch⟩
    (∀ tick, (Moment.numbered tick).now = .epoch) ∧ TokenService.unsigned.CanIssue .epoch ∧
      ∃ user, reached.liveUser? ⟨2⟩ = some user ∧
        (answer (.checkRefreshToken ⟨2⟩ pair.refreshToken) = .ok true ∧
          TokenService.unsigned.Names pair.refreshToken ⟨2⟩ ∧
          ∃ renewal, answer (.refresh pair.refreshToken) = .ok renewal) ∧
        answer (.checkRefreshToken ⟨2⟩ pair.accessToken) = .ok false ∧
          ¬(TokenService.unsigned.Names pair.accessToken ⟨2⟩ ∧
            ∃ renewal, answer (.refresh pair.accessToken) = .ok renewal) := by
  intro handler schedule reached answer pair
  have still (tick : Nat) : (Moment.numbered tick).now = .epoch := rfl
  have possible : TokenService.unsigned.CanIssue .epoch := ⟨by decide, by decide⟩
  obtain ⟨-, agree⟩ := session_checks_agree .plain .unsigned .numbered firstSession schedule
  have found : (reached.liveUser? ⟨2⟩).isSome := by decide +kernel
  obtain ⟨user, live⟩ := Option.isSome_iff_exists.mp found
  have checks := agree .numbered .epoch 7 still (by decide) possible ⟨2⟩ user live
  have current : answer (.checkRefreshToken ⟨2⟩ pair.refreshToken) = .ok true := by decide +kernel
  have other : answer (.checkRefreshToken ⟨2⟩ pair.accessToken) = .ok false := by decide +kernel
  refine ⟨still, possible, user, live, ⟨current, ?_⟩, other, ?_⟩
  · obtain ⟨answered, told, agrees⟩ := checks pair.refreshToken
    exact agrees.mp (Except.ok.inj (told.symm.trans current))
  · obtain ⟨answered, told, agrees⟩ := checks pair.accessToken
    obtain rfl := Except.ok.inj (told.symm.trans other)
    exact fun exchanged => Bool.false_ne_true (agrees.mpr exchanged)

end OrgAccess
