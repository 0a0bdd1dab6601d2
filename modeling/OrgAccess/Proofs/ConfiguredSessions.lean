import OrgAccess.Proofs.LoginHistory
import OrgAccess.Proofs.Settings

/-!
# Sessions under a configuration

A configuration that is accepted has positive lifetimes, and the server starts only if tokens that
were issued at that instant would expire in range. Whether a session that is opened later can be
used is told by the instant: its tokens must expire in range, and the expiry of the refresh token
counts in whole seconds, so it has to lie in a later second than the login. A lifetime of a second
reaches that far; a shorter one need not, and then the session is over when it begins.
-/

namespace OrgAccess

/-! ## Lifetimes -/

namespace Configuration

variable {configuration : Configuration} {startup : Instant} {tokens : TokenService}

theorem lifetime_eq {now : Instant} {key : String} {duration : Duration} {lifetime : Lifetime}
    (given : Configuration.lifetime now key duration = .ok lifetime) :
    lifetime = ⟨duration.nanos⟩ ∧ (now.add? lifetime).isSome := by
  unfold Configuration.lifetime at given
  split at given
  · cases given
  · split at given
    · rename_i expires
      cases given
      exact ⟨rfl, Option.isSome_of_eq_some expires⟩
    · cases given

/-- A server that starts has the configured lifetimes and could issue tokens at once. -/
theorem started_spec (started : configuration.tokenService startup = .ok tokens) :
    tokens.accessLifetime = ⟨configuration.tokens.accessTtl.nanos⟩ ∧
      tokens.refreshLifetime = ⟨configuration.tokens.refreshTtl.nanos⟩ ∧
      tokens.CanIssue startup := by
  unfold tokenService at started
  obtain ⟨access, access_given, started⟩ := exists_of_bind_eq_ok started
  obtain ⟨refresh, refresh_given, started⟩ := exists_of_bind_eq_ok started
  cases started
  obtain ⟨access_eq, access_expires⟩ := lifetime_eq access_given
  obtain ⟨refresh_eq, refresh_expires⟩ := lifetime_eq refresh_given
  exact ⟨access_eq, refresh_eq, access_expires, refresh_expires⟩

end Configuration

/-! ## Refresh tokens -/

namespace TokenService

variable {tokens : TokenService} {moment : Moment} {user : Uuid} {pair : TokenPair}

/-- A pair is issued only if both of its tokens expire in range. -/
theorem canIssue_of_issuePair (issued : tokens.issuePair moment user = .ok pair) :
    tokens.CanIssue moment.now := by
  obtain ⟨access, access_made, issued⟩ := exists_of_bind_eq_ok issued
  obtain ⟨refresh, refresh_made, -⟩ := exists_of_bind_eq_ok issued
  have expires {kind : TokenKind} {id : Uuid} {lifetime : Lifetime} {claims : Claims}
      (made : claimsFor kind user id moment.now lifetime = .ok claims) :
      (moment.now.add? lifetime).isSome := by
    cases expiry : moment.now.add? lifetime with
    | none => simp [claimsFor, Claims.issue?, expiry] at made
    | some expiry => rfl
  exact ⟨expires access_made, expires refresh_made⟩

/-- The refresh token of a new pair and the instant that is stored with it, to the whole second. -/
theorem refreshToken_eq (issued : tokens.issuePair moment user = .ok pair) {expiry : Instant}
    (expires : moment.now.add? tokens.refreshLifetime = some expiry) :
    pair.refreshToken = Token.sign tokens.mac tokens.secret
        ⟨user, moment.now.seconds, expiry.seconds, moment.refreshTokenId, .refresh⟩ ∧
      pair.refreshExpiresAt.seconds = expiry.seconds ∧ pair.refreshExpiresAt.nanos = 0 := by
  obtain ⟨access, -, issued⟩ := exists_of_bind_eq_ok issued
  obtain ⟨claims, made, issued⟩ := exists_of_bind_eq_ok issued
  rw [claimsFor_of_expiry expires] at made
  obtain rfl := Except.ok.inj made
  split at issued
  · cases issued
  · rename_i found
    obtain rfl := Except.ok.inj issued
    exact ⟨rfl, Instant.ofUnix?_eq_some_iff.mp found⟩

/-- How a new refresh token is judged at an instant. -/
theorem validateRefresh_of_issuePair (issued : tokens.issuePair moment user = .ok pair)
    {expiry : Instant} (expires : moment.now.add? tokens.refreshLifetime = some expiry)
    (now : Instant) :
    tokens.validateRefresh now pair.refreshToken =
      if expiry.seconds < 0 then .error (.invalid Token.Flaw.missingExpiry.message)
      else if expiry.seconds < now.seconds then .error .expired
      else .ok ⟨user, moment.now.seconds, expiry.seconds, moment.refreshTokenId, .refresh⟩ := by
  have fit := timesFit_of_instants user moment.refreshTokenId .refresh moment.now expiry
  rw [(refreshToken_eq issued expires).1, validateRefresh, Token.parse_sign_eq _ _ fit]
  dsimp only
  split
  · rfl
  · split <;> rfl

end TokenService

/-- A session that was opened with a new pair can be used before the second of its expiry. -/
theorem Store.refreshTokenMatches_openSession {tokens : TokenService} {moment : Moment} {id : Uuid}
    {pair : TokenPair} (issued : tokens.issuePair moment id = .ok pair) {expiry : Instant}
    (expires : moment.now.add? tokens.refreshLifetime = some expiry) (user : User)
    (now : Instant) :
    (openSession pair.refreshToken pair.refreshExpiresAt user).refreshTokenMatches
      pair.refreshToken now = decide (now.seconds < expiry.seconds) := by
  obtain ⟨signed, seconds, nanos⟩ := TokenService.refreshToken_eq issued expires
  have nonempty : pair.refreshToken ≠ "" := signed ▸ Token.sign_ne_empty _ _ _
  have inTime : now < pair.refreshExpiresAt ↔ now.seconds < expiry.seconds := by
    rw [Instant.lt_def, seconds, nanos]
    omega
  simp [User.refreshTokenMatches, openSession, nonempty, inTime]

/-! ## Runs -/

section Runs

variable {hasher : Hasher} {tokens : TokenService} {moments : Nat → Moment} {world : World}
  {email password : String} {user : User}

/-- How a refresh runs, as far as it comes. -/
theorem run_refresh (hasher : Hasher) (tokens : TokenService) (moments : Nat → Moment)
    (token : String) (world : World) :
    (Operation.refresh token).program.run ((System.inMemory hasher tokens).handler moments) world =
      match tokens.validateRefresh (moments world.tick).now token with
      | .error _ => (.error .refreshTokenUnusable, { world with tick := world.tick + 1 })
      | .ok claims =>
        match tokens.issuePair (moments (world.tick + 1)) claims.userId with
        | .error error => (.error (.ofToken error), { world with tick := world.tick + 2 })
        | .ok pair =>
          let rotated := world.store.rotateRefreshToken (moments (world.tick + 2)) claims.userId
            token pair.refreshToken pair.refreshExpiresAt
          (if rotated.1 then .ok ⟨pair.accessToken, pair.refreshToken⟩
            else .error .refreshTokenRejected, ⟨rotated.2, world.tick + 3⟩) := by
  let handler := (System.inMemory hasher tokens).handler moments
  have checked : (Program.effect (.checkToken .refresh token)).run handler world =
      (tokens.validateRefresh (moments world.tick).now token,
        { world with tick := world.tick + 1 }) := rfl
  change (ExceptT.run (Workflow.refresh token)).run handler world = _
  rw [Workflow.refresh, Workflow.run_lift_bind, checked]
  cases tokens.validateRefresh (moments world.tick).now token with
  | error error => rfl
  | ok claims =>
      have issued : (Program.effect (.issueTokens claims.userId)).run handler
          { world with tick := world.tick + 1 } =
          (tokens.issuePair (moments (world.tick + 1)) claims.userId,
            { world with tick := world.tick + 2 }) := rfl
      dsimp only
      rw [Workflow.issueTokens, Workflow.run_lift_bind, issued]
      cases tokens.issuePair (moments (world.tick + 1)) claims.userId with
      | error error => rfl
      | ok pair =>
          let call := StoreCall.rotateRefreshToken claims.userId token pair.refreshToken
            pair.refreshExpiresAt
          have rotated : (Program.effect (.store call)).run handler
              { world with tick := world.tick + 2 } =
                ((world.store.perform (moments (world.tick + 2)) call).1,
                  ⟨(world.store.perform (moments (world.tick + 2)) call).2, world.tick + 3⟩) := rfl
          dsimp only
          rw [Workflow.store, Workflow.run_lift_bind, rotated]
          simp only [call, Store.perform, answered]
          cases (world.store.rotateRefreshToken (moments (world.tick + 2)) claims.userId token
            pair.refreshToken pair.refreshExpiresAt).1 with
          | true => rfl
          | false => rfl

theorem Store.exists_liveUser?_of_email {store : Store}
    (found : store.liveUserByEmail? email = some user) :
    ∃ live, store.liveUser? user.id = some live := by
  have mem := List.mem_of_find?_eq_some found
  have passes : (user.isLive && user.email == email) = true :=
    List.find?_some (p := fun user : User => user.isLive && user.email == email) found
  have isLive : user.isLive = true := (Bool.and_eq_true_iff.mp passes).1
  apply Option.isSome_iff_exists.mp
  exact List.find?_isSome.mpr ⟨user, mem, isLiveUser_iff.mpr ⟨isLive, rfl⟩⟩

/-- A login succeeds, and so does a refresh with the token that it gave away. -/
def OpensSession (hasher : Hasher) (tokens : TokenService) (moments : Nat → Moment) (world : World)
    (email password : String) : Prop :=
  let handler := (System.inMemory hasher tokens).handler moments
  let entered := (Operation.login email password).program.run handler world
  ∃ login renewal, entered.1 = .ok login ∧
    ((Operation.refresh login.refreshToken).program.run handler entered.2).1 = .ok renewal

/-- A new session can be refreshed at once exactly if its token expires in a later second. -/
theorem refresh_opened_iff (hasher : Hasher) {now : Instant}
    (still : ∀ tick, (moments tick).now = now) {store : Store} {id : Uuid}
    (live : store.liveUser? id = some user) {moment : Moment} {pair : TokenPair}
    (issued : tokens.issuePair moment id = .ok pair) (same : moment.now = now) {expiry : Instant}
    (expires : now.add? tokens.refreshLifetime = some expiry) (tick : Nat) :
    (∃ renewal, ((Operation.refresh pair.refreshToken).program.run
        ((System.inMemory hasher tokens).handler moments)
        ⟨store.modifyUser id (Store.openSession pair.refreshToken pair.refreshExpiresAt), tick⟩).1 =
          .ok renewal) ↔ 0 ≤ expiry.seconds ∧ now.seconds < expiry.seconds := by
  subst same
  have judged := TokenService.validateRefresh_of_issuePair issued expires moment.now
  have possible := TokenService.canIssue_of_issuePair issued
  rw [← still (tick + 1)] at possible
  obtain ⟨next, renewed⟩ := TokenService.exists_pair possible id
  have matched := Store.refreshTokenMatches_openSession issued expires user moment.now
  have opened : (store.modifyUser id
      (Store.openSession pair.refreshToken pair.refreshExpiresAt)).liveUser? id =
        some (Store.openSession pair.refreshToken pair.refreshExpiresAt user) :=
    Store.liveUser?_openSession live
  rw [run_refresh]
  dsimp only
  rw [still, judged]
  by_cases negative : expiry.seconds < 0
  · rw [if_pos negative]
    exact iff_of_false (fun ⟨_, gives⟩ => nomatch gives) (by omega)
  by_cases late : expiry.seconds < moment.now.seconds
  · rw [if_neg negative, if_pos late]
    exact iff_of_false (fun ⟨_, gives⟩ => nomatch gives) (by omega)
  rw [if_neg negative, if_neg late]
  simp only [renewed, Store.rotateRefreshToken, opened, still, matched, decide_eq_true_eq]
  by_cases inTime : moment.now.seconds < expiry.seconds
  · simp [inTime]
    omega
  · simp [inTime]

/--
While the clock stands still, a user who knows the password opens a session exactly if both tokens
expire in range and the refresh token does so in a later second, not before 1970.
-/
theorem opensSession_iff {now : Instant} (still : ∀ tick, (moments tick).now = now)
    (found : world.store.liveUserByEmail? email = some user)
    (right : hasher.verify user.passwordHash password = .ok true) :
    OpensSession hasher tokens moments world email password ↔
      tokens.CanIssue now ∧ ∃ expiry, now.add? tokens.refreshLifetime = some expiry ∧
        0 ≤ expiry.seconds ∧ now.seconds < expiry.seconds := by
  obtain ⟨live, isLive⟩ := Store.exists_liveUser?_of_email found
  have entered := run_login hasher tokens moments email password world
  simp only [found, right, isLive] at entered
  have same := still (world.tick + 2)
  unfold OpensSession
  dsimp only
  rw [entered]
  cases first : tokens.issuePair (moments (world.tick + 2)) user.id with
  | error error =>
      refine iff_of_false ?_ fun ⟨possible, _⟩ => ?_
      · rintro ⟨_, _, ⟨⟩, _⟩
      · rw [← same] at possible
        obtain ⟨pair, issued⟩ := TokenService.exists_pair possible user.id
        exact nomatch first.symm.trans issued
  | ok pair =>
      have possible := TokenService.canIssue_of_issuePair first
      rw [same] at possible
      obtain ⟨expiry, expires⟩ := Option.isSome_iff_exists.mp possible.2
      have refreshed :=
        refresh_opened_iff hasher still isLive first same expires (world.tick + 4)
      constructor
      · rintro ⟨login, renewal, ⟨⟩, gives⟩
        exact ⟨possible, expiry, expires, refreshed.mp ⟨renewal, gives⟩⟩
      · rintro ⟨-, expiry', expires', counts⟩
        obtain rfl := Option.some.inj (expires.symm.trans expires')
        obtain ⟨renewal, gives⟩ := refreshed.mpr counts
        exact ⟨_, renewal, rfl, gives⟩

end Runs

/--
Under an accepted configuration with which a server has started, the lifetime of refresh tokens is
positive and tokens could be issued at the start. At any instant, the clock standing still, a live
user who knows the password logs in and refreshes the session exactly if tokens that are issued then
expire in range and the lifetime reaches the next second, not before 1970. From 1970 on this is so
for every lifetime of a second or more.
-/
theorem configured_sessions_usable_iff {lookup : String → Option String}
    {configuration : Configuration} (accepted : Configuration.ofLookup lookup = .ok configuration)
    {startup : Instant} {tokens : TokenService}
    (started : configuration.tokenService startup = .ok tokens) {hasher : Hasher}
    {moments : Nat → Moment} {now : Instant} (still : ∀ tick, (moments tick).now = now)
    {world : World} {email password : String} {user : User}
    (found : world.store.liveUserByEmail? email = some user)
    (right : hasher.verify user.passwordHash password = .ok true) :
    let lifetime := configuration.tokens.refreshTtl.nanos
    0 < lifetime ∧ tokens.CanIssue startup ∧
      (OpensSession hasher tokens moments world email password ↔
        tokens.CanIssue now ∧ 1000000000 ≤ now.nanos % 1000000000 + lifetime ∧
          0 ≤ now.seconds + ((now.nanos % 1000000000 + lifetime) / 1000000000 : Nat)) ∧
      (1000000000 ≤ lifetime → 0 ≤ now.seconds → tokens.CanIssue now →
        OpensSession hasher tokens moments world email password) := by
  intro lifetime
  obtain ⟨-, isRefresh, atStart⟩ := Configuration.started_spec started
  have opens : OpensSession hasher tokens moments world email password ↔
      tokens.CanIssue now ∧ 1000000000 ≤ now.nanos % 1000000000 + lifetime ∧
        0 ≤ now.seconds + ((now.nanos % 1000000000 + lifetime) / 1000000000 : Nat) := by
    rw [opensSession_iff still found right]
    refine and_congr_right fun possible => ?_
    obtain ⟨expiry, expires⟩ := Option.isSome_iff_exists.mp possible.2
    have seconds : expiry.seconds = now.seconds +
        ((now.nanos % 1000000000 + lifetime) / 1000000000 : Nat) := by
      rw [isRefresh] at expires
      rw [Instant.seconds_of_add? expires (Int.natCast_nonneg _)]
      rfl
    simp only [expires, Option.some.injEq, exists_eq_left', seconds]
    omega
  refine ⟨(Configuration.lifetimes_pos accepted).2, atStart, opens, fun isLong since possible => ?_⟩
  exact opens.mpr ⟨possible, by omega, by omega⟩

/-! ## A short lifetime -/

/-- The token service of a plain configuration. -/
def plainTokens (refreshTtl : Duration) : TokenService where
  mac := .sha256
  secret := "test-secret-key-at-least-32-bytes-long"
  accessLifetime := ⟨86400000000000⟩
  refreshLifetime := ⟨refreshTtl.nanos⟩

/-- A clock that stands still. -/
def Moment.stopped (now : Instant) (tick : Nat) : Moment :=
  { Moment.numbered tick with now }

/-- The state in which the first admin has registered. -/
def founded (tokens : TokenService) (now : Instant) : World :=
  ((Operation.register none founding).program.run
    ((System.inMemory .plain tokens).handler (.stopped now)) {}).2

theorem founded_account (tokens : TokenService) (now : Instant) :
    ∃ user, (founded tokens now).store.liveUserByEmail? "ada@example.org" = some user ∧
      Hasher.plain.verify user.passwordHash "first key" = .ok true :=
  ⟨_, rfl, rfl⟩

/-- When the server starts. -/
def startOfYear : Instant where
  seconds := 1704067200
  nanos := 0

/-- A tenth of a second later. -/
def afterStart : Instant where
  seconds := 1704067200
  nanos := 100000000

/-- A session of one second can be used when it was opened. -/
theorem secondSession_usable :
    let tokens := plainTokens ⟨1000000000⟩
    Configuration.ofLookup (plainEnvironment "1s") = .ok (plainConfiguration ⟨1000000000⟩) ∧
      (plainConfiguration ⟨1000000000⟩).tokenService startOfYear = .ok tokens ∧
      OpensSession .plain tokens (.stopped afterStart) (founded tokens afterStart)
        "ada@example.org" "first key" := by
  intro tokens
  have accepted : Configuration.ofLookup (plainEnvironment "1s") =
      .ok (plainConfiguration ⟨1000000000⟩) := by decide +kernel
  have started : (plainConfiguration ⟨1000000000⟩).tokenService startOfYear = .ok tokens := rfl
  obtain ⟨user, found, right⟩ := founded_account tokens afterStart
  have still (tick : Nat) : (Moment.stopped afterStart tick).now = afterStart := rfl
  have usable := configured_sessions_usable_iff accepted started still found right
  exact ⟨accepted, started, usable.2.2.2 (by decide) (by decide) ⟨by decide, by decide⟩⟩

/-- A session of a quarter of a second is accepted and may be over when it was opened. -/
theorem quarterSession_over :
    let tokens := plainTokens ⟨250000000⟩
    Configuration.ofLookup (plainEnvironment "250ms") = .ok (plainConfiguration ⟨250000000⟩) ∧
      (plainConfiguration ⟨250000000⟩).tokenService startOfYear = .ok tokens ∧
      startOfYear < afterStart ∧ tokens.CanIssue afterStart ∧
      (∃ user,
        (founded tokens afterStart).store.liveUserByEmail? "ada@example.org" = some user ∧
          Hasher.plain.verify user.passwordHash "first key" = .ok true) ∧
      ¬OpensSession .plain tokens (.stopped afterStart) (founded tokens afterStart)
        "ada@example.org" "first key" := by
  intro tokens
  have accepted : Configuration.ofLookup (plainEnvironment "250ms") =
      .ok (plainConfiguration ⟨250000000⟩) := by decide +kernel
  have account := founded_account tokens afterStart
  have possible : tokens.CanIssue afterStart := ⟨by decide, by decide⟩
  refine ⟨accepted, rfl, by decide, possible, account, fun opens => ?_⟩
  obtain ⟨user, found, right⟩ := account
  have still (tick : Nat) : (Moment.stopped afterStart tick).now = afterStart := rfl
  obtain ⟨-, expiry, expires, -, later⟩ := (opensSession_iff still found right).mp opens
  -- The expiry is in the very second of the login.
  have seconds := Instant.seconds_of_add? expires (by decide)
  rw [seconds] at later
  exact absurd later (by decide)

end OrgAccess
