import OrgAccess.Proofs.Addresses
import OrgAccess.Proofs.Chronicle
import OrgAccess.Proofs.TokenReading

/-!
# Logging in

Who logs in with an address and a password is told by what has happened. The address is that of one
live user at most, and the password of a user is the one that was given last, when the user was
registered or at a later change. The store keeps a hash of it, so with a hasher that tells any two
passwords apart a login succeeds exactly with this password (`Store.KeepsPasswords`).

Main statement: this holds after any operations that ran one after the other. A login that succeeds
opens a session with the refresh token that it gives away, and its access token authenticates the
user; one that does not succeed changes nothing and does not say why.
-/

namespace OrgAccess

/-- A hasher whose hashes fit the password that they were made of, and no other. -/
def Hasher.Ideal (hasher : Hasher) : Prop :=
  ∀ hash password other, hasher.Hashes hash password →
    hasher.verify hash other = .ok (password == other)

namespace Outcome

/-- A user was successfully given a password, at its registration or later. -/
inductive SetsPassword (id : Uuid) (password : String) : Outcome → Prop where
  | registered {createdBy input user} (named : user.id = id) (given : input.password = password) :
      SetsPassword id password ⟨.register createdBy input, .ok user⟩
  | changed {caller patch user} (given : patch.password = some password) :
      SetsPassword id password ⟨.updateUser caller id patch, .ok user⟩

/-- The password that was given to a user last. -/
def LatestPassword (outcomes : List Outcome) (id : Uuid) (password : String) : Prop :=
  Stands (SetsPassword id password) (fun outcome => ∃ any, outcome.SetsPassword id any) outcomes

theorem LatestPassword.unique {outcomes : List Outcome} {id : Uuid} {first second : String}
    (first_latest : LatestPassword outcomes id first)
    (second_latest : LatestPassword outcomes id second) : first = second := by
  refine stands_unique ?_ first_latest second_latest
  intro outcome first second sets sets'
  cases sets with
  | registered _ given =>
      cases sets' with
      | registered _ given' => exact given.symm.trans given'
  | changed given =>
      cases sets' with
      | changed given' => exact Option.some.inj (given.symm.trans given')

end Outcome

/-- Every user has a hash of the password that was given to it last. -/
def Store.KeepsPasswords (hasher : Hasher) (outcomes : List Outcome) (store : Store) : Prop :=
  ∀ user ∈ store.users, ∃ password, Outcome.LatestPassword outcomes user.id password ∧
    hasher.Hashes user.passwordHash password

section Passwords

variable {hasher : Hasher} {tokens : TokenService} {moments : Nat → Moment} {before after : Store}
  {outcomes : List Outcome} {outcome : Outcome} {user : User}

/-- A changed user has a hash of the new password, or the old hash when there is none. -/
theorem UserPatch.Asks.password_cases {patch : UserPatch} {target : User} {changes : UserChanges}
    (asks : patch.Asks hasher target changes) (now : Instant) :
    (∃ password, patch.password = some password ∧
        hasher.Hashes (changes.apply now target).passwordHash password) ∨
      patch.password = none ∧ target.passwordHash = (changes.apply now target).passwordHash := by
  have rel := asks.password
  rw [UserChanges.apply]
  generalize changes.passwordHash = hash, patch.password = given at rel ⊢
  cases rel with
  | some hashes => exact Or.inl ⟨_, rfl, hashes⟩
  | none => exact Or.inr ⟨rfl, rfl⟩

theorem Store.mem_modifyUser_of_same {id : Uuid} {change : User → User}
    (same : ∀ user, (change user).id = user.id ∧ (change user).passwordHash = user.passwordHash)
    (mem : user ∈ (before.modifyUser id change).users) :
    ∃ old ∈ before.users, old.id = user.id ∧ old.passwordHash = user.passwordHash := by
  rcases mem_updateFirst mem with mem | ⟨old, found, rfl⟩
  · exact ⟨user, mem, rfl, rfl⟩
  · exact ⟨old, List.mem_of_find?_eq_some found, (same old).1.symm, (same old).2.symm⟩

/-- The hash of a user is of the password that an operation sets, or the one that was there. -/
theorem Outcome.Explains.password_cases
    (explains : outcome.Explains hasher tokens moments before after) (distinct : after.Distinct)
    (mem : user ∈ after.users) :
    (∃ password, outcome.SetsPassword user.id password ∧
        hasher.Hashes user.passwordHash password) ∨
      (¬∃ any, outcome.SetsPassword user.id any) ∧
        ∃ old ∈ before.users, old.id = user.id ∧ old.passwordHash = user.passwordHash := by
  rcases outcome with ⟨operation, failure | value⟩
  · obtain rfl : after = before := explains
    refine Or.inr ⟨?_, user, mem, rfl, rfl⟩
    rintro ⟨any, ⟨⟩⟩
  · have achieves : operation.Achieves hasher tokens moments before value after := explains
    cases achieves with
    | shown reads =>
        refine Or.inr ⟨?_, user, mem, rfl, rfl⟩
        rintro ⟨any, sets⟩
        cases sets with
        | registered => cases reads
        | changed => cases reads
    | @registered createdBy input data tick asks free =>
        rcases List.mem_append.mp mem with old | new
        · refine Or.inr ⟨?_, user, old, rfl, rfl⟩
          rintro ⟨any, sets⟩
          cases sets with
          | registered named _ =>
              -- Otherwise the new identifier would be there twice.
              have fresh := distinct.users
              rw [List.map_append, List.nodup_append] at fresh
              exact fresh.2.2 _ (List.mem_map_of_mem old) _ (List.mem_singleton.mpr rfl) named.symm
        · obtain rfl := List.mem_singleton.mp new
          exact Or.inl ⟨input.password, .registered rfl rfl, asks.password⟩
    | @userUnchanged caller id patch target found asks =>
        refine Or.inr ⟨?_, user, mem, rfl, rfl⟩
        rintro ⟨any, sets⟩
        cases sets with
        | changed given =>
            have rel := asks.password
            rw [given] at rel
            cases rel
    | @userUpdated caller id patch target changes tick found asks free =>
        by_cases same : user.id = id
        · -- The one user with this identifier is the changed one.
          obtain rfl : user = changes.apply (moments tick).now target :=
            distinct.user_eq mem (Store.changed_mem_updateFirst found)
              (same.trans (Store.id_of_liveUser? found).symm)
          rcases asks.password_cases (moments tick).now with
            ⟨password, given, hashes⟩ | ⟨nothing, kept⟩
          · exact Or.inl ⟨password, same ▸ .changed given, hashes⟩
          · refine Or.inr ⟨?_, target, Store.mem_of_liveUser? found, rfl, kept⟩
            rintro ⟨any, sets⟩
            cases sets with
            | changed given => exact nomatch given.symm.trans nothing
        · refine Or.inr ⟨?_, ?_⟩
          · rintro ⟨any, sets⟩
            cases sets
            exact same rfl
          · rcases Store.mem_updateFirst mem with old | ⟨old, found, rfl⟩
            · exact ⟨user, old, rfl, rfl⟩
            · exact absurd (Store.id_of_liveUser? found) same
    | @loggedIn | @refreshed | @loggedOut | @userDeleted =>
        refine Or.inr ⟨?_, Store.mem_modifyUser_of_same ?_ mem⟩
        · rintro ⟨any, ⟨⟩⟩
        · exact fun _ => ⟨rfl, rfl⟩
    | @managerAdded caller team manager =>
        rw [Store.users_addManager] at mem
        refine Or.inr ⟨?_, user, mem, rfl, rfl⟩
        rintro ⟨any, ⟨⟩⟩
    | _ =>
        refine Or.inr ⟨?_, user, mem, rfl, rfl⟩
        rintro ⟨any, ⟨⟩⟩

theorem Store.KeepsPasswords.next (keeps : before.KeepsPasswords hasher outcomes)
    (explains : outcome.Explains hasher tokens moments before after) (distinct : after.Distinct) :
    after.KeepsPasswords hasher (outcomes ++ [outcome]) := by
  intro user mem
  rcases explains.password_cases distinct mem with ⟨password, sets, hashes⟩ | ⟨keeps_it, old, was⟩
  · exact ⟨password, stands_append_singleton.mpr (Or.inl sets), hashes⟩
  · rcases was with ⟨old_mem, same_id, same_hash⟩
    rcases keeps old old_mem with ⟨password, latest, hashes⟩
    rw [same_id] at latest
    rw [same_hash] at hashes
    exact ⟨password, stands_append_singleton.mpr (Or.inr ⟨latest, keeps_it⟩), hashes⟩

theorem keepsPasswords (hasher : Hasher) (tokens : TokenService) (moments : Nat → Moment)
    (operations : List Operation) :
    let (outcomes, world) := Program.runEach ((System.inMemory hasher tokens).handler moments)
      (operations.map Operation.outcome) {}
    FreshUntil moments world.tick →
      world.store.Reachable ∧ world.store.KeepsPasswords hasher outcomes := by
  refine Operation.runEach_induction_of_fresh
    (fun outcomes store => store.KeepsPasswords hasher outcomes) ?_ ?_ operations
  · exact fun user mem => nomatch mem
  · exact fun outcomes outcome before after keeps _ reachable explains =>
      keeps.next explains reachable.distinct

end Passwords

/-! ## Logins -/

section Logins

variable {hasher : Hasher} {tokens : TokenService} {moments : Nat → Moment} {world : World}
  {email password : String} {user : User}

theorem Workflow.run_lift_bind {α β ε : Type} (toFailure : ε → Failure)
    (program : Program (Except ε α)) (rest : α → Workflow β) (handler : Handler) (world : World) :
    (ExceptT.run (lift toFailure program >>= rest)).run handler world =
      match program.run handler world with
      | (.error error, later) => (.error (toFailure error), later)
      | (.ok value, later) => (ExceptT.run (rest value)).run handler later := by
  rw [ExceptT.run_bind, Program.run_bind, lift, ExceptT.run_mk, Program.run_bind]
  rcases program.run handler world with ⟨error | value, later⟩ <;> rfl

/-- How a login runs, as far as it comes. -/
theorem run_login (hasher : Hasher) (tokens : TokenService) (moments : Nat → Moment)
    (email password : String) (world : World) :
    (Operation.login email password).program.run ((System.inMemory hasher tokens).handler moments)
        world =
      match world.store.liveUserByEmail? email with
      | none => (.error .invalidCredentials, { world with tick := world.tick + 1 })
      | some user =>
        match hasher.verify user.passwordHash password with
        | .error error => (.error (.ofPassword error), { world with tick := world.tick + 2 })
        | .ok false => (.error .invalidCredentials, { world with tick := world.tick + 2 })
        | .ok true =>
          match tokens.issuePair (moments (world.tick + 2)) user.id with
          | .error error => (.error (.ofToken error), { world with tick := world.tick + 3 })
          | .ok pair =>
            match world.store.liveUser? user.id with
            | none => (.error .invalidCredentials, { world with tick := world.tick + 4 })
            | some _ =>
              (.ok ⟨pair.accessToken, pair.refreshToken, user.toPublic⟩,
                ⟨world.store.modifyUser user.id
                    (Store.openSession pair.refreshToken pair.refreshExpiresAt),
                  world.tick + 4⟩) := by
  let handler := (System.inMemory hasher tokens).handler moments
  have looked : (Program.effect (.store (.findUserByEmail email))).run handler world =
      (.ok (world.store.liveUserByEmail? email), { world with tick := world.tick + 1 }) := rfl
  change (ExceptT.run (Workflow.login email password)).run handler world = _
  rw [Workflow.login, Workflow.store, Workflow.run_lift_bind, looked]
  dsimp only
  cases world.store.liveUserByEmail? email with
  | none => rfl
  | some user =>
      have verified : (Program.effect (.verifyPassword user.passwordHash password)).run handler
          { world with tick := world.tick + 1 } =
            (hasher.verify user.passwordHash password, { world with tick := world.tick + 2 }) := rfl
      rw [Workflow.require, pure_bind, Workflow.verifyPassword, Workflow.run_lift_bind, verified]
      dsimp only
      rcases hasher.verify user.passwordHash password with error | ⟨⟨⟩ | ⟨⟩⟩
      · rfl
      · rfl
      have issued : (Program.effect (.issueTokens user.id)).run handler
          { world with tick := world.tick + 2 } =
          (tokens.issuePair (moments (world.tick + 2)) user.id,
            { world with tick := world.tick + 3 }) := rfl
      dsimp only
      rw [if_neg (by decide), Workflow.issueTokens, Workflow.run_lift_bind, issued]
      cases tokens.issuePair (moments (world.tick + 2)) user.id with
      | error error => rfl
      | ok pair =>
          let call := StoreCall.storeRefreshToken user.id pair.refreshToken pair.refreshExpiresAt
          have stored : (Program.effect (.store call)).run handler
              { world with tick := world.tick + 3 } =
                ((world.store.perform (moments (world.tick + 3)) call).1,
                  ⟨(world.store.perform (moments (world.tick + 3)) call).2, world.tick + 4⟩) := rfl
          dsimp only
          rw [Workflow.store, Workflow.run_lift_bind, stored]
          simp only [call, Store.perform, Store.storeRefreshToken, answered]
          cases world.store.liveUser? user.id with
          | none => rfl
          | some user => rfl

/-- A token that is accepted authenticates the live user whom it names. -/
theorem run_authenticate (hasher : Hasher) (moments : Nat → Moment) (world : World)
    {values : List (List UInt8)} {token : String} {claims : Claims} {user : User}
    (bears : bearerToken values = .ok token)
    (valid : tokens.validateAccess (moments world.tick).now token = .ok claims)
    (found : world.store.liveUser? claims.userId = some user) :
    ((System.inMemory hasher tokens).run moments (authenticate values).run world).1 =
      .ok ⟨user.id, user.role⟩ := by
  let handler := (System.inMemory hasher tokens).handler moments
  unfold authenticate
  rw [bears]
  change ((Program.call (.checkToken .access token) _).run handler world).1 = _
  have checked : handler.step (.checkToken .access token) world =
      (.ok claims, { world with tick := world.tick + 1 }) := by
    rw [← valid]
    rfl
  rw [Program.run_call, checked]
  change ((Program.call (.store (.findUser claims.userId)) _).run handler _).1 = _
  have looked : handler.step (.store (.findUser claims.userId))
      { world with tick := world.tick + 1 } =
        (.ok (some user), { world with tick := world.tick + 2 }) := by
    rw [← found]
    rfl
  rw [Program.run_call, looked]
  rfl

/-- The access token of a new pair authenticates its user as long as it counts. -/
theorem run_authenticate_of_issuePair (hasher : Hasher) {moment : Moment} {pair : TokenPair}
    {clock : Nat → Moment} {tick : Nat} {store : Store} {id : Uuid}
    (issued : tokens.issuePair moment id = .ok pair) (live : store.liveUser? id = some user)
    (counts : tokens.AccessCounts moment.now (clock tick).now) :
    ((System.inMemory hasher tokens).run clock (authenticate [bearerValue pair.accessToken]).run
      ⟨store, tick⟩).1 = .ok ⟨user.id, user.role⟩ := by
  rcases TokenService.validateAccess_of_issuePair issued counts with ⟨claims, valid, rfl⟩
  have bears := TokenService.bearerToken_of_issuePair issued
  exact run_authenticate hasher clock ⟨store, tick⟩ bears valid live

theorem Store.liveUser?_openSession {store : Store} {id : Uuid} {token : String} {expiry : Instant}
    (live : store.liveUser? id = some user) :
    (store.modifyUser id (openSession token expiry)).liveUser? id =
      some (openSession token expiry user) := by
  have keeps (other : User) : (openSession token expiry other).id = other.id ∧
      (openSession token expiry other).deletedAt = other.deletedAt := ⟨rfl, rfl⟩
  rw [liveUser?_modifyUser_self keeps, live, Option.map_some]

/-- Whether a user is live, has this address and was given this password last. -/
structure LogsIn (outcomes : List Outcome) (store : Store) (email password : String) (id : Uuid) :
    Prop where
  account : ∃ user, store.liveUser? id = some user ∧ user.email = email
  password : Outcome.LatestPassword outcomes id password

variable {outcomes : List Outcome} {store : Store} {id : Uuid}

theorem Store.Reachable.liveUserByEmail?_of_live (reachable : store.Reachable)
    (live : store.liveUser? id = some user) :
    store.liveUserByEmail? user.email = some user := by
  rw [reachable.liveUserByEmail?_eq_some_iff, Store.mem_liveUsers]
  exact ⟨⟨Store.mem_of_liveUser? live, Store.isLive_of_liveUser? live⟩, rfl⟩

theorem not_logsIn_of_unknown (reachable : store.Reachable)
    (unknown : store.liveUserByEmail? email = none) : ¬LogsIn outcomes store email password id := by
  rintro ⟨⟨user, live, rfl⟩, _⟩
  exact nomatch unknown.symm.trans (reachable.liveUserByEmail?_of_live live)

theorem logsIn_iff {given : String} (reachable : store.Reachable)
    (found : store.liveUserByEmail? email = some user)
    (latest : Outcome.LatestPassword outcomes user.id given) :
    LogsIn outcomes store email password id ↔ user.id = id ∧ given = password := by
  constructor
  · rintro ⟨⟨other, live, rfl⟩, latest'⟩
    obtain rfl := Option.some.inj (found.symm.trans (reachable.liveUserByEmail?_of_live live))
    have same := Store.id_of_liveUser? live
    exact ⟨same, latest.unique (same ▸ latest')⟩
  · rintro ⟨rfl, rfl⟩
    obtain ⟨isLive, has⟩ := reachable.liveUserByEmail?_eq_some_iff.mp found
    obtain ⟨mem, live⟩ := Store.mem_liveUsers.mp isLive
    exact ⟨⟨user, reachable.distinct.liveUser?_eq_some_iff.mpr ⟨mem, live, rfl⟩, has⟩, latest⟩

/-- Either one user logs in and gets a pair of tokens, or nobody does and nothing changes. -/
theorem login_cases (ideal : hasher.Ideal)
    (lasting : tokens.CanIssue (moments (world.tick + 2)).now) (reachable : world.store.Reachable)
    (keeps : world.store.KeepsPasswords hasher outcomes) (email password : String) :
    let ended := (Operation.login email password).program.run
      ((System.inMemory hasher tokens).handler moments) world
    (∃ (user : User) (pair : TokenPair),
        (∀ id, LogsIn outcomes world.store email password id ↔ user.id = id) ∧
        world.store.liveUser? user.id = some user ∧
        tokens.issuePair (moments (world.tick + 2)) user.id = .ok pair ∧
        ended = (.ok ⟨pair.accessToken, pair.refreshToken, user.toPublic⟩,
          ⟨world.store.modifyUser user.id
            (Store.openSession pair.refreshToken pair.refreshExpiresAt), world.tick + 4⟩)) ∨
      (∀ id, ¬LogsIn outcomes world.store email password id) ∧
        ∃ tick, ended = (.error .invalidCredentials, { world with tick }) := by
  intro ended
  have ran : ended = _ := run_login hasher tokens moments email password world
  cases look : world.store.liveUserByEmail? email with
  | none =>
      rw [look] at ran
      exact Or.inr ⟨fun id => not_logsIn_of_unknown reachable look, _, ran⟩
  | some user =>
      have mem : user ∈ world.store.users := List.mem_of_find?_eq_some look
      rcases keeps user mem with ⟨given, latest, hashes⟩
      have verified := ideal user.passwordHash given password hashes
      simp only [look, verified] at ran
      by_cases same : given = password
      · have logsIn (id : Uuid) : LogsIn outcomes world.store email password id ↔ user.id = id := by
          simp [logsIn_iff reachable look latest, same]
        have isLive : user.isLive = true :=
          (Store.mem_liveUsers.mp (reachable.liveUserByEmail?_eq_some_iff.mp look).1).2
        have live : world.store.liveUser? user.id = some user :=
          reachable.distinct.liveUser?_eq_some_iff.mpr ⟨mem, isLive, rfl⟩
        rcases TokenService.exists_pair lasting user.id with ⟨pair, issued⟩
        have right : (given == password) = true := beq_iff_eq.mpr same
        rw [right] at ran
        simp only [issued, live] at ran
        exact Or.inl ⟨user, pair, logsIn, live, issued, ran⟩
      · have wrong : (given == password) = false := beq_false_of_ne same
        rw [wrong] at ran
        refine Or.inr ⟨fun id logsIn => same ?_, _, ran⟩
        exact ((logsIn_iff reachable look latest).mp logsIn).2

end Logins

/--
After operations that ran one after the other, identifiers being drawn afresh, a login succeeds as a
user exactly if the user is live, has the address and was given the password last. The new session
is then the one of the refresh token that the login gives away, and the access token authenticates
the user as long as it counts. Every other login is refused for invalid credentials and changes
nothing.
-/
theorem login_follows_history {hasher : Hasher} (ideal : hasher.Ideal) (tokens : TokenService)
    (moments : Nat → Moment) (lasting : ∀ tick, tokens.CanIssue (moments tick).now)
    (operations : List Operation)
    (fresh : FreshUntil moments (Program.runEach ((System.inMemory hasher tokens).handler moments)
      (operations.map Operation.outcome) {}).2.tick) (email password : String) :
    let system := System.inMemory hasher tokens
    let before := Program.runEach (system.handler moments) (operations.map Operation.outcome) {}
    let after := (Operation.login email password).program.run (system.handler moments) before.2
    (∀ id, (∃ login, after.1 = .ok login ∧ login.user.id = id) ↔
      LogsIn before.1 before.2.store email password id) ∧
    (∀ login, after.1 = .ok login →
      (after.2.store.liveUser? login.user.id).bind User.refreshToken = some login.refreshToken ∧
      ∃ issuing, before.2.tick ≤ issuing ∧ issuing < after.2.tick ∧
        ∀ clock tick, tokens.AccessCounts (moments issuing).now (clock tick).now →
          (system.run clock (authenticate [bearerValue login.token]).run ⟨after.2.store, tick⟩).1 =
            .ok ⟨login.user.id, login.user.role⟩) ∧
    ((∀ id, ¬LogsIn before.1 before.2.store email password id) →
      after.1 = .error .invalidCredentials ∧ after.2.store = before.2.store) := by
  intro system before after
  obtain ⟨reachable, keeps⟩ := keepsPasswords hasher tokens moments operations fresh
  rcases login_cases ideal (lasting (before.2.tick + 2)) reachable keeps email password with
    ⟨user, pair, logsIn, live, issued, ended⟩ | ⟨nobody, tick, ended⟩
  · change after = _ at ended
    have opened : after.2.store.liveUser? user.id =
        some (Store.openSession pair.refreshToken pair.refreshExpiresAt user) := by
      rw [ended]
      exact Store.liveUser?_openSession live
    refine ⟨fun id => ?_, fun login gives => ?_, fun nobody => ?_⟩
    · rw [ended, logsIn]
      constructor
      · rintro ⟨_, ⟨⟩, same⟩
        exact same
      · exact fun same => ⟨_, rfl, same⟩
    · rw [ended] at gives
      cases gives
      refine ⟨?_, before.2.tick + 2, Nat.le_add_right _ _, ?_, fun clock tick counts => ?_⟩
      · exact congrArg (Option.bind · User.refreshToken) opened
      · rw [ended]
        exact Nat.add_lt_add_left (by decide) _
      · have identified := run_authenticate_of_issuePair hasher issued opened counts
        exact identified
    · exact absurd ((logsIn user.id).mpr rfl) (nobody user.id)
  · change after = _ at ended
    rw [ended]
    refine ⟨fun id => iff_of_false ?_ (nobody id), ?_, fun _ => ⟨rfl, rfl⟩⟩
    · rintro ⟨_, ⟨⟩, _⟩
    · rintro _ ⟨⟩

/-- The account of the first admin. -/
def founding : Registration where
  email := "ada@example.org"
  password := "first key"
  firstName := "Ada"
  lastName := "Byron"
  phoneNumber := none
  role := none
  teamId := none

/-- The first admin registers and then takes another password. -/
def passwordChange : List Operation :=
  [.register none founding, .updateUser ⟨2⟩ ⟨2⟩ { password := some "second key" }]

/-- The admin logs in with the new password and is known by the access token at once. -/
theorem passwordChange_decides_login :
    let system := System.inMemory .plain .unsigned
    let before := Program.runEach (system.handler .numbered)
      (passwordChange.map Operation.outcome) {}
    Hasher.plain.Ideal ∧ (∀ tick, TokenService.unsigned.CanIssue (Moment.numbered tick).now) ∧
      FreshUntil .numbered before.2.tick ∧
      LogsIn before.1 before.2.store "ada@example.org" "second key" ⟨2⟩ ∧
      let after := (Operation.login "ada@example.org" "second key").program.run
        (system.handler .numbered) before.2
      ∃ login, after.1 = .ok login ∧ login.user.id = ⟨2⟩ ∧
        (system.run .numbered (authenticate [bearerValue login.token]).run
          { store := after.2.store }).1 = .ok ⟨login.user.id, login.user.role⟩ := by
  let system := System.inMemory .plain .unsigned
  let before := Program.runEach (system.handler .numbered) (passwordChange.map Operation.outcome) {}
  have ideal : Hasher.plain.Ideal := by
    rintro hash password other ⟨salt, ⟨⟩⟩
    rfl
  have lasting (tick : Nat) : TokenService.unsigned.CanIssue (Moment.numbered tick).now := by
    change TokenService.unsigned.CanIssue .epoch
    exact ⟨by decide, by decide⟩
  have fresh : FreshUntil .numbered before.2.tick :=
    .numbered (by decide +kernel)
  have account : (before.2.store.liveUser? ⟨2⟩).map User.email = some "ada@example.org" := by
    decide +kernel
  have latest : Outcome.LatestPassword before.1 ⟨2⟩ "second key" := by
    let change : Operation := .updateUser ⟨2⟩ ⟨2⟩ { password := some "second key" }
    let registered := (Operation.register none founding).outcome.run (system.handler .numbered) {}
    have succeeds : (change.program.run (system.handler .numbered)
        registered.2).1.toOption.isSome = true := by
      decide +kernel
    have outcomes : before.1 =
        [registered.1] ++ [(change.outcome.run (system.handler .numbered) registered.2).1] := rfl
    rw [outcomes, change.run_outcome]
    rcases ended : (change.program.run (system.handler .numbered) registered.2).1 with _ | user
    · rw [ended] at succeeds
      cases succeeds
    · have sets : Outcome.SetsPassword ⟨2⟩ "second key" ⟨change, .ok user⟩ := .changed rfl
      exact ⟨[registered.1], _, [], rfl, sets, List.forall_mem_nil _⟩
  have logsIn : LogsIn before.1 before.2.store "ada@example.org" "second key" ⟨2⟩ :=
    ⟨Option.map_eq_some_iff.mp account, latest⟩
  have told := login_follows_history ideal .unsigned .numbered lasting passwordChange fresh
    "ada@example.org" "second key"
  rcases (told.1 ⟨2⟩).mpr logsIn with ⟨login, gives, isAdmin⟩
  rcases (told.2.1 login gives).2 with ⟨issuing, _, _, authenticates⟩
  have counts := TokenService.accessCounts_of_nonneg (lasting issuing) (by decide) (Int.le_refl 0)
  exact ⟨ideal, lasting, fresh, logsIn, login, gives, isAdmin, authenticates .numbered 0 counts⟩

end OrgAccess
