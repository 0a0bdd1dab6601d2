import OrgAccess.Proofs.Sessions
import OrgAccess.Proofs.TokenIdentity

/-!
# Refresh tokens are used once

Tokens are issued under fresh identifiers and each operation writes once, so no token is ever
stored twice. What was replaced once is therefore gone for good, and of the clients that present
the token of a session at the same time, only the first finds it there.
-/

namespace OrgAccess

/-- Whether a refresh token is presented for a user. -/
def Exchange.Presents (exchange : Exchange) (user : Uuid) (token : String) : Prop :=
  ∃ new expiresAt answer,
    exchange = ⟨.store (.rotateRefreshToken user token new expiresAt), answer⟩

/-- Whether a refresh token is presented for a user and accepted. -/
def Exchange.Accepts (exchange : Exchange) (user : Uuid) (token : String) : Prop :=
  ∃ new expiresAt, exchange = ⟨.store (.rotateRefreshToken user token new expiresAt), .ok true⟩

namespace SideBySide

variable {hasher : Hasher} {tokens : TokenService} {moments : Nat → Moment}
  {operations : List Operation} {now : List (Program Outcome)} {world : World}
  {log earlier later : List Turn} {turn : Turn}

/-! ## Every token is stored once -/

/-- A token that a turn stores was issued to the same client before. -/
theorem issued_of_stored (run : SideBySide hasher tokens moments operations log now world)
    (parts : log = earlier ++ turn :: later) {user : Uuid} {token : String} {expiresAt : Instant}
    (stored : turn.exchange.sessionOf user = some (some (token, expiresAt))) :
    ∃ issue ∈ earlier, issue.position = turn.position ∧ ∃ pair,
      tokens.issuePair (moments issue.before.tick) user = .ok pair ∧ pair.refreshToken = token := by
  have issued : ∃ pair, (historyOf earlier turn.position).Issued user pair ∧
      pair.refreshToken = token := by
    rcases Exchange.eq_of_sessionOf stored with exchanged | ⟨old, exchanged⟩
    · have asks : turn.exchange.effect = .store (.storeRefreshToken user token expiresAt) := by
        rw [exchanged]
      rcases run.write_justified parts asks rfl with ⟨_, operation, _, because⟩
      exact because.of_storeRefreshToken
    · have asks : turn.exchange.effect = .store (.rotateRefreshToken user old token expiresAt) := by
        rw [exchanged]
      rcases run.write_justified parts asks rfl with ⟨_, operation, _, because⟩
      exact because.of_rotateRefreshToken.2
  rcases issued with ⟨pair, issued, named⟩
  rcases Interleaved.mem_historyOf.mp issued with ⟨issue, mem, mine, exchanged⟩
  refine ⟨issue, mem, mine, pair, ?_, named⟩
  rcases run.at_turn parts with ⟨_, _, _, before, _⟩
  exact (before.answer_of_mem mem exchanged).symm

theorem isWrite_of_sessionOf {exchange : Exchange} {user : Uuid}
    {session : Option (String × Instant)} (wrote : exchange.sessionOf user = some session) :
    exchange.effect.isWrite = true := by
  unfold Exchange.sessionOf at wrote
  split at wrote
  · rfl
  · rfl
  · rfl
  · cases wrote

theorem eq_of_stored (run : SideBySide hasher tokens moments operations log now world)
    (fresh : FreshUntil moments world.tick) {first second : Turn} (first_mem : first ∈ log)
    (second_mem : second ∈ log) {user other : Uuid} {token : String} {expiry expiry' : Instant}
    (first_stores : first.exchange.sessionOf user = some (some (token, expiry)))
    (second_stores : second.exchange.sessionOf other = some (some (token, expiry'))) :
    first = second := by
  rcases List.append_of_mem first_mem with ⟨earlier, later, parts⟩
  rcases List.append_of_mem second_mem with ⟨earlier', later', parts'⟩
  rcases run.issued_of_stored parts first_stores with ⟨issue, mem, mine, pair, issued, named⟩
  rcases run.issued_of_stored parts' second_stores with
    ⟨issue', mem', mine', pair', issued', named'⟩
  have issue_mem : issue ∈ log := parts ▸ List.mem_append_left _ mem
  have issue_mem' : issue' ∈ log := parts' ▸ List.mem_append_left _ mem'
  -- One text was issued at one tick, so to one client, and a client writes once.
  have drawn := TokenService.refreshTokenId_of_eq issued issued' (named.trans named'.symm)
  have same_tick := fresh.tokens _ _ (run.tick_lt issue_mem) (run.tick_lt issue_mem') drawn
  obtain rfl := run.eq_of_mem_of_tick_eq issue_mem issue_mem' same_tick
  exact run.eq_of_writes first_mem second_mem (mine.symm.trans mine')
    (isWrite_of_sessionOf first_stores) (isWrite_of_sessionOf second_stores)

theorem ne_empty_of_latest (run : SideBySide hasher tokens moments operations log now world)
    {user : Uuid} {session : String × Instant} (latest : latestSession log user = some session) :
    session.1 ≠ "" := by
  rcases exists_of_latestSession latest with ⟨before, write, after, parts, stored, _⟩
  rcases run.issued_of_stored parts stored with ⟨_, _, _, pair, issued, named⟩
  rcases TokenService.refreshToken_of_issuePair issued with ⟨claims, signed, _⟩
  rw [← named, signed]
  exact Token.sign_ne_empty _ _ _

/-! ## When a token is accepted -/

/-- A token is accepted exactly if the latest write to the session stored it and it still counts. -/
theorem accepts_iff (run : SideBySide hasher tokens moments operations log now world)
    (fresh : FreshUntil moments world.tick) (parts : log = earlier ++ turn :: later) {user : Uuid}
    {token : String} (presents : turn.exchange.Presents user token) :
    turn.exchange.Accepts user token ↔
      (∃ holder, turn.before.store.liveUser? user = some holder) ∧
        ∃ expiresAt, latestSession earlier user = some (token, expiresAt) ∧
          (moments turn.before.tick).now < expiresAt := by
  rcases presents with ⟨new, expiry, answer, exchanged⟩
  have mem : turn ∈ log := by simp [parts]
  have answered := run.answer_of_mem mem exchanged
  rcases run.at_turn parts with ⟨_, _, _, before, _⟩
  have agree := sessionsAgree before (fresh.mono (Nat.le_of_lt (run.tick_lt mem)))
  have accepted : turn.exchange.Accepts user token ↔ answer = .ok true := by
    rw [exchanged]
    constructor
    · rintro ⟨new, expiry, same⟩
      cases same
      rfl
    · rintro rfl
      exact ⟨new, expiry, rfl⟩
  have swapped : answer = .ok (turn.before.store.rotateRefreshToken (moments turn.before.tick) user
      token new expiry).1 := answered
  rw [accepted, swapped, Except.ok.injEq, Store.rotateRefreshToken]
  cases found : turn.before.store.liveUser? user with
  | none => simp
  | some holder =>
      have holds : holder.Holds (latestSession earlier user) := agree.held user holder found
      rw [← holds.matches_iff fun stored latest => ne_empty_of_latest before latest]
      dsimp only
      split
      · rename_i current
        exact iff_of_true rfl ⟨⟨holder, rfl⟩, current⟩
      · rename_i stale
        exact iff_of_false (by simp) fun usable => stale usable.2

/-- The write that stored an accepted token, after which nothing was written to the session. -/
theorem stored_of_accepts (run : SideBySide hasher tokens moments operations log now world)
    (fresh : FreshUntil moments world.tick) (mem : turn ∈ log) {user : Uuid} {token : String}
    (accepts : turn.exchange.Accepts user token) :
    ∃ write ∈ log, write.before.tick < turn.before.tick ∧
      (∃ expiresAt, write.exchange.sessionOf user = some (some (token, expiresAt))) ∧
        ∀ other ∈ log, write.before.tick < other.before.tick →
          other.before.tick < turn.before.tick → other.exchange.sessionOf user = none := by
  rcases List.append_of_mem mem with ⟨earlier, later, parts⟩
  rcases accepts with ⟨new, expiry, exchanged⟩
  rcases (accepts_iff run fresh parts ⟨new, expiry, _, exchanged⟩).mp ⟨new, expiry, exchanged⟩ with
    ⟨_, expiresAt, latest, _⟩
  rcases exists_of_latestSession latest with ⟨before, write, after, earlier_parts, stored, quiet⟩
  have write_earlier : write ∈ earlier := by simp [earlier_parts]
  rcases (run.mem_earlier_iff parts).mp write_earlier with ⟨write_mem, write_before⟩
  refine ⟨write, write_mem, write_before, ⟨expiresAt, stored⟩, ?_⟩
  intro other other_mem after_write before_turn
  have other_earlier := (run.mem_earlier_iff parts).mpr ⟨other_mem, before_turn⟩
  rw [earlier_parts, List.mem_append, List.mem_cons] at other_earlier
  have write_parts : log = before ++ write :: (after ++ turn :: later) := by
    simp [parts, earlier_parts]
  rcases other_earlier with other_before | rfl | other_after
  · have := ((run.mem_earlier_iff write_parts).mp other_before).2
    omega
  · omega
  · exact quiet other other_after

/-- A token that was stored before a later write to the session is not accepted any more. -/
theorem not_accepts_of_rewritten
    (run : SideBySide hasher tokens moments operations log now world)
    (fresh : FreshUntil moments world.tick) {write rewrite : Turn} (write_mem : write ∈ log)
    (rewrite_mem : rewrite ∈ log) (mem : turn ∈ log) {user other : Uuid} {token : String}
    {expiresAt : Instant} {session : Option (String × Instant)}
    (stored : write.exchange.sessionOf user = some (some (token, expiresAt)))
    (rewrites : rewrite.exchange.sessionOf user = some session)
    (after_write : write.before.tick < rewrite.before.tick)
    (before_turn : rewrite.before.tick < turn.before.tick) :
    ¬turn.exchange.Accepts other token := by
  intro accepts
  rcases stored_of_accepts run fresh mem accepts with
    ⟨source, source_mem, _, ⟨expiry, source_stored⟩, quiet⟩
  -- The token was accepted for the write that stored it, and no other write ever did.
  obtain rfl := eq_of_stored run fresh write_mem source_mem stored source_stored
  obtain rfl := Exchange.user_eq_of_sessionOf stored source_stored
  rw [quiet rewrite rewrite_mem after_write before_turn] at rewrites
  cases rewrites

theorem not_accepts_of_deleted (run : SideBySide hasher tokens moments operations log now world)
    (fresh : FreshUntil moments world.tick) {write deletion : Turn} (write_mem : write ∈ log)
    (deletion_mem : deletion ∈ log) (mem : turn ∈ log) {user other : Uuid} {token : String}
    {expiresAt : Instant}
    (stored : write.exchange.sessionOf user = some (some (token, expiresAt)))
    (deletes : deletion.exchange = ⟨.store (.deleteUser user), .ok true⟩)
    (before_turn : deletion.before.tick < turn.before.tick) :
    ¬turn.exchange.Accepts other token := by
  intro accepts
  rcases stored_of_accepts run fresh mem accepts with
    ⟨source, source_mem, _, ⟨expiry, source_stored⟩, _⟩
  obtain rfl := eq_of_stored run fresh write_mem source_mem stored source_stored
  obtain rfl := Exchange.user_eq_of_sessionOf stored source_stored
  rcases List.append_of_mem mem with ⟨earlier, later, parts⟩
  rcases accepts with ⟨new, expiry, exchanged⟩
  rcases (accepts_iff run fresh parts ⟨new, expiry, _, exchanged⟩).mp ⟨new, expiry, exchanged⟩ with
    ⟨⟨holder, found⟩, _⟩
  rcases run.at_turn parts with ⟨_, _, _, before, _⟩
  have agree := sessionsAgree before (fresh.mono (Nat.le_of_lt (run.tick_lt mem)))
  have deletion_earlier := (run.mem_earlier_iff parts).mpr ⟨deletion_mem, before_turn⟩
  have none_live := (agree.gone user ⟨deletion, deletion_earlier, deletes⟩).2
  cases none_live.symm.trans found

theorem sessionOf_of_accepts {exchange : Exchange} {user : Uuid} {token : String}
    (accepts : exchange.Accepts user token) :
    ∃ session, exchange.sessionOf user = some session := by
  rcases accepts with ⟨new, expiry, rfl⟩
  exact ⟨some (new, expiry), if_pos rfl⟩

theorem eq_of_accepts (run : SideBySide hasher tokens moments operations log now world)
    (fresh : FreshUntil moments world.tick) {first second : Turn} (first_mem : first ∈ log)
    (second_mem : second ∈ log) {user other : Uuid} {token : String}
    (first_accepts : first.exchange.Accepts user token)
    (second_accepts : second.exchange.Accepts other token) : first = second := by
  have not_before {turn turn' : Turn} {user other : Uuid} (mem : turn ∈ log) (mem' : turn' ∈ log)
      (accepts : turn.exchange.Accepts user token) (accepts' : turn'.exchange.Accepts other token) :
      ¬turn.before.tick < turn'.before.tick := by
    intro before
    rcases stored_of_accepts run fresh mem accepts with
      ⟨write, write_mem, earlier, ⟨expiresAt, stored⟩, _⟩
    rcases sessionOf_of_accepts accepts with ⟨session, rewrites⟩
    exact not_accepts_of_rewritten run fresh write_mem mem mem' stored rewrites earlier before
      accepts'
  have first_not_before := not_before first_mem second_mem first_accepts second_accepts
  have second_not_before := not_before second_mem first_mem second_accepts first_accepts
  exact run.eq_of_mem_of_tick_eq first_mem second_mem (by omega)

theorem single_winner (run : SideBySide hasher tokens moments operations log now world)
    (fresh : FreshUntil moments world.tick) {before window after : List Turn} {user : Uuid}
    {token : String} {expiresAt : Instant} (parts : log = before ++ window ++ after)
    (current : latestSession before user = some (token, expiresAt))
    (others_quiet : ∀ turn ∈ window, ¬turn.exchange.Presents user token →
      turn.exchange.sessionOf user = none)
    (usable : ∀ turn ∈ window, turn.exchange.Presents user token →
      (∃ holder, turn.before.store.liveUser? user = some holder) ∧
        (moments turn.before.tick).now < expiresAt)
    (presented : ∃ turn ∈ window, turn.exchange.Presents user token) :
    ∃ winner ∈ window, winner.exchange.Accepts user token ∧
      ∀ turn ∈ window, turn.exchange.Accepts user token → turn = winner := by
  classical
  have in_log {turn : Turn} (mem : turn ∈ window) : turn ∈ log := by simp [parts, mem]
  -- The first to present the token wins, for nothing was written to the session before it.
  have some_presents : (window.find? fun turn => turn.exchange.Presents user token).isSome := by
    simpa using presented
  rcases Option.isSome_iff_exists.mp some_presents with ⟨first, found⟩
  rcases List.find?_eq_some_iff_append.mp found with ⟨presents, quiet, rest, window_parts, absent⟩
  have presents : first.exchange.Presents user token := by simpa using presents
  have first_mem : first ∈ window := by simp [window_parts]
  have not_written : ∀ turn ∈ quiet, turn.exchange.sessionOf user = none := by
    intro turn mem
    apply others_quiet turn (by simp [window_parts, mem])
    simpa using absent turn mem
  have first_parts : log = before ++ quiet ++ first :: (rest ++ after) := by
    simp [parts, window_parts]
  have accepts : first.exchange.Accepts user token := by
    rw [accepts_iff run fresh first_parts presents]
    rcases usable first first_mem presents with ⟨live, in_time⟩
    refine ⟨live, expiresAt, ?_, in_time⟩
    rw [latestSession_append_quiet not_written, current]
  refine ⟨first, first_mem, accepts, fun turn mem others_accepts => ?_⟩
  exact eq_of_accepts run fresh (in_log mem) (in_log first_mem) others_accepts accepts

/-! ## Operations that refresh -/

theorem refresh_of_presents (run : SideBySide hasher tokens moments operations log now world)
    (mem : turn ∈ log) {user : Uuid} {token : String}
    (presents : turn.exchange.Presents user token) :
    operations[turn.position]? = some (.refresh token) := by
  rcases List.append_of_mem mem with ⟨earlier, later, parts⟩
  rcases presents with ⟨new, expiresAt, answer, exchanged⟩
  have asks : turn.exchange.effect = .store (.rotateRefreshToken user token new expiresAt) := by
    rw [exchanged]
  rcases run.write_justified parts asks rfl with ⟨_, operation, found, because⟩
  rw [found, because.of_rotateRefreshToken.1]

theorem sawRotated_historyOf {position : Nat} {token : String} :
    (historyOf log position).SawRotated token ↔
      ∃ turn ∈ log, turn.position = position ∧ ∃ user, turn.exchange.Accepts user token := by
  constructor
  · rintro ⟨user, new, expiresAt, saw⟩
    rcases Interleaved.mem_historyOf.mp saw with ⟨turn, mem, mine, exchanged⟩
    exact ⟨turn, mem, mine, user, new, expiresAt, exchanged⟩
  · rintro ⟨turn, mem, mine, user, new, expiresAt, exchanged⟩
    exact ⟨user, new, expiresAt, Interleaved.mem_historyOf.mpr ⟨turn, mem, mine, exchanged⟩⟩

theorem succeeded_iff (run : SideBySide hasher tokens moments operations log now world)
    {position : Nat} {outcome : Outcome} {token : String}
    (ended : now[position]? = some (.done outcome)) (asked : outcome.operation = .refresh token) :
    outcome.Succeeded ↔
      ∃ turn ∈ log, turn.position = position ∧ ∃ user, turn.exchange.Accepts user token := by
  have each (position : Nat) (program : Program Outcome)
      (found : (operations.map Operation.outcome)[position]? = some program) :
      program.Obeys (Justified operations position)
        (fun later outcome => outcome.TellsRotation later) [] := by
    refine TakingTurns.outcome_obeys operations
      (fun _ later outcome => outcome.TellsRotation later) (fun _ operation _ => ?_) position
        program found
    exact operation.tellsRotation
  rw [run.obeys each position _ ended token asked, sawRotated_historyOf]

theorem eq_of_succeeded (run : SideBySide hasher tokens moments operations log now world)
    (fresh : FreshUntil moments world.tick) {first second : Nat} {outcome outcome' : Outcome}
    {token : String} (first_ended : now[first]? = some (.done outcome))
    (second_ended : now[second]? = some (.done outcome'))
    (first_asked : outcome.operation = .refresh token)
    (second_asked : outcome'.operation = .refresh token) (first_succeeded : outcome.Succeeded)
    (second_succeeded : outcome'.Succeeded) : first = second := by
  rcases (run.succeeded_iff first_ended first_asked).mp first_succeeded with
    ⟨turn, mem, rfl, user, accepts⟩
  rcases (run.succeeded_iff second_ended second_asked).mp second_succeeded with
    ⟨turn', mem', rfl, user', accepts'⟩
  rw [eq_of_accepts run fresh mem mem' accepts accepts']

end SideBySide

/-- Whether the session of a user is written by an exchange, or ends with the user. -/
def Exchange.Supersedes (exchange : Exchange) (user : Uuid) : Prop :=
  (∃ session, exchange.sessionOf user = some session) ∨
    exchange = ⟨.store (.deleteUser user), .ok true⟩

/-- What it means that refresh tokens are good for one use, of a log and of what is left then. -/
structure UsedOnce (moments : Nat → Moment) (operations : List Operation) (log : List Turn)
    (now : List (Program Outcome)) : Prop where
  /-- Whoever presents a token refreshes with it. -/
  presented : ∀ turn ∈ log, ∀ user token, turn.exchange.Presents user token →
    operations[turn.position]? = some (.refresh token)
  /-- A token is accepted exactly if the latest write to the session stored it and it counts. -/
  accepted : ∀ earlier turn later user token, log = earlier ++ turn :: later →
    turn.exchange.Presents user token →
      (turn.exchange.Accepts user token ↔
        (∃ holder, turn.before.store.liveUser? user = some holder) ∧
          ∃ expiresAt, latestSession earlier user = some (token, expiresAt) ∧
            (moments turn.before.tick).now < expiresAt)
  /-- No token is accepted twice. -/
  unique : ∀ first ∈ log, ∀ second ∈ log, ∀ user other token,
    first.exchange.Accepts user token → second.exchange.Accepts other token → first = second
  /-- No token is accepted after the session was written again or its user was deleted. -/
  superseded : ∀ write ∈ log, ∀ change ∈ log, ∀ turn ∈ log, ∀ user other token expiresAt,
    write.exchange.sessionOf user = some (some (token, expiresAt)) →
      change.exchange.Supersedes user → write.before.tick < change.before.tick →
        change.before.tick < turn.before.tick → ¬turn.exchange.Accepts other token
  /-- Of the clients that present a token while it counts, exactly one is accepted. -/
  contested : ∀ before window after user token expiresAt, log = before ++ window ++ after →
    latestSession before user = some (token, expiresAt) →
      (∀ turn ∈ window, ¬turn.exchange.Presents user token →
        turn.exchange.sessionOf user = none) →
      (∀ turn ∈ window, turn.exchange.Presents user token →
        (∃ holder, turn.before.store.liveUser? user = some holder) ∧
          (moments turn.before.tick).now < expiresAt) →
      (∃ turn ∈ window, turn.exchange.Presents user token) →
        ∃ winner ∈ window, winner.exchange.Accepts user token ∧
          ∀ turn ∈ window, turn.exchange.Accepts user token → turn = winner
  /-- A refresh that has ended succeeded exactly if its token was accepted. -/
  succeeded : ∀ (position : Nat) (outcome : Outcome) token,
    now[position]? = some (.done outcome) → outcome.operation = .refresh token →
      (outcome.Succeeded ↔
        ∃ turn ∈ log, turn.position = position ∧ ∃ user, turn.exchange.Accepts user token)
  /-- No two refreshes of one token succeed. -/
  succeeded_once : ∀ (first second : Nat) (outcome outcome' : Outcome) token,
    now[first]? = some (.done outcome) → now[second]? = some (.done outcome') →
      outcome.operation = .refresh token → outcome'.operation = .refresh token →
        outcome.Succeeded → outcome'.Succeeded → first = second

theorem SideBySide.usedOnce {hasher : Hasher} {tokens : TokenService} {moments : Nat → Moment}
    {operations : List Operation} {now : List (Program Outcome)} {world : World} {log : List Turn}
    (run : SideBySide hasher tokens moments operations log now world)
    (fresh : FreshUntil moments world.tick) : UsedOnce moments operations log now where
  presented _ mem _ _ presents := run.refresh_of_presents mem presents
  accepted _ _ _ _ _ parts presents := run.accepts_iff fresh parts presents
  unique _ first_mem _ second_mem _ _ _ first_accepts second_accepts :=
    run.eq_of_accepts fresh first_mem second_mem first_accepts second_accepts
  superseded write write_mem change change_mem turn mem user other token expiresAt stored
      supersedes after_write before_turn := by
    rcases supersedes with ⟨session, rewrites⟩ | deletes
    · exact run.not_accepts_of_rewritten fresh write_mem change_mem mem stored rewrites after_write
        before_turn
    · exact run.not_accepts_of_deleted fresh write_mem change_mem mem stored deletes before_turn
  contested _ _ _ _ _ _ parts current others_quiet usable presented :=
    run.single_winner fresh parts current others_quiet usable presented
  succeeded _ _ _ ended asked := run.succeeded_iff ended asked
  succeeded_once _ _ _ _ _ first_ended second_ended first_asked second_asked first_succeeded
      second_succeeded :=
    run.eq_of_succeeded fresh first_ended second_ended first_asked second_asked first_succeeded
      second_succeeded

/--
In a run of any operations in turns that draws its identifiers afresh, refresh tokens are good for
one use, and only while they are the latest of their user.
-/
theorem interleaved_refreshTokens_usedOnce (hasher : Hasher) (tokens : TokenService)
    (moments : Nat → Moment) (operations : List Operation) (schedule : List Nat)
    (fresh : FreshUntil moments schedule.length) :
    let handler := (System.inMemory hasher tokens).handler moments
    let programs := operations.map Operation.outcome
    UsedOnce moments operations (Program.turns handler schedule programs {})
      (Program.interleave handler schedule programs {}).1 := by
  intro handler programs
  have run : SideBySide hasher tokens moments operations _ _ _ :=
    Interleaved.ofSchedule handler schedule programs {}
  refine run.usedOnce (fresh.mono ?_)
  rw [run.tick_eq, Nat.zero_add]
  exact Program.length_turns_le handler schedule programs {}

/-- Two clients who refresh with the token of one login. -/
def refreshRace : List Operation :=
  let admin : Registration :=
    { email := "admin@example.org", password := "password", firstName := "Ada", lastName := "Byron",
      phoneNumber := none, role := none, teamId := none }
  let issued := TokenService.unsigned.issuePair (.numbered 5) ⟨2⟩
  let token := issued.toOption.elim "" TokenPair.refreshToken
  [.register none admin, .login admin.email admin.password, .refresh token, .refresh token]

/-- Both have checked the token before the first one rotates it. -/
def refreshSchedule : List Nat :=
  [0, 0, 0, 1, 1, 1, 1, 2, 2, 3, 3, 2, 3]

/-- Whether a program has ended, and if so, without a failure. -/
def Program.success? : Program Outcome → Option Bool
  | done outcome => some outcome.result.isOk
  | call _ _ => none

theorem refreshRace_single_winner :
    let handler := (System.inMemory .plain .unsigned).handler .numbered
    let programs := refreshRace.map Operation.outcome
    let final := Program.interleave handler refreshSchedule programs {}
    FreshUntil .numbered refreshSchedule.length ∧
      UsedOnce .numbered refreshRace (Program.turns handler refreshSchedule programs {}) final.1 ∧
        final.1.map Program.success? = [some true, some true, some true, some false] := by
  have fresh : FreshUntil .numbered refreshSchedule.length := FreshUntil.numbered (by decide)
  refine ⟨fresh, ?_, by decide +kernel⟩
  exact interleaved_refreshTokens_usedOnce .plain .unsigned .numbered refreshRace refreshSchedule fresh

end OrgAccess
