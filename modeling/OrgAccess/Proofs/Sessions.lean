import Mathlib.Algebra.Group.Nat.Defs
import Mathlib.Data.List.Induction
import Mathlib.Data.List.Nodup
import OrgAccess.Proofs.Clients
import OrgAccess.Proofs.Rows

/-!
# Sessions

A session is the refresh token that a user has. In a run in which any operations take turns, the
session of a live user is the one that the latest write to it left, and whoever was deleted stays
so (`SessionsAgree`). This is an invariant of the steps of the store, given that users get
identifiers of their own (`FreshUntil`).
-/

namespace OrgAccess

/-- The session that an exchange leaves to a user, if it wrote the user's session. -/
def Exchange.sessionOf (exchange : Exchange) (user : Uuid) : Option (Option (String × Instant)) :=
  match exchange with
  | ⟨.store (.storeRefreshToken id token expiresAt), .ok true⟩ =>
    if id = user then some (some (token, expiresAt)) else none
  | ⟨.store (.rotateRefreshToken id _ new expiresAt), .ok true⟩ =>
    if id = user then some (some (new, expiresAt)) else none
  | ⟨.store (.revokeRefreshToken id), .ok _⟩ => if id = user then some none else none
  | _ => none

theorem Exchange.eq_of_sessionOf {exchange : Exchange} {user : Uuid} {token : String}
    {expiresAt : Instant} (stored : exchange.sessionOf user = some (some (token, expiresAt))) :
    exchange = ⟨.store (.storeRefreshToken user token expiresAt), .ok true⟩ ∨
      ∃ old, exchange = ⟨.store (.rotateRefreshToken user old token expiresAt), .ok true⟩ := by
  unfold Exchange.sessionOf at stored
  split at stored
  · left
    split at stored <;> simp_all
  · right
    split at stored <;> simp_all
  · split at stored <;> cases stored
  · cases stored

theorem Exchange.user_eq_of_sessionOf {exchange : Exchange} {user other : Uuid}
    {session session' : Option (String × Instant)} (wrote : exchange.sessionOf user = some session)
    (wrote' : exchange.sessionOf other = some session') : user = other := by
  unfold Exchange.sessionOf at wrote wrote'
  split at wrote <;> simp_all

/-- The session that the latest write to it has left to a user. -/
def latestSession (log : List Turn) (user : Uuid) : Option (String × Instant) :=
  (log.filterMap fun turn => turn.exchange.sessionOf user).getLast?.join

/-- Identifiers of users and of refresh tokens are drawn afresh until a tick. -/
structure FreshUntil (moments : Nat → Moment) (limit : Nat) : Prop where
  users : ∀ first second, first < limit → second < limit →
    (moments first).freshId = (moments second).freshId → first = second
  tokens : ∀ first second, first < limit → second < limit →
    (moments first).refreshTokenId = (moments second).refreshTokenId → first = second

theorem FreshUntil.mono {moments : Nat → Moment} {earlier limit : Nat}
    (fresh : FreshUntil moments limit) (shorter : earlier ≤ limit) : FreshUntil moments earlier :=
  ⟨fun first second first_small second_small =>
      fresh.users first second (by omega) (by omega),
    fun first second first_small second_small =>
      fresh.tokens first second (by omega) (by omega)⟩

theorem FreshUntil.numbered {limit : Nat} (small : limit ≤ 2 ^ 128) :
    FreshUntil Moment.numbered limit := by
  have apart (first second : Nat) (first_small : first < limit) (second_small : second < limit)
      (same : (⟨BitVec.ofNat 128 first⟩ : Uuid) = ⟨BitVec.ofNat 128 second⟩) : first = second := by
    have numbers := congrArg (fun id => id.bits.toNat) same
    simp only [BitVec.toNat_ofNat] at numbers
    rwa [Nat.mod_eq_of_lt (by omega), Nat.mod_eq_of_lt (by omega)] at numbers
  exact ⟨apart, apart⟩

theorem FreshUntil.notMem {moments : Nat → Moment} {tick : Nat} {ids : List Uuid}
    (fresh : FreshUntil moments (tick + 1))
    (drawn : ∀ id ∈ ids, ∃ earlier < tick, id = (moments earlier).freshId) :
    (moments tick).freshId ∉ ids := by
  intro mem
  rcases drawn _ mem with ⟨earlier, before, same⟩
  have := fresh.users tick earlier (by omega) (by omega) same
  omega

theorem latestSession_append (log : List Turn) (turn : Turn) (user : Uuid) :
    latestSession (log ++ [turn]) user =
      (turn.exchange.sessionOf user).getD (latestSession log user) := by
  cases wrote : turn.exchange.sessionOf user with
  | none => simp [latestSession, wrote]
  | some session => simp [latestSession, wrote]

theorem latestSession_append_quiet {log others : List Turn} {user : Uuid}
    (quiet : ∀ turn ∈ others, turn.exchange.sessionOf user = none) :
    latestSession (log ++ others) user = latestSession log user := by
  have none_wrote : others.filterMap (fun turn => turn.exchange.sessionOf user) = [] := by
    simpa [List.filterMap_eq_nil_iff] using quiet
  simp [latestSession, none_wrote]

/-- The latest write is some turn of the log, and no later turn wrote the session. -/
theorem exists_of_latestSession {log : List Turn} {user : Uuid} {session : String × Instant}
    (latest : latestSession log user = some session) :
    ∃ before write after, log = before ++ write :: after ∧
      write.exchange.sessionOf user = some (some session) ∧
        ∀ turn ∈ after, turn.exchange.sessionOf user = none := by
  induction log using List.reverseRecOn with
  | nil => simp [latestSession] at latest
  | append_singleton log turn ih =>
      rw [latestSession_append] at latest
      cases wrote : turn.exchange.sessionOf user with
      | none =>
          rw [wrote] at latest
          rcases ih latest with ⟨before, write, after, rfl, wrote_session, quiet⟩
          refine ⟨before, write, after ++ [turn], by simp, wrote_session, ?_⟩
          intro other mem
          rcases List.mem_append.mp mem with mem | mem
          · exact quiet other mem
          · rw [List.mem_singleton.mp mem]
            exact wrote
      | some found =>
          rw [wrote] at latest
          refine ⟨log, turn, [], rfl, ?_, by simp⟩
          rw [wrote]
          exact congrArg some latest

/-! ## What the users hold -/

/-- The session of a user. -/
def User.Holds (user : User) (session : Option (String × Instant)) : Prop :=
  user.refreshToken = session.map Prod.fst ∧ user.refreshExpiresAt = session.map Prod.snd

theorem User.Holds.matches_iff {user : User} {session : Option (String × Instant)} {token : String}
    {now : Instant} (holds : user.Holds session) (named : ∀ stored, session = some stored →
      stored.1 ≠ "") :
    user.refreshTokenMatches token now = true ↔
      ∃ expiresAt, session = some (token, expiresAt) ∧ now < expiresAt := by
  rcases holds with ⟨same_token, same_expiry⟩
  rw [User.refreshTokenMatches, same_token, same_expiry]
  rcases session with _ | ⟨stored, expiresAt⟩
  · simp
  · have := named _ rfl
    simp_all [and_assoc]

/-- What a user holds is what the latest write left, and whoever was deleted stays so. -/
structure SessionsAgree (log : List Turn) (users : List User) : Prop where
  held : ∀ id user, users.find? (Store.isLiveUser id) = some user →
    user.Holds (latestSession log id)
  known : ∀ id session, latestSession log id = some session → ∃ user ∈ users, user.id = id
  gone : ∀ id, (∃ turn ∈ log, turn.exchange = ⟨.store (.deleteUser id), .ok true⟩) →
    (∃ user ∈ users, user.id = id) ∧ users.find? (Store.isLiveUser id) = none

theorem Exchange.sessionOf_of_leavesUsers {exchange : Exchange} (leaves : exchange.leavesUsers = true)
    (user : Uuid) : exchange.sessionOf user = none := by
  unfold Exchange.sessionOf
  split
  · simp [leavesUsers, StoreCall.isUserWrite, StoreCall.isRefused] at leaves
  · simp [leavesUsers, StoreCall.isUserWrite, StoreCall.isRefused] at leaves
  · simp [leavesUsers, StoreCall.isUserWrite, StoreCall.isRefused] at leaves
  · rfl

namespace Store

variable {store : Store} {id : Uuid} {users : List User} {moment : Moment} {exchange : Exchange}

/-- Once the only user with an identifier is deleted, there is no live one. -/
theorem liveUser?_tombstone (unique : (store.users.map User.id).Nodup) {user : User}
    (found : store.liveUser? id = some user) :
    (store.modifyUser id (tombstone moment)).liveUser? id = none := by
  have deleted : tombstone moment user ∈ (store.modifyUser id (tombstone moment)).users :=
    changed_mem_updateFirst found
  have unique_after : ((store.modifyUser id (tombstone moment)).users.map User.id).Nodup := by
    rwa [ids_modifyUser id (tombstone moment) fun user => rfl]
  rw [liveUser?, List.find?_eq_none]
  intro other mem isLive
  simp only [isLiveUser, Bool.and_eq_true, beq_iff_eq] at isLive
  have same : other = tombstone moment user :=
    List.inj_on_of_nodup_map unique_after mem deleted
      (isLive.1.trans (id_of_liveUser? found).symm)
  rw [same] at isLive
  exact absurd isLive.2 (by simp [tombstone, User.isLive])

theorem held_of_modifyUser {other : Uuid} (change : User → User) {after : User}
    (found : (store.modifyUser other change).liveUser? id = some after)
    (keeps : ∀ user, (change user).id = user.id ∧ (change user).deletedAt = user.deletedAt)
    (elsewhere : id ≠ other → exchange.sessionOf id = none)
    (here : id = other → ∀ user session, user.Holds session →
      (change user).Holds ((exchange.sessionOf id).getD session)) :
    ∃ before, store.liveUser? id = some before ∧ ∀ session, before.Holds session →
      after.Holds ((exchange.sessionOf id).getD session) := by
  by_cases same : id = other
  · have holds := here same
    subst same
    rw [liveUser?_modifyUser_self keeps] at found
    rcases Option.map_eq_some_iff.mp found with ⟨before, found_before, rfl⟩
    exact ⟨before, found_before, holds before⟩
  · rw [liveUser?_modifyUser_other (fun user => (keeps user).1) same] at found
    refine ⟨after, found, fun session holds => ?_⟩
    rwa [elsewhere same]

/-- A live user after a step was live before with the same session, if the step did not write it. -/
theorem held_of_step (step : UserStep store moment exchange users)
    (unique : (store.users.map User.id).Nodup) {after : User}
    (found : users.find? (isLiveUser id) = some after) :
    (∃ before, store.liveUser? id = some before ∧ ∀ session, before.Holds session →
        after.Holds ((exchange.sessionOf id).getD session)) ∨
      (id = moment.freshId ∧ exchange.sessionOf id = none ∧ after.Holds none) := by
  cases step with
  | keep leaves =>
      refine Or.inl ⟨after, found, fun session holds => ?_⟩
      rwa [Exchange.sessionOf_of_leavesUsers leaves]
  | create =>
      rw [List.find?_append, Option.or_eq_some_iff] at found
      rcases found with found | ⟨_, found⟩
      · exact Or.inl ⟨after, found, fun session holds => holds⟩
      · have isLive := List.find?_some found
        obtain rfl := List.mem_singleton.mp (List.mem_of_find?_eq_some found)
        simp only [isLiveUser, Bool.and_eq_true, beq_iff_eq] at isLive
        exact Or.inr ⟨isLive.1.symm, rfl, rfl, rfl⟩
  | @update other changes user found_before =>
      left
      apply held_of_modifyUser (changes.apply moment.now) found
      · exact fun user => ⟨rfl, rfl⟩
      · exact fun _ => rfl
      · exact fun _ user session holds => holds
  | @delete other user found_before =>
      left
      by_cases same : id = other
      · subst same
        cases (liveUser?_tombstone unique found_before).symm.trans found
      · have unchanged : (store.modifyUser other (tombstone moment)).liveUser? id =
            store.liveUser? id := liveUser?_modifyUser_other (fun user => rfl) same
        exact ⟨after, unchanged.symm.trans found, fun session holds => holds⟩
  | @openSession other token expiresAt user found_before =>
      left
      apply held_of_modifyUser (openSession token expiresAt) found
      · exact fun user => ⟨rfl, rfl⟩
      · exact fun apart => if_neg apart.symm
      · rintro rfl user session _
        simp [Exchange.sessionOf, User.Holds, openSession]
  | @renewSession other old new expiresAt user found_before current =>
      left
      apply held_of_modifyUser (openSession new expiresAt) found
      · exact fun user => ⟨rfl, rfl⟩
      · exact fun apart => if_neg apart.symm
      · rintro rfl user session _
        simp [Exchange.sessionOf, User.Holds, openSession]
  | @closeSession other =>
      left
      apply held_of_modifyUser closeSession found
      · exact fun user => ⟨rfl, rfl⟩
      · exact fun apart => if_neg apart.symm
      · rintro rfl user session _
        simp [Exchange.sessionOf, User.Holds, closeSession]

/-- A session is opened or renewed for live users only. -/
theorem found_of_sessionOf (step : UserStep store moment exchange users)
    {session : String × Instant} (wrote : exchange.sessionOf id = some (some session)) :
    ∃ user, store.liveUser? id = some user := by
  rcases Exchange.eq_of_sessionOf wrote with rfl | ⟨old, rfl⟩
  · cases step with
    | keep leaves => cases leaves
    | @openSession _ _ _ user found => exact ⟨user, found⟩
  · cases step with
    | keep leaves => cases leaves
    | @renewSession _ _ _ _ user found current => exact ⟨user, found⟩

end Store

namespace SessionsAgree

variable {log : List Turn} {store : Store} {turn : Turn} {moment : Moment} {users : List User}

/-- A step on users with identifiers of their own keeps them in agreement with the log. -/
theorem of_step (agree : SessionsAgree log store.users)
    (step : UserStep store moment turn.exchange users)
    (unique : (store.users.map User.id).Nodup)
    (fresh : moment.freshId ∉ store.users.map User.id) : SessionsAgree (log ++ [turn]) users := by
  have stays {id : Uuid} (present : ∃ user ∈ store.users, user.id = id) :=
    Store.present_of_step step present
  have not_fresh {id : Uuid} (present : ∃ user ∈ store.users, user.id = id) :
      id ≠ moment.freshId := by
    rintro rfl
    exact fresh (List.mem_map.mpr present)
  refine ⟨fun id user found => ?_, fun id session latest => ?_, fun id deleted => ?_⟩
  · rw [latestSession_append]
    rcases Store.held_of_step step unique found with
      ⟨before, found_before, holds⟩ | ⟨rfl, unwritten, holds⟩
    · exact holds _ (agree.held id before found_before)
    · rw [unwritten]
      cases latest : latestSession log moment.freshId with
      | none => exact holds
      | some session => exact absurd rfl (not_fresh (agree.known _ session latest))
  · rw [latestSession_append] at latest
    cases wrote : turn.exchange.sessionOf id with
    | none =>
        rw [wrote] at latest
        exact stays (agree.known id session latest)
    | some written =>
        rw [wrote] at latest
        obtain rfl : written = some session := latest
        rcases Store.found_of_sessionOf step wrote with ⟨user, found⟩
        exact stays ⟨user, Store.mem_of_liveUser? found, Store.id_of_liveUser? found⟩
  · rcases deleted with ⟨earlier, mem, exchanged⟩
    rcases List.mem_append.mp mem with mem | mem
    · rcases agree.gone id ⟨earlier, mem, exchanged⟩ with ⟨present, none_live⟩
      refine ⟨stays present, Option.eq_none_iff_forall_ne_some.mpr fun after found => ?_⟩
      rcases Store.held_of_step step unique found with ⟨before, found_before, _⟩ | ⟨same, _⟩
      · cases none_live.symm.trans found_before
      · exact not_fresh present same
    · rw [List.mem_singleton.mp mem] at exchanged
      rw [exchanged] at step
      cases step with
      | keep leaves => cases leaves
      | delete found =>
          refine ⟨stays ⟨_, Store.mem_of_liveUser? found, Store.id_of_liveUser? found⟩, ?_⟩
          exact Store.liveUser?_tombstone unique found

end SessionsAgree

namespace SideBySide

variable {hasher : Hasher} {tokens : TokenService} {moments : Nat → Moment}
  {operations : List Operation} {now : List (Program Outcome)} {world : World}
  {log earlier later : List Turn} {turn : Turn}

/-- Users have the identifiers that were drawn for them, each its own. -/
theorem ids_drawn (run : SideBySide hasher tokens moments operations log now world)
    (fresh : FreshUntil moments world.tick) :
    (∀ id ∈ world.store.users.map User.id, ∃ tick < world.tick, id = (moments tick).freshId) ∧
      (world.store.users.map User.id).Nodup := by
  induction run with
  | start => simp
  | @turn log now world position effect next run calls ih =>
      have step := System.inMemory_userStep hasher tokens moments effect world
      rcases ih (fresh.mono (Nat.le_succ world.tick)) with ⟨drawn, unique⟩
      have not_drawn := fresh.notMem drawn
      rcases Store.ids_of_step step with same | more
      · rw [same]
        refine ⟨fun id mem => ?_, unique⟩
        rcases drawn id mem with ⟨tick, earlier, same⟩
        exact ⟨tick, Nat.lt_succ_of_lt earlier, same⟩
      · rw [more]
        refine ⟨fun id mem => ?_, ?_⟩
        · rcases List.mem_append.mp mem with mem | mem
          · rcases drawn id mem with ⟨tick, earlier, same⟩
            exact ⟨tick, Nat.lt_succ_of_lt earlier, same⟩
          · exact ⟨world.tick, Nat.lt_succ_self _, List.mem_singleton.mp mem⟩
        · rw [List.nodup_append]
          refine ⟨unique, List.nodup_singleton _, ?_⟩
          rintro id mem _ last rfl
          exact not_drawn (List.mem_singleton.mp last ▸ mem)

theorem sessionsAgree (run : SideBySide hasher tokens moments operations log now world)
    (fresh : FreshUntil moments world.tick) : SessionsAgree log world.store.users := by
  induction run with
  | start => exact ⟨by simp, by simp [latestSession], by simp⟩
  | @turn log now world position effect next run calls ih =>
      have fresh_before := fresh.mono (Nat.le_succ world.tick)
      rcases ids_drawn run fresh_before with ⟨drawn, unique⟩
      have step := System.inMemory_userStep hasher tokens moments effect world
      exact (ih fresh_before).of_step step unique (fresh.notMem drawn)

end SideBySide

end OrgAccess
