import OrgAccess.Proofs.ManagerScope
import OrgAccess.Proofs.SessionChecks
import OrgAccess.Proofs.Visibility

/-!
# What operations leave alone

A change looks for the first live row with an identifier and rewrites it in its place. Where
identifiers are unique this is the only row with the identifier, so no other row can be hit
(`ChangesRow.of_updateFirst`).

Main statement: a successful operation on a reachable store changes the row or the link that it is
about, of a row only the fields that it is meant to change, and leaves all tables as they were
otherwise, in their order.
-/

namespace OrgAccess

/-- Of two tables the second has one row rewritten in its place, the only one with this key. -/
def ChangesRow {Row : Type} (key : Row → Uuid) (id : Uuid) (changed : Row → Row → Prop)
    (before after : List Row) : Prop :=
  ∃ earlier old new later, before = earlier ++ old :: later ∧ after = earlier ++ new :: later ∧
    key old = id ∧ changed old new ∧ ∀ other ∈ earlier ++ later, key other ≠ id

section Rows

variable {Row : Type} {key : Row → Uuid} {id : Uuid} {changed : Row → Row → Prop}
  {rows : List Row} {old : Row}

theorem Store.updateFirst_eq_append {test : Row → Bool} (change : Row → Row)
    (found : rows.find? test = some old) :
    ∃ earlier later, rows = earlier ++ old :: later ∧
      Store.updateFirst test change rows = earlier ++ change old :: later := by
  induction rows with
  | nil => cases found
  | cons first rest ih =>
      rw [Store.updateFirst]
      by_cases passes : test first = true
      · obtain rfl : first = old := by simpa [passes] using found
        exact ⟨[], rest, rfl, by simp [passes]⟩
      · obtain ⟨earlier, later, parts, changed⟩ := ih (by simpa [passes] using found)
        exact ⟨first :: earlier, later, by simp [parts], by simp [passes, changed]⟩

theorem key_ne_of_nodup {earlier later : List Row}
    (nodup : ((earlier ++ old :: later).map key).Nodup) :
    ∀ other ∈ earlier ++ later, key other ≠ key old := by
  have apart : (old :: (earlier ++ later)).map key |>.Nodup :=
    (List.perm_middle.map key).nodup_iff.mp nodup
  intro other mem same
  rw [List.map_cons, List.nodup_cons, ← same] at apart
  exact apart.1 (List.mem_map_of_mem mem)

theorem ChangesRow.of_updateFirst {test : Row → Bool} {change : Row → Row}
    (nodup : (rows.map key).Nodup) (found : rows.find? test = some old) (named : key old = id)
    (isChange : changed old (change old)) :
    ChangesRow key id changed rows (Store.updateFirst test change rows) := by
  obtain ⟨earlier, later, rfl, after⟩ := Store.updateFirst_eq_append change found
  subst named
  exact ⟨earlier, old, change old, later, rfl, after, rfl, isChange, key_ne_of_nodup nodup⟩

theorem ChangesRow.of_mem (nodup : (rows.map key).Nodup) (mem : old ∈ rows) (named : key old = id)
    (unchanged : changed old old) : ChangesRow key id changed rows rows := by
  obtain ⟨earlier, later, rfl⟩ := List.append_of_mem mem
  subst named
  exact ⟨earlier, old, old, later, rfl, rfl, rfl, unchanged, key_ne_of_nodup nodup⟩

end Rows

/-! ## What changes of a row -/

/-- Only the session of a user is another. -/
def User.SameButSession (old new : User) : Prop :=
  new = { old with refreshToken := new.refreshToken, refreshExpiresAt := new.refreshExpiresAt }

/-- What an update of a user never touches. -/
structure User.SameOrigin (old new : User) : Prop where
  id : new.id = old.id
  createdBy : new.createdBy = old.createdBy
  createdAt : new.createdAt = old.createdAt
  deletedAt : new.deletedAt = old.deletedAt
  refreshToken : new.refreshToken = old.refreshToken
  refreshExpiresAt : new.refreshExpiresAt = old.refreshExpiresAt

/-- A live user got a tombstone and is otherwise the same. -/
def User.IsBuried (old new : User) : Prop :=
  old.deletedAt = none ∧ ∃ instant, new = { old with deletedAt := some instant }

/-- Only the texts of a team and the instant of its last change are others. -/
def Team.SameButTexts (old new : Team) : Prop :=
  new = { old with
    name := new.name, description := new.description, updatedAt := new.updatedAt }

/-- A live team got a tombstone and is otherwise the same. -/
def Team.IsBuried (old new : Team) : Prop :=
  old.deletedAt = none ∧ ∃ instant, new = { old with deletedAt := some instant }

namespace Store

/-- Only the row of one user is another. -/
def OnlyUser (id : Uuid) (changed : User → User → Prop) (before after : Store) : Prop :=
  ∃ users, ChangesRow User.id id changed before.users users ∧ after = { before with users }

/-- Only the row of one team is another. -/
def OnlyTeam (id : Uuid) (changed : Team → Team → Prop) (before after : Store) : Prop :=
  ∃ teams, ChangesRow Team.id id changed before.teams teams ∧ after = { before with teams }

/-- Only one link may have come or gone. -/
def OnlyLink (link : ManagerLink) (before after : Store) : Prop :=
  ∃ links, links.filter (· != link) = before.links.filter (· != link) ∧
    after = { before with links }

end Store

/-- What a successful operation may change of the store. -/
def Operation.Touches (tokens : TokenService) (before after : Store) : Operation → Prop
  | register _ _ => ∃ user, after = { before with users := before.users ++ [user] }
  | login email _ => ∃ own, before.liveUserByEmail? email = some own ∧
    before.OnlyUser own.id User.SameButSession after
  | refresh token => ∃ own, tokens.Names token own ∧ before.OnlyUser own
    (fun old new => old.refreshToken = some token ∧ old.SameButSession new) after
  | logout own => before.liveUser? own = none ∧ after = before ∨
    before.OnlyUser own User.SameButSession after
  | updateUser _ id patch =>
    ∃ users, ChangesRow User.id id User.SameOrigin before.users users ∧
      after = { before with
        users
        links :=
          if patch.role.any (· != Role.manager.name) then
            before.links.filter fun link => link.manager != id
          else before.links }
  | deleteUser _ id => before.OnlyUser id User.IsBuried after
  | createTeam _ _ => ∃ team, after = { before with teams := before.teams ++ [team] }
  | updateTeam _ id _ => before.OnlyTeam id Team.SameButTexts after
  | deleteTeam _ id => before.OnlyTeam id Team.IsBuried after
  | addManager _ team manager => before.OnlyLink ⟨team, manager⟩ after
  | removeManager _ team manager => before.OnlyLink ⟨team, manager⟩ after
  | checkRefreshToken _ _ | profile _ | listUsers _ | getUser _ _ | listTeams _ | getTeam _ _ =>
    after = before

/-! ## What is changed -/

namespace Store

variable {store : Store} {id : Uuid} {user : User} {team : Team}

theorem Distinct.onlyUser_modifyUser (distinct : store.Distinct)
    (found : store.liveUser? id = some user) {changed : User → User → Prop} {change : User → User}
    (isChange : changed user (change user)) :
    store.OnlyUser id changed (store.modifyUser id change) :=
  ⟨_, .of_updateFirst distinct.users found (id_of_liveUser? found) isChange, rfl⟩

theorem Distinct.onlyTeam_modifyTeam (distinct : store.Distinct)
    (found : store.liveTeam? id = some team) {changed : Team → Team → Prop} {change : Team → Team}
    (isChange : changed team (change team)) :
    store.OnlyTeam id changed (store.modifyTeam id change) :=
  ⟨_, .of_updateFirst distinct.teams found (id_of_liveTeam? found) isChange, rfl⟩

/-- Where no row is found, none is changed. -/
theorem updateFirst_of_find?_none {Row : Type} {test : Row → Bool} {rows : List Row}
    (change : Row → Row) (missing : rows.find? test = none) :
    updateFirst test change rows = rows := by
  induction rows with
  | nil => rfl
  | cons first rest ih =>
      rw [List.find?_cons] at missing
      cases passes : test first with
      | true => simp [passes] at missing
      | false =>
          rw [passes] at missing
          simp [updateFirst, passes, ih missing]

theorem Distinct.touches_revokeRefreshToken (distinct : store.Distinct) (id : Uuid) :
    store.liveUser? id = none ∧ store.revokeRefreshToken id = store ∨
      store.OnlyUser id User.SameButSession (store.revokeRefreshToken id) := by
  cases found : store.liveUser? id with
  | none =>
      refine Or.inl ⟨rfl, ?_⟩
      rw [revokeRefreshToken, modifyUser, updateFirst_of_find?_none closeSession found]
  | some user => exact Or.inr (distinct.onlyUser_modifyUser found rfl)

theorem onlyLink_addManager (store : Store) (team manager : Uuid) :
    store.OnlyLink ⟨team, manager⟩ (store.addManager team manager) := by
  unfold addManager
  split
  · exact ⟨store.links, rfl, rfl⟩
  · exact ⟨_, by simp, rfl⟩

theorem onlyLink_removeManager (store : Store) (team manager : Uuid) :
    store.OnlyLink ⟨team, manager⟩ (store.removeManager team manager) :=
  ⟨_, by simp [List.filter_filter], rfl⟩

end Store

theorem UserChanges.leavesManagerRole_eq {changes : UserChanges} {asked : Option String}
    (named : changes.role.map some = asked.map Role.ofName?) :
    changes.leavesManagerRole = asked.any (· != Role.manager.name) := by
  rw [Bool.eq_iff_iff, UserChanges.leavesManagerRole_iff named]
  cases asked <;> simp

theorem User.refreshToken_of_matches {user : User} {token : String} {now : Instant}
    (current : user.refreshTokenMatches token now = true) : user.refreshToken = some token := by
  unfold refreshTokenMatches at current
  split at current
  · rename_i stored expiresAt isToken _
    simp only [Bool.and_eq_true, beq_iff_eq] at current
    rw [isToken, current.1.2]
  · cases current

/-- A refresh that succeeds has rewritten the session of the user whom its token names. -/
theorem exists_own_of_refresh {hasher : Hasher} {tokens : TokenService} {moments : Nat → Moment}
    {token : String} {world : World} {renewal : Renewal}
    (succeeded : ((Operation.refresh token).program.run
      ((System.inMemory hasher tokens).handler moments) world).1 = .ok renewal) :
    ∃ own user new expiresAt, tokens.Names token own ∧ world.store.liveUser? own = some user ∧
      user.refreshToken = some token ∧
      ((Operation.refresh token).program.run
        ((System.inMemory hasher tokens).handler moments) world).2.store =
          world.store.modifyUser own (Store.openSession new expiresAt) := by
  rw [run_refresh] at succeeded ⊢
  split at succeeded
  · cases succeeded
  · rename_i claims accepted
    have names := (TokenService.names_iff_of_validateRefresh accepted).mpr rfl
    split at succeeded
    · cases succeeded
    · rename_i pair issued
      simp only [Store.rotateRefreshToken] at succeeded ⊢
      cases found : world.store.liveUser? claims.userId with
      | none => simp [found] at succeeded
      | some user =>
          by_cases current :
              user.refreshTokenMatches token (moments (world.tick + 2)).now = true
          · refine ⟨claims.userId, user, pair.refreshToken, pair.refreshExpiresAt, names, found,
              user.refreshToken_of_matches current, ?_⟩
            simp only [current, if_true]
          · simp [found, current] at succeeded

/--
A successful operation on a reachable store changes no more than it is meant to. Of the row that it
is about, all other fields stay, and so do all other rows and links, in their order.
-/
theorem operations_touch_targets {store : Store} (reachable : store.Reachable)
    (operation : Operation) (hasher : Hasher) (tokens : TokenService) (moments : Nat → Moment)
    (tick : Nat) {value : operation.Value}
    (succeeded : (operation.program.run ((System.inMemory hasher tokens).handler moments)
      ⟨store, tick⟩).1 = .ok value) :
    operation.Touches tokens store
      (operation.program.run ((System.inMemory hasher tokens).handler moments)
        ⟨store, tick⟩).2.store := by
  have distinct := reachable.distinct
  have explained := operation.run_explains hasher tokens moments ⟨store, tick⟩
  generalize ran : operation.program.run ((System.inMemory hasher tokens).handler moments)
    ⟨store, tick⟩ = ended at succeeded explained ⊢
  obtain ⟨result, after, last⟩ := ended
  obtain rfl : result = .ok value := succeeded
  have achieves : operation.Achieves hasher tokens moments store value after := explained
  cases achieves with
  | shown reads =>
      cases operation with
      | checkRefreshToken _ _ | profile _ | listUsers _ | getUser _ _ | listTeams _
      | getTeam _ _ => rfl
      | _ => cases reads
  | registered tick asks free => exact ⟨_, rfl⟩
  | loggedIn tick found verified issued =>
      obtain ⟨live, isLive⟩ := Store.exists_liveUser?_of_email found
      exact ⟨_, found, distinct.onlyUser_modifyUser isLive rfl⟩
  | refreshed issuing rotating found current issued =>
      obtain ⟨own, user, new, expiresAt, names, found, holds, same⟩ :=
        exists_own_of_refresh (congrArg Prod.fst ran)
      refine ⟨own, names, ?_⟩
      rw [ran] at same
      dsimp only at same ⊢
      rw [same]
      exact distinct.onlyUser_modifyUser found ⟨holds, rfl⟩
  | loggedOut => exact distinct.touches_revokeRefreshToken _
  | @userUnchanged caller id patch user found asks =>
      have same : patch.role.any (· != Role.manager.name) = false :=
        (UserChanges.leavesManagerRole_eq asks.role).symm
      refine ⟨store.users, .of_mem distinct.users (Store.mem_of_liveUser? found)
        (Store.id_of_liveUser? found) ⟨rfl, rfl, rfl, rfl, rfl, rfl⟩, ?_⟩
      simp [same]
  | userUpdated tick found asks free =>
      rw [UserChanges.leavesManagerRole_eq asks.role]
      exact ⟨_, .of_updateFirst distinct.users found (Store.id_of_liveUser? found)
        ⟨rfl, rfl, rfl, rfl, rfl, rfl⟩, rfl⟩
  | userDeleted tick found =>
      have isLive := Store.isLive_of_liveUser? found
      exact distinct.onlyUser_modifyUser found ⟨by simpa [User.isLive] using isLive, _, rfl⟩
  | teamCreated tick name description => exact ⟨_, rfl⟩
  | teamUpdated tick found name description => exact distinct.onlyTeam_modifyTeam found rfl
  | teamDeleted tick found =>
      have isLive := Store.isLive_of_liveTeam? found
      exact distinct.onlyTeam_modifyTeam found ⟨by simpa [Team.isLive] using isLive, _, rfl⟩
  | managerAdded => exact store.onlyLink_addManager _ _
  | managerRemoved => exact store.onlyLink_removeManager _ _

/-- A manager who becomes an employee keeps the rest of its row and loses its only link. -/
theorem staff_demotion_touches :
    let handler := (System.inMemory .plain .unsigned).handler .numbered
    let demotion := Operation.updateUser ⟨1⟩ ⟨3⟩ { role := some "employee" }
    let manager := staffMember 3 "manager@example.org" .manager none
    let later := (demotion.program.run handler ⟨staff, 7⟩).2.store
    staff.Reachable ∧
      (demotion.program.run handler ⟨staff, 7⟩).1 =
        .ok { manager.toPublic with role := .employee } ∧
      staff.links = [⟨⟨2⟩, ⟨3⟩⟩] ∧ later.links = [] ∧ later.teams = staff.teams ∧
      ChangesRow User.id ⟨3⟩ User.SameOrigin staff.users later.users := by
  intro handler demotion manager later
  have succeeded : (demotion.program.run handler ⟨staff, 7⟩).1 =
      .ok { manager.toPublic with role := .employee } := by decide +kernel
  obtain ⟨users, changes, same⟩ :=
    operations_touch_targets staff_reachable demotion .plain .unsigned .numbered 7 succeeded
  have after : later = { staff with users, links := [] } := same
  exact ⟨staff_reachable, succeeded, by decide +kernel, by rw [after], by rw [after],
    by rwa [after]⟩

end OrgAccess
