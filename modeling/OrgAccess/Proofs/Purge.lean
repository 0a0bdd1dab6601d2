import OrgAccess.Proofs.Reachable

/-!
# Deleting for good

A deleted row stays in the store with a tombstone. Whether it does cannot be told from outside:
`Store.purge` takes the rows of deleted users and teams out, and every call is answered as before,
with the purged stores after it the same again (`Store.perform_purge`).

Main statement: whatever calls follow, a reachable store and the purged one answer them alike, and
what was deleted stays as it is, is never shown again and keeps no address taken.
-/

namespace OrgAccess

/-- The users that the store answers a call with. -/
def StoreCall.usersIn : (call : StoreCall) → call.Answer → List User
  | createUser _, user => [user]
  | findUser _, found | findUserByEmail _, found | updateUser _ _, found => found.toList
  | listUsers _, users | listEmployees _, users | listManagers _, users => users
  | _, _ => []

/-- The identifiers of the teams that the store answers a call with. -/
def StoreCall.teamIdsIn : (call : StoreCall) → call.Answer → List Uuid
  | createTeam _ _, team => [team.id]
  | findTeam _, found | updateTeam _ _, found => found.toList.map Team.id
  | listTeams _, teams => teams.map Team.id
  | managedTeamIds _, ids => ids
  | _, _ => []

/-- The address that a call wants a user to have. -/
def StoreCall.email? : StoreCall → Option String
  | createUser data => some data.email
  | updateUser _ changes => changes.email
  | _ => none

namespace Store

/-- The store without the rows of deleted users and teams; all links stay. -/
def purge (store : Store) : Store :=
  { store with users := store.liveUsers, teams := store.liveTeams }

/-- What calls make of the rows that were deleted before them. -/
structure DeletionIsFinal (store : Store) (calls : List TimedCall) : Prop where
  /-- The row of a deleted user stays in its place and as it is. -/
  users : ∀ (position : Nat) (user : User), store.users[position]? = some user →
    user.isLive = false → (store.afterAll calls).users[position]? = some user
  /-- The row of a deleted team stays in its place and as it is. -/
  teams : ∀ (position : Nat) (team : Team), store.teams[position]? = some team →
    team.isLive = false → (store.afterAll calls).teams[position]? = some team
  /-- No answer shows a user with the identifier of a deleted one. -/
  unseenUsers : ∀ user ∈ store.users, user.isLive = false →
    ∀ call value, (store.exchanges calls).Saw call value →
      ∀ shown ∈ call.usersIn value, shown.id ≠ user.id
  /-- No answer shows the identifier of a deleted team. -/
  unseenTeams : ∀ team ∈ store.teams, team.isLive = false →
    ∀ call value, (store.exchanges calls).Saw call value → team.id ∉ call.teamIdsIn value
  /-- A call fails only for an address that a live user has at that time. -/
  addresses : ∀ before timed later error, calls = before ++ timed :: later →
    ((store.afterAll before).perform timed.moment timed.call).1 = .error error →
      ∃ holder ∈ (store.afterAll before).users, holder.isLive = true ∧
        timed.call.email? = some holder.email

section Filter

variable {α : Type} {keep test : α → Bool}

theorem keep_and_of_imp (imp : ∀ item, test item = true → keep item = true) (item : α) :
    (keep item && test item) = test item := by
  cases passes : test item with
  | false => simp
  | true => simp [imp item passes]

theorem find?_filter_of_imp (imp : ∀ item, test item = true → keep item = true) (items : List α) :
    (items.filter keep).find? test = items.find? test := by
  simp only [List.find?_filter, Bool.decide_and, Bool.decide_eq_true, keep_and_of_imp imp]

theorem any_filter_of_imp (imp : ∀ item, test item = true → keep item = true) (items : List α) :
    (items.filter keep).any test = items.any test := by
  simp only [List.any_filter, keep_and_of_imp imp]

theorem filter_filter_of_imp (imp : ∀ item, test item = true → keep item = true)
    (items : List α) : (items.filter keep).filter test = items.filter test := by
  simp only [List.filter_comm test keep, List.filter_filter, keep_and_of_imp imp]

/-- Where a change reaches only items that are kept, it does not matter whether the others are gone. -/
theorem filter_updateFirst_filter (imp : ∀ item, test item = true → keep item = true)
    (change : α → α) (items : List α) :
    (updateFirst test change (items.filter keep)).filter keep =
      (updateFirst test change items).filter keep := by
  induction items with
  | nil => rfl
  | cons item items ih =>
      cases kept : keep item with
      | true =>
          rw [List.filter_cons_of_pos kept, updateFirst, updateFirst]
          split
          · simp [List.filter_cons]
          · simp [List.filter_cons, ih]
      | false =>
          have fails : ¬test item = true := by
            intro passes
            rw [imp item passes] at kept
            cases kept
          rw [List.filter_cons_of_neg (by simp [kept]), updateFirst, if_neg fails, ih,
            List.filter_cons_of_neg (by simp [kept])]

end Filter

variable {store : Store}

theorem isLive_of_isLiveUser {id : Uuid} (user : User) (passes : isLiveUser id user = true) :
    user.isLive = true :=
  (isLiveUser_iff.mp passes).1

theorem isLive_of_isLiveTeam {id : Uuid} (team : Team) (passes : isLiveTeam id team = true) :
    team.isLive = true :=
  (isLiveTeam_iff.mp passes).1

/-! ## What a purged store tells -/

section Questions

variable (store)

@[simp]
theorem liveUser?_purge (id : Uuid) : store.purge.liveUser? id = store.liveUser? id :=
  find?_filter_of_imp isLive_of_isLiveUser store.users

@[simp]
theorem liveTeam?_purge (id : Uuid) : store.purge.liveTeam? id = store.liveTeam? id :=
  find?_filter_of_imp isLive_of_isLiveTeam store.teams

@[simp]
theorem liveUserByEmail?_purge (email : String) :
    store.purge.liveUserByEmail? email = store.liveUserByEmail? email :=
  find?_filter_of_imp (by simp +contextual) store.users

@[simp]
theorem emailTaken_purge (email : String) (exempt : Option Uuid) :
    store.purge.emailTaken email exempt = store.emailTaken email exempt :=
  any_filter_of_imp (by simp +contextual) store.users

@[simp]
theorem adminExists_purge : store.purge.adminExists = store.adminExists :=
  any_filter_of_imp (by simp +contextual) store.users

@[simp]
theorem listUsers_purge (visibility : UserVisibility) :
    store.purge.listUsers visibility = store.listUsers visibility :=
  filter_filter_of_imp (by simp +contextual) store.users

@[simp]
theorem listTeams_purge (visibility : TeamVisibility) :
    store.purge.listTeams visibility = store.listTeams visibility :=
  filter_filter_of_imp (by simp +contextual) store.teams

@[simp]
theorem listEmployees_purge (team : Uuid) :
    store.purge.listEmployees team = store.listEmployees team :=
  filter_filter_of_imp (by simp +contextual) store.users

@[simp]
theorem listManagers_purge (team : Uuid) :
    store.purge.listManagers team = store.listManagers team :=
  filter_filter_of_imp (by simp +contextual) store.users

@[simp]
theorem managedTeamIds_purge (manager : Uuid) :
    store.purge.managedTeamIds manager = store.managedTeamIds manager :=
  congrArg (List.map Team.id) (filter_filter_of_imp (by simp +contextual) store.teams)

end Questions

/-! ## What becomes of a purged store -/

theorem purge_eq_iff {first second : Store} :
    first.purge = second.purge ↔
      first.liveUsers = second.liveUsers ∧ first.liveTeams = second.liveTeams ∧
        first.links = second.links := by
  simp [purge]

@[simp]
theorem liveUsers_purge (store : Store) : store.purge.liveUsers = store.liveUsers := by
  simp [purge, liveUsers]

@[simp]
theorem liveTeams_purge (store : Store) : store.purge.liveTeams = store.liveTeams := by
  simp [purge, liveTeams]

theorem purge_purge (store : Store) : store.purge.purge = store.purge :=
  purge_eq_iff.mpr ⟨store.liveUsers_purge, store.liveTeams_purge, rfl⟩

theorem purge_modifyUser (store : Store) (id : Uuid) (change : User → User) :
    (store.purge.modifyUser id change).purge = (store.modifyUser id change).purge :=
  purge_eq_iff.mpr
    ⟨filter_updateFirst_filter isLive_of_isLiveUser change store.users, store.liveTeams_purge, rfl⟩

theorem purge_modifyTeam (store : Store) (id : Uuid) (change : Team → Team) :
    (store.purge.modifyTeam id change).purge = (store.modifyTeam id change).purge :=
  purge_eq_iff.mpr
    ⟨store.liveUsers_purge, filter_updateFirst_filter isLive_of_isLiveTeam change store.teams, rfl⟩

/-- A purged store answers a call as before, and purging both makes them the same after it. -/
theorem perform_purge (store : Store) (moment : Moment) (call : StoreCall) :
    (store.purge.perform moment call).1 = (store.perform moment call).1 ∧
      (store.purge.perform moment call).2.purge = (store.perform moment call).2.purge := by
  cases call with
  | createUser data =>
      simp only [perform, createUser, emailTaken_purge]
      split
      · exact ⟨rfl, store.purge_purge⟩
      · exact ⟨rfl, purge_eq_iff.mpr (by simp [liveUsers, liveTeams, purge])⟩
  | updateUser id changes =>
      simp only [perform, updateUser, emailTaken_purge, liveUser?_purge]
      split
      · exact ⟨rfl, store.purge_purge⟩
      · split
        · exact ⟨rfl, store.purge_purge⟩
        · -- The links that a change of role takes away are the same on both sides.
          refine ⟨rfl, purge_eq_iff.mpr ?_⟩
          rcases purge_eq_iff.mp (store.purge_modifyUser id (changes.apply moment.now)) with
            ⟨users, teams, _⟩
          exact ⟨users, teams, rfl⟩
  | deleteUser _ | storeRefreshToken _ _ _ =>
      simp only [perform, deleteUser, storeRefreshToken, answered, liveUser?_purge]
      split
      · exact ⟨rfl, store.purge_purge⟩
      · exact ⟨rfl, store.purge_modifyUser _ _⟩
  | rotateRefreshToken id old new expiresAt =>
      simp only [perform, rotateRefreshToken, answered, liveUser?_purge]
      split
      · exact ⟨rfl, store.purge_purge⟩
      · split
        · exact ⟨rfl, store.purge_modifyUser id _⟩
        · exact ⟨rfl, store.purge_purge⟩
  | revokeRefreshToken id => exact ⟨rfl, store.purge_modifyUser id _⟩
  | createTeam stamp data =>
      exact ⟨rfl, purge_eq_iff.mpr (by simp [perform, createTeam, answered, liveUsers, liveTeams, purge])⟩
  | updateTeam _ _ | deleteTeam _ =>
      simp only [perform, updateTeam, deleteTeam, answered, liveTeam?_purge]
      split
      · exact ⟨rfl, store.purge_purge⟩
      · exact ⟨rfl, store.purge_modifyTeam _ _⟩
  | addManager team manager =>
      refine ⟨rfl, ?_⟩
      by_cases linked : store.isLinked team manager = true
      · have same : store.purge.isLinked team manager = true := linked
        simp only [perform, addManager, if_pos linked, if_pos same, purge_purge]
      · have same : ¬store.purge.isLinked team manager = true := linked
        simp only [perform, addManager, if_neg linked, if_neg same]
        exact purge_eq_iff.mpr (by simp [liveUsers, liveTeams, purge])
  | removeManager team manager =>
      exact ⟨rfl, purge_eq_iff.mpr (by simp [perform, removeManager, liveUsers, liveTeams, purge])⟩
  | _ => exact ⟨by simp [perform], store.purge_purge⟩

/-- No sequence of calls tells a store from the purged one. -/
theorem exchanges_purge (store : Store) (calls : List TimedCall) :
    store.purge.exchanges calls = store.exchanges calls := by
  induction calls generalizing store with
  | nil => rfl
  | cons timed calls ih =>
      rcases store.perform_purge timed.moment timed.call with ⟨same_answer, same_purge⟩
      -- The store that was purged may hold new tombstones by now, so both are purged once more.
      have rest := calc
        (store.purge.after timed).exchanges calls
        _ = (store.purge.after timed).purge.exchanges calls := (ih _).symm
        _ = (store.after timed).purge.exchanges calls := congrArg (·.exchanges calls) same_purge
        _ = (store.after timed).exchanges calls := ih _
      simp only [exchanges, exchange, same_answer, rest]

/-! ## What becomes of a deleted row -/

theorem getElem?_updateFirst {α : Type} {test : α → Bool} {change : α → α} {items : List α}
    {item : α} {position : Nat} (found : items[position]? = some item) (fails : test item = false) :
    (updateFirst test change items)[position]? = some item := by
  induction items generalizing position with
  | nil => cases found
  | cons first rest ih =>
      rw [updateFirst]
      cases position with
      | zero =>
          obtain rfl : first = item := by simpa using found
          simp [fails]
      | succ position =>
          split
          · simpa using found
          · simpa using ih (by simpa using found)

theorem users_after_of_deleted {user : User} {position : Nat} (timed : TimedCall)
    (found : store.users[position]? = some user) (deleted : user.isLive = false) :
    (store.after timed).users[position]? = some user := by
  rcases timed with ⟨moment, call⟩
  have unreached (id : Uuid) (change : User → User) :
      (store.modifyUser id change).users[position]? = some user :=
    getElem?_updateFirst found (by simp [isLiveUser, deleted])
  have step := store.userStep moment call
  simp only [after]
  generalize (store.perform moment call).2.users = users at step
  generalize (store.perform moment call).1 = answer at step
  cases step with
  | keep leaves => exact found
  | create =>
      rw [List.getElem?_append_left (List.getElem?_eq_some_iff.mp found).1]
      exact found
  | update found | delete found | openSession found | renewSession found current | closeSession =>
      exact unreached _ _

theorem teams_after_of_deleted {team : Team} {position : Nat} (timed : TimedCall)
    (found : store.teams[position]? = some team) (deleted : team.isLive = false) :
    (store.after timed).teams[position]? = some team := by
  rcases timed with ⟨moment, call⟩
  have unreached (id : Uuid) (change : Team → Team) :
      (store.modifyTeam id change).teams[position]? = some team :=
    getElem?_updateFirst found (by simp [isLiveTeam, deleted])
  have step := store.teamStep moment call
  simp only [after]
  generalize (store.perform moment call).2.teams = teams at step
  cases step with
  | keep => exact found
  | create =>
      rw [List.getElem?_append_left (List.getElem?_eq_some_iff.mp found).1]
      exact found
  | update found | delete found => exact unreached _ _

/-! ## What the answers show -/

variable {moment : Moment} {call : StoreCall}

theorem isLive_of_shown {value : call.Answer} {shown : User}
    (answered : (store.perform moment call).1 = .ok value) (mem : shown ∈ call.usersIn value) :
    shown ∈ (store.perform moment call).2.users ∧ shown.isLive = true := by
  cases call with
  | createUser data =>
      simp only [perform, createUser] at answered ⊢
      split at answered
      · cases answered
      · cases answered
        obtain rfl := List.mem_singleton.mp mem
        rename_i free
        simp [free, newUserRecord, User.isLive]
  | updateUser id changes =>
      simp only [perform] at answered ⊢
      rcases store.updateUser_cases moment id changes with ⟨unmade, _⟩ | ⟨user, found, made⟩
      · obtain rfl := Option.mem_toList.mp mem
        exact absurd answered (unmade shown)
      · rw [made] at answered ⊢
        cases answered
        obtain rfl := List.mem_singleton.mp mem
        have live : user.isLive = true := isLive_of_liveUser? found
        exact ⟨changed_mem_updateFirst found, live⟩
  | findUser id =>
      cases answered
      have found := Option.mem_toList.mp mem
      exact ⟨mem_of_liveUser? found, isLive_of_liveUser? found⟩
  | findUserByEmail email =>
      cases answered
      have found := Option.mem_toList.mp mem
      have passes := List.find?_some found
      simp only [Bool.and_eq_true] at passes
      exact ⟨List.mem_of_find?_eq_some found, passes.1⟩
  | listUsers _ | listEmployees _ | listManagers _ =>
      cases answered
      have listed := List.mem_filter.mp mem
      simp only [Bool.and_eq_true] at listed
      exact ⟨listed.1, by tauto⟩
  | _ => simp [StoreCall.usersIn] at mem

theorem isLive_of_shown_team {value : call.Answer} {id : Uuid}
    (answered : (store.perform moment call).1 = .ok value) (mem : id ∈ call.teamIdsIn value) :
    ∃ team ∈ (store.perform moment call).2.teams, team.isLive = true ∧ team.id = id := by
  cases call with
  | createTeam stamp data =>
      cases answered
      obtain rfl := List.mem_singleton.mp mem
      exact ⟨newTeamRecord stamp data, by simp [perform, createTeam, answered], rfl, rfl⟩
  | updateTeam other changes =>
      simp only [perform, updateTeam] at answered ⊢
      split at answered
      · cases answered
        simp [StoreCall.teamIdsIn] at mem
      · rename_i team found
        cases answered
        obtain rfl := List.mem_singleton.mp mem
        have live : team.isLive = true := isLive_of_liveTeam? found
        exact ⟨_, changed_mem_updateFirst found, live, rfl⟩
  | findTeam other =>
      cases answered
      rcases List.mem_map.mp mem with ⟨team, found, rfl⟩
      rw [Option.mem_toList] at found
      exact ⟨team, mem_of_liveTeam? found, isLive_of_liveTeam? found, rfl⟩
  | listTeams _ | managedTeamIds _ =>
      cases answered
      rcases List.mem_map.mp mem with ⟨team, listed, rfl⟩
      have listed := List.mem_filter.mp listed
      simp only [Bool.and_eq_true] at listed
      exact ⟨team, listed.1, listed.2.1, rfl⟩
  | _ => simp [StoreCall.teamIdsIn] at mem

theorem exists_of_emailTaken {email : String} {exempt : Option Uuid}
    (taken : store.emailTaken email exempt = true) :
    ∃ holder ∈ store.users, holder.isLive = true ∧ holder.email = email := by
  rcases List.any_eq_true.mp taken with ⟨holder, mem, holds⟩
  simp only [Bool.and_eq_true, beq_iff_eq] at holds
  exact ⟨holder, mem, holds.1.1, holds.1.2⟩

/-- The only error that the store in memory knows is an address that a live user has. -/
theorem taken_of_error {error : StoreError} (failed : (store.perform moment call).1 = .error error) :
    error = .emailTaken ∧
      ∃ holder ∈ store.users, holder.isLive = true ∧ call.email? = some holder.email := by
  cases call with
  | createUser data =>
      simp only [perform, createUser] at failed
      split at failed
      · rename_i taken
        rcases exists_of_emailTaken taken with ⟨holder, mem, live, same⟩
        refine ⟨(Except.error.inj failed).symm, holder, mem, live, ?_⟩
        rw [StoreCall.email?, same]
      · cases failed
  | updateUser id changes =>
      simp only [perform, updateUser] at failed
      split at failed
      · rename_i taken
        rw [Option.any_eq_true] at taken
        rcases taken with ⟨email, named, taken⟩
        rcases exists_of_emailTaken taken with ⟨holder, mem, live, same⟩
        refine ⟨(Except.error.inj failed).symm, holder, mem, live, ?_⟩
        rw [StoreCall.email?, same, named]
      · split at failed <;> cases failed
  | _ => cases failed

/-! ## Calls in a row -/

variable {calls : List TimedCall}

theorem users_afterAll_of_deleted {user : User} {position : Nat} (calls : List TimedCall)
    (found : store.users[position]? = some user) (deleted : user.isLive = false) :
    (store.afterAll calls).users[position]? = some user := by
  induction calls generalizing store with
  | nil => exact found
  | cons timed calls ih => exact ih (users_after_of_deleted timed found deleted)

theorem teams_afterAll_of_deleted {team : Team} {position : Nat} (calls : List TimedCall)
    (found : store.teams[position]? = some team) (deleted : team.isLive = false) :
    (store.afterAll calls).teams[position]? = some team := by
  induction calls generalizing store with
  | nil => exact found
  | cons timed calls ih => exact ih (teams_after_of_deleted timed found deleted)

/-- What is answered is answered by a call after which the store is reachable still. -/
theorem Reachable.exists_of_saw {value : call.Answer} (reachable : store.Reachable)
    (fresh : store.AllFresh calls) (saw : (store.exchanges calls).Saw call value) :
    ∃ before moment, (store.afterAll (before ++ [⟨moment, call⟩])).Distinct ∧
      ((store.afterAll before).perform moment call).1 = .ok value := by
  rcases Store.exists_of_saw saw with ⟨before, moment, later, rfl, answered⟩
  rw [List.append_cons, allFresh_append] at fresh
  exact ⟨before, moment, (reachable.afterAll fresh.1).distinct, answered⟩

theorem Reachable.deletionIsFinal (reachable : store.Reachable) (fresh : store.AllFresh calls) :
    store.DeletionIsFinal calls := by
  refine ⟨fun position user found deleted => users_afterAll_of_deleted calls found deleted,
    fun position team found deleted => teams_afterAll_of_deleted calls found deleted, ?_, ?_, ?_⟩
  · intro user mem deleted call value saw shown mem_shown same
    rcases reachable.exists_of_saw fresh saw with ⟨before, moment, distinct, answered⟩
    rcases isLive_of_shown answered mem_shown with ⟨shown_mem, live⟩
    rcases List.mem_iff_getElem?.mp mem with ⟨position, found⟩
    have still := List.mem_of_getElem?
      (users_afterAll_of_deleted (before ++ [⟨moment, call⟩]) found deleted)
    rw [afterAll_append] at distinct still
    rw [distinct.user_eq shown_mem still same, deleted] at live
    cases live
  · intro team mem deleted call value saw shown
    rcases reachable.exists_of_saw fresh saw with ⟨before, moment, distinct, answered⟩
    rcases isLive_of_shown_team answered shown with ⟨other, other_mem, live, same⟩
    rcases List.mem_iff_getElem?.mp mem with ⟨position, found⟩
    have still := List.mem_of_getElem?
      (teams_afterAll_of_deleted (before ++ [⟨moment, call⟩]) found deleted)
    rw [afterAll_append] at distinct still
    rw [distinct.team_eq other_mem still same, deleted] at live
    cases live
  · intro before timed later error _ failed
    exact (taken_of_error failed).2

end Store

/--
Calls in a row are answered alike by a reachable store and by the same store without the rows of
deleted users and teams, and what was deleted is neither changed nor shown nor in the way of an
address.
-/
theorem deletion_is_removal {store : Store} (reachable : store.Reachable) {calls : List TimedCall}
    (fresh : store.AllFresh calls) :
    store.purge.exchanges calls = store.exchanges calls ∧ store.DeletionIsFinal calls :=
  ⟨store.exchanges_purge calls, reachable.deletionIsFinal fresh⟩

/-- An account that someone asks for again and again. -/
def newcomer : NewUser where
  email := "ada@example.org"
  passwordHash := ""
  firstName := "Ada"
  lastName := "Byron"
  phoneNumber := none
  role := .manager
  createdBy := none
  teamId := none

/-- An account and a team, both deleted again. -/
def bygones : List TimedCall :=
  [⟨.numbered 1, .createUser newcomer⟩,
    ⟨.numbered 2, .createTeam (.numbered 3) { name := "Core", description := none, createdBy := ⟨1⟩ }⟩,
    ⟨.numbered 4, .addManager ⟨3⟩ ⟨1⟩⟩,
    ⟨.numbered 5, .deleteUser ⟨1⟩⟩,
    ⟨.numbered 6, .deleteTeam ⟨3⟩⟩]

/-- The old account is looked for and changed, and its address is given to a new one. -/
def comeback : List TimedCall :=
  [⟨.numbered 7, .findUserByEmail newcomer.email⟩,
    ⟨.numbered 8, .updateUser ⟨1⟩ { role := some .admin }⟩,
    ⟨.numbered 9, .createUser newcomer⟩,
    ⟨.numbered 10, .managedTeamIds ⟨1⟩⟩,
    ⟨.numbered 11, .listUsers .all⟩]

theorem bygones_are_bygones :
    let store := ({} : Store).afterAll bygones
    store.Reachable ∧ store.AllFresh comeback ∧
      store.purge.exchanges comeback = store.exchanges comeback ∧ store.DeletionIsFinal comeback := by
  intro store
  have reachable : store.Reachable := Store.Reachable.empty.afterAll (by decide +kernel)
  have fresh : store.AllFresh comeback := by decide +kernel
  exact ⟨reachable, fresh, deletion_is_removal reachable fresh⟩

end OrgAccess
