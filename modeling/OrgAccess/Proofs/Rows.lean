import OrgAccess.Proofs.Memory

/-!
# Rows of the store

A change of the store reaches one row, the first live one with an identifier. Everything that the
calls do to users goes through `Store.updateFirst`, so what it does to the rows and to the lookups
is said here once.

`UserStep` lists everything that a call can do to the users, with the answer that goes with it, and
`TeamStep` everything that it can do to the teams. What the calls preserve of the rows is proved by
cases on these.
-/

namespace OrgAccess

/-- Whether a call may change users. -/
def StoreCall.isUserWrite : StoreCall → Bool
  | createUser _ | updateUser _ _ | deleteUser _ | storeRefreshToken _ _ _
  | rotateRefreshToken _ _ _ _ | revokeRefreshToken _ => true
  | _ => false

/-- A user marked as deleted. -/
def Store.tombstone (moment : Moment) (user : User) : User :=
  { user with deletedAt := some moment.now }

/-- Whether an exchange leaves all users as they were. -/
def Exchange.leavesUsers : Exchange → Bool
  | ⟨.store call, answer⟩ => !call.isUserWrite || call.isRefused answer
  | _ => true

/-- What an exchange with the store makes of the users. -/
inductive UserStep (store : Store) (moment : Moment) : Exchange → List User → Prop where
  | keep {exchange} (leaves : exchange.leavesUsers = true) :
      UserStep store moment exchange store.users
  | create {data} :
      UserStep store moment ⟨.store (.createUser data), .ok (Store.newUserRecord moment data)⟩
        (store.users ++ [Store.newUserRecord moment data])
  | update {id changes user} (found : store.liveUser? id = some user) :
      UserStep store moment
        ⟨.store (.updateUser id changes), .ok (some (changes.apply moment.now user))⟩
        (store.modifyUser id (changes.apply moment.now)).users
  | delete {id user} (found : store.liveUser? id = some user) :
      UserStep store moment ⟨.store (.deleteUser id), .ok true⟩
        (store.modifyUser id (Store.tombstone moment)).users
  | openSession {id token expiresAt user} (found : store.liveUser? id = some user) :
      UserStep store moment ⟨.store (.storeRefreshToken id token expiresAt), .ok true⟩
        (store.modifyUser id (Store.openSession token expiresAt)).users
  | renewSession {id old new expiresAt user} (found : store.liveUser? id = some user)
      (current : user.refreshTokenMatches old moment.now = true) :
      UserStep store moment ⟨.store (.rotateRefreshToken id old new expiresAt), .ok true⟩
        (store.modifyUser id (Store.openSession new expiresAt)).users
  | closeSession {id} :
      UserStep store moment ⟨.store (.revokeRefreshToken id), .ok ()⟩
        (store.modifyUser id Store.closeSession).users

/-- What a call makes of the teams. -/
inductive TeamStep (store : Store) (moment : Moment) : StoreCall → List Team → Prop where
  | keep {call} : TeamStep store moment call store.teams
  | create {stamp data} :
      TeamStep store moment (.createTeam stamp data)
        (store.teams ++ [Store.newTeamRecord stamp data])
  | update {id changes team} (found : store.liveTeam? id = some team) :
      TeamStep store moment (.updateTeam id changes)
        (store.modifyTeam id (changes.apply moment.now)).teams
  | delete {id team} (found : store.liveTeam? id = some team) :
      TeamStep store moment (.deleteTeam id)
        (store.modifyTeam id fun team => { team with deletedAt := some moment.now }).teams

namespace Store

section UpdateFirst

variable {α β : Type} {test : α → Bool} {change : α → α} {items : List α} {item : α}

theorem mem_updateFirst (mem : item ∈ updateFirst test change items) :
    item ∈ items ∨ ∃ old, items.find? test = some old ∧ item = change old := by
  induction items with
  | nil => cases mem
  | cons first rest ih =>
      rw [updateFirst] at mem
      split at mem
      · rename_i passes
        rcases List.mem_cons.mp mem with rfl | mem
        · exact Or.inr ⟨first, by simp [passes], rfl⟩
        · exact Or.inl (List.mem_cons_of_mem _ mem)
      · rename_i fails
        rcases List.mem_cons.mp mem with rfl | mem
        · exact Or.inl List.mem_cons_self
        · rcases ih mem with mem | ⟨old, found, same⟩
          · exact Or.inl (List.mem_cons_of_mem _ mem)
          · exact Or.inr ⟨old, by simpa [fails] using found, same⟩

theorem mem_updateFirst_of_mem (test : α → Bool) (change : α → α) (mem : item ∈ items) :
    item ∈ updateFirst test change items ∨
      (items.find? test = some item ∧ change item ∈ updateFirst test change items) := by
  induction items with
  | nil => cases mem
  | cons first rest ih =>
      rw [updateFirst]
      split
      · rename_i passes
        rcases List.mem_cons.mp mem with rfl | mem
        · exact Or.inr ⟨by simp [passes], List.mem_cons_self⟩
        · exact Or.inl (List.mem_cons_of_mem _ mem)
      · rename_i fails
        rcases List.mem_cons.mp mem with rfl | mem
        · exact Or.inl List.mem_cons_self
        · rcases ih mem with mem | ⟨found, mem⟩
          · exact Or.inl (List.mem_cons_of_mem _ mem)
          · exact Or.inr ⟨by simpa [fails] using found, List.mem_cons_of_mem _ mem⟩

theorem changed_mem_updateFirst (found : items.find? test = some item) :
    change item ∈ updateFirst test change items := by
  induction items with
  | nil => cases found
  | cons first rest ih =>
      rw [updateFirst]
      split
      · rename_i passes
        obtain rfl : first = item := by simpa [passes] using found
        exact List.mem_cons_self
      · rename_i fails
        exact List.mem_cons_of_mem _ (ih (by simpa [fails] using found))

theorem map_updateFirst {view : α → β} (same : ∀ item, view (change item) = view item)
    (items : List α) : (updateFirst test change items).map view = items.map view := by
  induction items with
  | nil => rfl
  | cons item items ih =>
      simp only [updateFirst]
      split
      · simp [same]
      · simp [ih]

theorem find?_updateFirst_self (keeps : ∀ item, test item = true → test (change item) = true) :
    (updateFirst test change items).find? test = (items.find? test).map change := by
  induction items with
  | nil => rfl
  | cons first rest ih =>
      rw [updateFirst]
      split
      · rename_i passes
        simp [passes, keeps first passes]
      · rename_i fails
        simp [fails, ih]

theorem find?_updateFirst_other {other : α → Bool}
    (apart : ∀ item, test item = true → other item = false ∧ other (change item) = false) :
    (updateFirst test change items).find? other = items.find? other := by
  induction items with
  | nil => rfl
  | cons first rest ih =>
      rw [updateFirst]
      split
      · rename_i passes
        simp [apart first passes]
      · simp only [List.find?_cons, ih]

end UpdateFirst

variable {store : Store} {id : Uuid} {user : User}

theorem id_of_liveUser? (found : store.liveUser? id = some user) : user.id = id := by
  have passes := List.find?_some found
  simp only [isLiveUser, Bool.and_eq_true, beq_iff_eq] at passes
  exact passes.1

theorem isLive_of_liveUser? (found : store.liveUser? id = some user) : user.isLive = true := by
  have passes := List.find?_some found
  simp only [isLiveUser, Bool.and_eq_true] at passes
  exact passes.2

theorem mem_of_liveUser? (found : store.liveUser? id = some user) : user ∈ store.users :=
  List.mem_of_find?_eq_some found

theorem liveUser?_modifyUser_self {change : User → User}
    (keeps : ∀ user, (change user).id = user.id ∧ (change user).deletedAt = user.deletedAt) :
    (store.modifyUser id change).liveUser? id = (store.liveUser? id).map change := by
  apply find?_updateFirst_self
  intro user passes
  simpa [isLiveUser, User.isLive, keeps user] using passes

theorem liveUser?_modifyUser_other {other : Uuid} {change : User → User}
    (keeps : ∀ user, (change user).id = user.id) (apart : other ≠ id) :
    (store.modifyUser id change).liveUser? other = store.liveUser? other := by
  apply find?_updateFirst_other
  intro user passes
  simp only [isLiveUser, Bool.and_eq_true, beq_iff_eq] at passes
  have named : (user.id == other) = false := by
    rw [passes.1]
    simpa using apart.symm
  simp [isLiveUser, keeps user, named]

theorem ids_modifyUser (id : Uuid) (change : User → User)
    (keeps : ∀ user, (change user).id = user.id) :
    (store.modifyUser id change).users.map User.id = store.users.map User.id :=
  map_updateFirst keeps store.users

/-- A change of a user is either not made at all or made as asked for. -/
theorem updateUser_cases (store : Store) (moment : Moment) (id : Uuid) (changes : UserChanges) :
    ((∀ updated, (store.updateUser moment id changes).1 ≠ .ok (some updated)) ∧
        (store.updateUser moment id changes).2 = store) ∨
      ∃ user, store.liveUser? id = some user ∧
        store.updateUser moment id changes =
          (.ok (some (changes.apply moment.now user)),
            { store.modifyUser id (changes.apply moment.now) with
              links :=
                if changes.leavesManagerRole then
                  store.links.filter fun link => link.manager != id
                else store.links }) := by
  unfold updateUser
  split
  · exact Or.inl ⟨by simp, rfl⟩
  · split
    · exact Or.inl ⟨by simp, rfl⟩
    · rename_i user found
      exact Or.inr ⟨user, found, rfl⟩

/-- Every call on the store is one of the steps. -/
theorem userStep (store : Store) (moment : Moment) (call : StoreCall) :
    UserStep store moment ⟨.store call, (store.perform moment call).1⟩
      (store.perform moment call).2.users := by
  cases call with
  | createUser data =>
      simp only [perform, createUser]
      split
      · exact .keep rfl
      · exact .create
  | updateUser id changes =>
      simp only [perform, updateUser]
      split
      · exact .keep rfl
      · split
        · exact .keep rfl
        · rename_i found
          exact .update found
  | deleteUser id =>
      simp only [perform, deleteUser, answered]
      split
      · exact .keep rfl
      · rename_i found
        exact .delete found
  | storeRefreshToken id token expiresAt =>
      simp only [perform, storeRefreshToken, answered]
      split
      · exact .keep rfl
      · rename_i found
        exact .openSession found
  | rotateRefreshToken id old new expiresAt =>
      simp only [perform, rotateRefreshToken, answered]
      split
      · exact .keep rfl
      · rename_i found
        split
        · rename_i current
          exact .renewSession found current
        · exact .keep rfl
  | revokeRefreshToken id => exact .closeSession
  | addManager team manager =>
      simp only [perform, addManager]
      split <;> exact .keep rfl
  | updateTeam _ _ | deleteTeam _ =>
      simp only [perform, updateTeam, deleteTeam, answered]
      split <;> exact .keep rfl
  | createTeam _ _ | removeManager _ _ | adminExists | findUser _ | findUserByEmail _
  | listUsers _ | findTeam _ | listTeams _ | managedTeamIds _ | listEmployees _ | listManagers _
  | ping => exact .keep rfl

theorem ids_of_step {moment : Moment} {exchange : Exchange} {users : List User}
    (step : UserStep store moment exchange users) :
    users.map User.id = store.users.map User.id ∨
      users.map User.id = store.users.map User.id ++ [moment.freshId] := by
  cases step with
  | keep leaves => exact Or.inl rfl
  | create => exact Or.inr (by simp [newUserRecord])
  | update found => exact Or.inl (ids_modifyUser _ _ fun user => rfl)
  | delete found => exact Or.inl (ids_modifyUser _ _ fun user => rfl)
  | openSession found => exact Or.inl (ids_modifyUser _ _ fun user => rfl)
  | renewSession found current => exact Or.inl (ids_modifyUser _ _ fun user => rfl)
  | closeSession => exact Or.inl (ids_modifyUser _ _ fun user => rfl)

theorem present_of_step {moment : Moment} {exchange : Exchange} {users : List User}
    (step : UserStep store moment exchange users) (present : ∃ user ∈ store.users, user.id = id) :
    ∃ user ∈ users, user.id = id := by
  rw [← List.mem_map] at present ⊢
  rcases ids_of_step step with same | more
  · rwa [same]
  · rw [more]
    exact List.mem_append_left _ present

/-! ## Teams and links -/

theorem id_of_liveTeam? {team : Team} (found : store.liveTeam? id = some team) : team.id = id := by
  have passes := List.find?_some found
  simp only [isLiveTeam, Bool.and_eq_true, beq_iff_eq] at passes
  exact passes.1

theorem mem_of_liveTeam? {team : Team} (found : store.liveTeam? id = some team) :
    team ∈ store.teams :=
  List.mem_of_find?_eq_some found

/-- Every call on the store is one of the steps on the teams. -/
theorem teamStep (store : Store) (moment : Moment) (call : StoreCall) :
    TeamStep store moment call (store.perform moment call).2.teams := by
  cases call with
  | createTeam stamp data => exact .create
  | updateTeam id changes =>
      simp only [perform, updateTeam, answered]
      split
      · exact .keep
      · rename_i found
        exact .update found
  | deleteTeam id =>
      simp only [perform, deleteTeam, answered]
      split
      · exact .keep
      · rename_i found
        exact .delete found
  | updateUser id changes =>
      rcases store.updateUser_cases moment id changes with ⟨_, unchanged⟩ | ⟨user, _, made⟩
      · rw [perform, unchanged]
        exact .keep
      · rw [perform, made]
        exact .keep
  | createUser _ | deleteUser _ | storeRefreshToken _ _ _ =>
      simp only [perform, createUser, deleteUser, storeRefreshToken, answered]
      split <;> exact .keep
  | rotateRefreshToken id old new expiresAt =>
      simp only [perform, rotateRefreshToken, answered]
      split
      · exact .keep
      · split <;> exact .keep
  | addManager team manager =>
      simp only [perform, addManager]
      split <;> exact .keep
  | revokeRefreshToken _ | removeManager _ _ | adminExists | findUser _ | findUserByEmail _
  | listUsers _ | findTeam _ | listTeams _ | managedTeamIds _ | listEmployees _ | listManagers _
  | ping => exact .keep

/-- A link was there before or has just been added. -/
theorem linked_of_perform {moment : Moment} {call : StoreCall} {link : ManagerLink}
    (mem : link ∈ (store.perform moment call).2.links) :
    link ∈ store.links ∨ call = .addManager link.team link.manager := by
  cases call with
  | addManager team manager =>
      simp only [perform, addManager] at mem
      split at mem
      · exact Or.inl mem
      · rcases List.mem_append.mp mem with mem | mem
        · exact Or.inl mem
        · rw [List.mem_singleton.mp mem]
          exact Or.inr rfl
  | removeManager team manager => exact Or.inl (List.mem_filter.mp mem).1
  | updateUser id changes =>
      left
      rcases store.updateUser_cases moment id changes with ⟨_, unchanged⟩ | ⟨user, _, made⟩
      · rwa [perform, unchanged] at mem
      · rw [perform, made] at mem
        dsimp only at mem
        split at mem
        · exact (List.mem_filter.mp mem).1
        · exact mem
  | createUser _ | deleteUser _ | storeRefreshToken _ _ _ | updateTeam _ _ | deleteTeam _ =>
      simp only [perform, createUser, deleteUser, storeRefreshToken, updateTeam, deleteTeam,
        answered] at mem
      split at mem <;> exact Or.inl mem
  | rotateRefreshToken id old new expiresAt =>
      simp only [perform, rotateRefreshToken, answered] at mem
      split at mem
      · exact Or.inl mem
      · split at mem <;> exact Or.inl mem
  | revokeRefreshToken _ | createTeam _ _ | adminExists | findUser _ | findUserByEmail _
  | listUsers _ | findTeam _ | listTeams _ | managedTeamIds _ | listEmployees _ | listManagers _
  | ping => exact Or.inl mem

end Store

/-- Every effect is one of the steps on a store in memory. -/
theorem System.inMemory_userStep (hasher : Hasher) (tokens : TokenService) (moments : Nat → Moment)
    (effect : Effect) (world : World) :
    UserStep world.store (moments world.tick)
      ⟨effect, (((System.inMemory hasher tokens).handler moments).step effect world).1⟩
      (((System.inMemory hasher tokens).handler moments).step effect world).2.store.users := by
  cases effect with
  | store call => exact world.store.userStep (moments world.tick) call
  | checkToken kind token => cases kind <;> exact .keep rfl
  | _ => exact .keep rfl

end OrgAccess
