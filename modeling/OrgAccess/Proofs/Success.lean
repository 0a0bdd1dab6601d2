import OrgAccess.Proofs.Memory
import OrgAccess.Proofs.Operation
import OrgAccess.Proofs.Rows

/-!
# What a success means

A failed operation leaves the store as it was. What a successful one has done to it is told here in
terms of its arguments and of the rows that it found: `Operation.Achieves` has one constructor for
each kind of success.

`Workflow.Gives` says that a workflow ends with a value in a later world. Its rules take a workflow
apart from the value that it has given back to the answers that led there.
-/

namespace OrgAccess

/-- Whether a hasher makes this hash of a password with some salt. -/
def Hasher.Hashes (hasher : Hasher) (hash password : String) : Prop :=
  ∃ salt, hasher.hash salt password = .ok hash

/-- The record that a registration asks the store for. -/
structure Registration.Asks (input : Registration) (hasher : Hasher) (data : NewUser) : Prop where
  email : data.email = input.email
  password : hasher.Hashes data.passwordHash input.password
  firstName : data.firstName = input.firstName
  lastName : data.lastName = input.lastName
  phoneNumber : data.phoneNumber = Workflow.optionalText input.phoneNumber
  teamId : data.teamId = input.teamId

/-- The changes that a patch asks for, given the user as it was found. -/
structure UserPatch.Asks (patch : UserPatch) (hasher : Hasher) (target : User)
    (changes : UserChanges) : Prop where
  email : changes.email = patch.email
  /-- There is a new hash exactly if there is a new password, and it is a hash of that. -/
  password : Option.Rel hasher.Hashes changes.passwordHash patch.password
  firstName : changes.firstName = patch.firstName
  lastName : changes.lastName = patch.lastName
  phoneNumber : changes.phoneNumber = Workflow.clearableText patch.phoneNumber
  /-- There is a new role exactly if one is named, and it is the one that is named. -/
  role : changes.role.map some = patch.role.map Role.ofName?
  teamId : changes.teamId =
    Workflow.settledTeam target (changes.role.getD target.role) patch.teamId

namespace Operation

/-- Whether an operation only shows what is stored. -/
def onlyReads : Operation → Bool
  | checkRefreshToken _ _ | profile _ | listUsers _ | getUser _ _ | listTeams _
  | getTeam _ _ => true
  | _ => false

/-- What a successful operation makes of the store. -/
inductive Achieves (hasher : Hasher) (tokens : TokenService) (moments : Nat → Moment)
    (store : Store) : (operation : Operation) → operation.Value → Store → Prop where
  | shown {operation value} (reads : operation.onlyReads = true) :
      Achieves hasher tokens moments store operation value store
  | registered {createdBy input data} (tick : Nat) (asks : input.Asks hasher data)
      (free : store.emailTaken data.email none = false) :
      Achieves hasher tokens moments store (.register createdBy input)
        (Store.newUserRecord (moments tick) data).toPublic
        { store with users := store.users ++ [Store.newUserRecord (moments tick) data] }
  | loggedIn {email password user pair} (tick : Nat)
      (found : store.liveUserByEmail? email = some user)
      (verified : hasher.verify user.passwordHash password = .ok true)
      (issued : tokens.issuePair (moments tick) user.id = .ok pair) :
      Achieves hasher tokens moments store (.login email password)
        ⟨pair.accessToken, pair.refreshToken, user.toPublic⟩
        (store.modifyUser user.id (Store.openSession pair.refreshToken pair.refreshExpiresAt))
  | refreshed {token id user pair} (issuing rotating : Nat)
      (found : store.liveUser? id = some user)
      (current : user.refreshTokenMatches token (moments rotating).now = true)
      (issued : tokens.issuePair (moments issuing) id = .ok pair) :
      Achieves hasher tokens moments store (.refresh token) ⟨pair.accessToken, pair.refreshToken⟩
        (store.modifyUser id (Store.openSession pair.refreshToken pair.refreshExpiresAt))
  | loggedOut {id} :
      Achieves hasher tokens moments store (.logout id) () (store.revokeRefreshToken id)
  | userUnchanged {caller id patch user} (found : store.liveUser? id = some user)
      (asks : patch.Asks hasher user {}) :
      Achieves hasher tokens moments store (.updateUser caller id patch) user.toPublic store
  | userUpdated {caller id patch user changes} (tick : Nat)
      (found : store.liveUser? id = some user) (asks : patch.Asks hasher user changes)
      (free : changes.email.any (store.emailTaken · (some id)) = false) :
      Achieves hasher tokens moments store (.updateUser caller id patch)
        (changes.apply (moments tick).now user).toPublic
        { store.modifyUser id (changes.apply (moments tick).now) with
          links :=
            if changes.leavesManagerRole then store.links.filter fun link => link.manager != id
            else store.links }
  | userDeleted {caller id user} (tick : Nat) (found : store.liveUser? id = some user) :
      Achieves hasher tokens moments store (.deleteUser caller id) ()
        (store.modifyUser id (Store.tombstone (moments tick)))
  | teamCreated {caller draft} {data : NewTeam} (tick : Nat) (name : data.name = draft.name)
      (description : data.description = Workflow.optionalText draft.description) :
      Achieves hasher tokens moments store (.createTeam caller draft)
        (Store.newTeamRecord (moments tick) data)
        { store with teams := store.teams ++ [Store.newTeamRecord (moments tick) data] }
  | teamUpdated {caller id patch team} {changes : TeamChanges} (tick : Nat)
      (found : store.liveTeam? id = some team)
      (name : changes.name = patch.name)
      (description : changes.description = Workflow.clearableText patch.description) :
      Achieves hasher tokens moments store (.updateTeam caller id patch)
        (changes.apply (moments tick).now team)
        (store.modifyTeam id (changes.apply (moments tick).now))
  | teamDeleted {caller id team} (tick : Nat) (found : store.liveTeam? id = some team) :
      Achieves hasher tokens moments store (.deleteTeam caller id) ()
        (store.modifyTeam id fun team => { team with deletedAt := some (moments tick).now })
  | managerAdded {caller team manager} :
      Achieves hasher tokens moments store (.addManager caller team manager) ()
        (store.addManager team manager)
  | managerRemoved {caller team manager} :
      Achieves hasher tokens moments store (.removeManager caller team manager) ()
        (store.removeManager team manager)

end Operation

namespace Workflow

variable {α β : Type} {handler : Handler} {world later : World}

/-- A workflow that begins in a world ends with a value and leaves a later world. -/
def Gives (handler : Handler) (world : World) (workflow : Workflow α) (value : α)
    (later : World) : Prop :=
  (ExceptT.run workflow).run handler world = (.ok value, later)

/-! ## Rules -/

theorem gives_pure {value given : α} :
    Gives handler world (pure value) given later ↔ given = value ∧ later = world := by
  constructor
  · intro gives
    cases gives
    exact ⟨rfl, rfl⟩
  · rintro ⟨rfl, rfl⟩
    rfl

theorem not_gives_throw {failure : Failure} {given : α} :
    ¬Gives handler world (throw failure) given later :=
  nofun

theorem gives_bind {workflow : Workflow α} {rest : α → Workflow β} {given : β} :
    Gives handler world (workflow >>= rest) given later ↔
      ∃ value middle, Gives handler world workflow value middle ∧
        Gives handler middle (rest value) given later := by
  rw [Gives, ExceptT.run_bind, Program.run_bind]
  rcases ended : (ExceptT.run workflow).run handler world with ⟨failure | value, middle⟩
  · simp [Gives, ended]
  · simp [Gives, ended, and_assoc]

theorem gives_guard {condition : Prop} [Decidable condition] {failure : Failure}
    {rest : Workflow α} {given : α} :
    Gives handler world (if condition then throw failure else rest) given later ↔
      ¬condition ∧ Gives handler world rest given later := by
  split
  · simp_all [not_gives_throw]
  · simp_all

theorem gives_require_bind {failure : Failure} {option : Option α} {rest : α → Workflow β}
    {given : β} :
    Gives handler world (require failure option >>= rest) given later ↔
      ∃ value, option = some value ∧ Gives handler world (rest value) given later := by
  cases option with
  | none => simp [require, not_gives_throw]
  | some value => simp [require]

theorem gives_require {failure : Failure} {option : Option α} {given : α} :
    Gives handler world (require failure option) given later ↔
      option = some given ∧ later = world := by
  cases option with
  | none => simp [require, not_gives_throw]
  | some value => simp [require, gives_pure, eq_comm]

theorem gives_lift {ε : Type} {toFailure : ε → Failure} {program : Program (Except ε α)}
    {given : α} :
    Gives handler world (lift toFailure program) given later ↔
      program.run handler world = (.ok given, later) := by
  have run : (ExceptT.run (lift toFailure program)).run handler world =
      ((program.run handler world).1.mapError toFailure, (program.run handler world).2) :=
    Program.run_bind handler program _ world
  rw [Gives, run]
  rcases program.run handler world with ⟨error | value, middle⟩
  · exact iff_of_false (fun same => nomatch same) (fun same => nomatch same)
  · constructor
    all_goals
      rintro ⟨⟩
      rfl

theorem Gives.requiredText {field : String} {value given : Option String}
    (gives : Gives handler world (requiredText field value) given later) :
    given = value ∧ later = world :=
  gives_pure.mp (gives_guard.mp gives).2

theorem Gives.patchedRole {name : Option String} {role : Option Role}
    (gives : Gives handler world (patchedRole name) role later) :
    role.map some = name.map Role.ofName? ∧ later = world := by
  cases name with
  | none =>
      obtain ⟨rfl, rfl⟩ := gives_pure.mp gives
      exact ⟨rfl, rfl⟩
  | some name =>
      rw [Workflow.patchedRole, map_eq_pure_bind] at gives
      rcases gives_require_bind.mp gives with ⟨found, named, rest⟩
      obtain ⟨rfl, rfl⟩ := gives_pure.mp rest
      exact ⟨by simp [named], rfl⟩

section Memory

variable {hasher : Hasher} {tokens : TokenService} {moments : Nat → Moment} {stored : Store}
  {tick : Nat}

/-- What only reads is passed over; the store is still the same after it. -/
theorem Reads.of_bind {gives : α → Prop} {workflow : Workflow α} {rest : α → Workflow β} {given : β}
    (reads : Reads gives workflow)
    (ends : Gives ((System.inMemory hasher tokens).handler moments) ⟨stored, tick⟩
      (workflow >>= rest) given later) :
    ∃ value tick', gives value ∧
      Gives ((System.inMemory hasher tokens).handler moments) ⟨stored, tick'⟩ (rest value) given
        later := by
  rcases gives_bind.mp ends with ⟨value, ⟨after, tick'⟩, first, second⟩
  have read := (Program.run_obeys ((System.inMemory hasher tokens).handler moments) ⟨stored, tick⟩
    (reads [] History.readsOnly_nil)).1
  have unchanged := Program.run_quiet (System.inMemory_honest hasher tokens moments) workflow.run
    ⟨stored, tick⟩
  rw [first] at read unchanged
  obtain rfl : after = stored := unchanged (read.1 : History.ReadsOnly _).quiet
  exact ⟨value, tick', read.2, second⟩

theorem gives_store {call : StoreCall} {given : call.Answer} :
    Gives ((System.inMemory hasher tokens).handler moments) ⟨stored, tick⟩ (store call) given
        later ↔
      stored.perform (moments tick) call = (.ok given, later.store) ∧ later.tick = tick + 1 := by
  have run : (Program.effect (.store call)).run ((System.inMemory hasher tokens).handler moments)
      ⟨stored, tick⟩ = ((stored.perform (moments tick) call).1,
        ⟨(stored.perform (moments tick) call).2, tick + 1⟩) := rfl
  rcases later with ⟨after, tick⟩
  rw [store, gives_lift, run]
  simp [Prod.ext_iff, and_assoc, eq_comm]

theorem Gives.of_store_bind {call : StoreCall} {rest : call.Answer → Workflow β} {given : β}
    (gives : Gives ((System.inMemory hasher tokens).handler moments) ⟨stored, tick⟩
      (store call >>= rest) given later) :
    ∃ value after, stored.perform (moments tick) call = (.ok value, after) ∧
      Gives ((System.inMemory hasher tokens).handler moments) ⟨after, tick + 1⟩ (rest value) given
        later := by
  rcases gives_bind.mp gives with ⟨value, ⟨after, tick'⟩, first, second⟩
  obtain ⟨performed, rfl⟩ := gives_store.mp first
  exact ⟨value, after, performed, second⟩

theorem Gives.of_hashPassword_bind {password : String} {rest : String → Workflow β} {given : β}
    (gives : Gives ((System.inMemory hasher tokens).handler moments) ⟨stored, tick⟩
      (hashPassword password >>= rest) given later) :
    ∃ hash tick', hasher.Hashes hash password ∧
      Gives ((System.inMemory hasher tokens).handler moments) ⟨stored, tick'⟩ (rest hash) given
        later := by
  rcases gives_bind.mp gives with ⟨hash, middle, first, second⟩
  obtain ⟨hashed, rfl⟩ := Prod.mk.inj (gives_lift.mp first)
  exact ⟨hash, tick + 1, ⟨(moments tick).salt, hashed⟩, second⟩

theorem Gives.of_verifyPassword_bind {hash password : String} {rest : Bool → Workflow β} {given : β}
    (gives : Gives ((System.inMemory hasher tokens).handler moments) ⟨stored, tick⟩
      (verifyPassword hash password >>= rest) given later) :
    ∃ isRight tick', hasher.verify hash password = .ok isRight ∧
      Gives ((System.inMemory hasher tokens).handler moments) ⟨stored, tick'⟩ (rest isRight) given
        later := by
  rcases gives_bind.mp gives with ⟨isRight, middle, first, second⟩
  obtain ⟨verified, rfl⟩ := Prod.mk.inj (gives_lift.mp first)
  exact ⟨isRight, tick + 1, verified, second⟩

theorem Gives.of_issueTokens_bind {user : Uuid} {rest : TokenPair → Workflow β} {given : β}
    (gives : Gives ((System.inMemory hasher tokens).handler moments) ⟨stored, tick⟩
      (issueTokens user >>= rest) given later) :
    ∃ pair tick', tokens.issuePair (moments tick) user = .ok pair ∧
      Gives ((System.inMemory hasher tokens).handler moments) ⟨stored, tick'⟩ (rest pair) given
        later := by
  rcases gives_bind.mp gives with ⟨pair, middle, first, second⟩
  obtain ⟨issued, rfl⟩ := Prod.mk.inj (gives_lift.mp first)
  exact ⟨pair, tick + 1, issued, second⟩

theorem Gives.of_patchedPassword_bind {password : Option String}
    {rest : Option String → Workflow β} {given : β}
    (gives : Gives ((System.inMemory hasher tokens).handler moments) ⟨stored, tick⟩
      (patchedPassword password >>= rest) given later) :
    ∃ hash tick', Option.Rel hasher.Hashes hash password ∧
      Gives ((System.inMemory hasher tokens).handler moments) ⟨stored, tick'⟩ (rest hash) given
        later := by
  rw [patchedPassword, bind_assoc] at gives
  rcases gives_bind.mp gives with ⟨checked, middle, required, gives⟩
  obtain ⟨rfl, rfl⟩ := required.requiredText
  cases checked with
  | none => exact ⟨none, tick, .none, gives⟩
  | some password =>
      simp only [ite_bind, bind_map_left] at gives
      rcases (gives_guard.mp gives).2.of_hashPassword_bind with ⟨hash, tick', hashes, gives⟩
      exact ⟨some hash, tick', .some hashes, gives⟩

/-! ## What the operations achieve -/

/-- What holds of all runs of an operation that end with a value. -/
def Achieving (hasher : Hasher) (tokens : TokenService) (moments : Nat → Moment)
    (operation : Operation) : Prop :=
  ∀ stored tick value later,
    Gives ((System.inMemory hasher tokens).handler moments) ⟨stored, tick⟩ operation.workflow value
        later →
      operation.Achieves hasher tokens moments stored value later.store

theorem reads_placement (role : Role) (teamId : Option Uuid) :
    Reads (fun _ => True) (placement role teamId) := by
  cases teamId with
  | none => exact reads_pure trivial
  | some team =>
      unfold placement
      dsimp only
      split
      · exact reads_throw _
      · exact reads_bind (reads_liveTeam team) fun _ _ => reads_pure trivial

theorem reads_registrant (createdBy : Option Uuid) :
    Reads (fun _ => True) (registrant createdBy) := by
  cases createdBy with
  | none => exact reads_pure trivial
  | some id =>
      refine reads_bind (reads_store rfl) fun found _ => ?_
      exact reads_bind (reads_require _ found) fun creator _ => reads_pure trivial

theorem reads_resolveAdmin (caller : Uuid) (action : AdminAction) :
    Reads (fun _ => True) (resolveAdmin caller action) := by
  refine reads_bind (reads_resolveActor caller) fun actor _ => ?_
  exact reads_bind (reads_permitted _) fun _ _ => reads_pure trivial

theorem achieving_of_reads {operation : Operation} {gives : operation.Value → Prop}
    (reads : Reads gives operation.workflow) (isRead : operation.onlyReads = true) :
    Achieving hasher tokens moments operation := by
  intro stored tick value later ends
  rw [← bind_pure operation.workflow] at ends
  rcases reads.of_bind ends with ⟨_, _, _, ends⟩
  obtain ⟨rfl, rfl⟩ := gives_pure.mp ends
  exact .shown isRead

theorem achieving_register (createdBy : Option Uuid) (input : Registration) :
    Achieving hasher tokens moments (.register createdBy input) := by
  intro stored tick value later gives
  change Gives _ _ (register createdBy input) value later at gives
  rw [register_eq] at gives
  rcases (reads_store rfl).of_bind gives with ⟨adminExists, tick, _, gives⟩
  rcases (reads_registrant _).of_bind (gives_guard.mp gives).2 with ⟨creator, tick, _, gives⟩
  rcases (reads_permitted _).of_bind (gives_guard.mp gives).2 with ⟨role, tick, _, gives⟩
  rcases (reads_placement _ _).of_bind gives with ⟨_, tick, _, gives⟩
  rcases gives.of_hashPassword_bind with ⟨hash, tick, hashes, gives⟩
  rcases gives.of_store_bind with ⟨user, after, made, gives⟩
  obtain ⟨rfl, rfl⟩ := gives_pure.mp gives
  simp only [Store.perform, Store.createUser] at made
  split at made
  · cases made
  · rename_i free
    cases made
    exact .registered tick ⟨rfl, hashes, rfl, rfl, rfl, rfl⟩ (by simpa using free)

theorem achieving_login (email password : String) :
    Achieving hasher tokens moments (.login email password) := by
  intro stored tick value later gives
  rcases gives.of_store_bind with ⟨found, _, ⟨⟩, gives⟩
  rcases gives_require_bind.mp gives with ⟨user, found, gives⟩
  rcases gives.of_verifyPassword_bind with ⟨isRight, tick, verified, gives⟩
  rcases gives_guard.mp gives with ⟨accepted, gives⟩
  obtain rfl : isRight = true := by simpa using accepted
  rcases gives.of_issueTokens_bind with ⟨pair, _, issued, gives⟩
  rcases gives.of_store_bind with ⟨isStored, after, made, gives⟩
  rcases gives_guard.mp gives with ⟨kept, gives⟩
  obtain rfl : isStored = true := by simpa using kept
  obtain ⟨rfl, rfl⟩ := gives_pure.mp gives
  simp only [Store.perform, Store.storeRefreshToken, answered] at made
  split at made
  · cases made
  · cases made
    exact .loggedIn _ found verified issued

theorem achieving_refresh (token : String) :
    Achieving hasher tokens moments (.refresh token) := by
  intro stored tick value later gives
  rcases gives_bind.mp gives with ⟨claims, _, checked, gives⟩
  obtain ⟨_, rfl⟩ := Prod.mk.inj (gives_lift.mp checked)
  rcases gives.of_issueTokens_bind with ⟨pair, rotating, issued, gives⟩
  rcases gives.of_store_bind with ⟨isRotated, after, made, gives⟩
  rcases gives_guard.mp gives with ⟨kept, gives⟩
  obtain rfl : isRotated = true := by simpa using kept
  obtain ⟨rfl, rfl⟩ := gives_pure.mp gives
  simp only [Store.perform, Store.rotateRefreshToken, answered] at made
  split at made
  · cases made
  · rename_i user found
    split at made
    · rename_i current
      cases made
      exact .refreshed (tick + 1) rotating found current issued
    · cases made

theorem achieving_logout (user : Uuid) : Achieving hasher tokens moments (.logout user) := by
  rintro stored tick ⟨⟩ ⟨after, tick'⟩ gives
  obtain ⟨⟨⟩, _⟩ := gives_store.mp gives
  exact .loggedOut

theorem achieving_updateUser (caller id : Uuid) (patch : UserPatch) :
    Achieving hasher tokens moments (.updateUser caller id patch) := by
  intro stored tick value later gives
  rcases (reads_resolveAdmin _ _).of_bind gives with ⟨_, tick, _, gives⟩
  rcases gives.of_store_bind with ⟨found, _, ⟨⟩, gives⟩
  rcases gives_require_bind.mp gives with ⟨target, found, gives⟩
  rcases gives_bind.mp gives with ⟨role, _, patched, gives⟩
  obtain ⟨named, rfl⟩ := patched.patchedRole
  rw [patchedTeam_eq, bind_assoc] at gives
  rcases (reads_placement _ _).of_bind gives with ⟨_, tick, _, gives⟩
  rcases gives.of_patchedPassword_bind with ⟨hash, tick, hashes, gives⟩
  rcases gives_bind.mp gives with ⟨email, _, required, gives⟩
  obtain ⟨rfl, rfl⟩ := required.requiredText
  rcases gives_bind.mp gives with ⟨firstName, _, required, gives⟩
  obtain ⟨rfl, rfl⟩ := required.requiredText
  rcases gives_bind.mp gives with ⟨lastName, _, required, gives⟩
  obtain ⟨rfl, rfl⟩ := required.requiredText
  dsimp only at gives
  have asks : patch.Asks hasher target
      { email := patch.email, passwordHash := hash, firstName := patch.firstName,
        lastName := patch.lastName, phoneNumber := clearableText patch.phoneNumber, role,
        teamId := settledTeam target (role.getD target.role) patch.teamId } :=
    ⟨rfl, hashes, rfl, rfl, rfl, named, rfl⟩
  split at gives
  · rename_i isEmpty
    rw [(UserChanges.isEmpty_iff _).mp isEmpty] at asks
    obtain ⟨rfl, rfl⟩ := gives_pure.mp gives
    exact .userUnchanged found asks
  · rcases gives.of_store_bind with ⟨updated, after, made, gives⟩
    rcases gives_require_bind.mp gives with ⟨user, rfl, gives⟩
    obtain ⟨rfl, rfl⟩ := gives_pure.mp gives
    simp only [Store.perform, Store.updateUser, found] at made
    split at made
    · cases made
    · rename_i free
      cases made
      exact .userUpdated tick found asks (by simpa using free)

theorem achieving_deleteUser (caller id : Uuid) :
    Achieving hasher tokens moments (.deleteUser caller id) := by
  intro stored tick value later gives
  rcases (reads_resolveAdmin _ _).of_bind gives with ⟨_, tick, _, gives⟩
  rcases gives.of_store_bind with ⟨isDeleted, after, made, gives⟩
  rcases gives_guard.mp gives with ⟨found, gives⟩
  obtain rfl : isDeleted = true := by simpa using found
  obtain ⟨rfl, rfl⟩ := gives_pure.mp gives
  simp only [Store.perform, Store.deleteUser, answered] at made
  split at made
  · cases made
  · rename_i found
    cases made
    exact .userDeleted tick found

theorem achieving_createTeam (caller : Uuid) (draft : TeamDraft) :
    Achieving hasher tokens moments (.createTeam caller draft) := by
  intro stored tick value later gives
  rcases (reads_resolveAdmin _ _).of_bind gives with ⟨actor, tick, _, gives⟩
  rcases gives_bind.mp (gives_guard.mp gives).2 with ⟨stamp, middle, ⟨⟩, gives⟩
  obtain ⟨made, _⟩ := gives_store.mp gives
  rcases later with ⟨after, _⟩
  cases made
  exact .teamCreated tick rfl rfl

theorem achieving_updateTeam (caller team : Uuid) (patch : TeamPatch) :
    Achieving hasher tokens moments (.updateTeam caller team patch) := by
  intro stored tick value later gives
  rcases (reads_resolveAdmin _ _).of_bind gives with ⟨_, tick, _, gives⟩
  rcases gives_bind.mp gives with ⟨name, _, required, gives⟩
  obtain ⟨rfl, rfl⟩ := required.requiredText
  rcases gives.of_store_bind with ⟨updated, after, made, gives⟩
  obtain ⟨rfl, rfl⟩ := gives_require.mp gives
  simp only [Store.perform, Store.updateTeam, answered] at made
  split at made
  · cases made
  · rename_i found
    cases made
    exact .teamUpdated tick found rfl rfl

theorem achieving_deleteTeam (caller team : Uuid) :
    Achieving hasher tokens moments (.deleteTeam caller team) := by
  intro stored tick value later gives
  rcases (reads_resolveAdmin _ _).of_bind gives with ⟨_, tick, _, gives⟩
  rcases gives.of_store_bind with ⟨isDeleted, after, made, gives⟩
  rcases gives_guard.mp gives with ⟨found, gives⟩
  obtain rfl : isDeleted = true := by simpa using found
  obtain ⟨rfl, rfl⟩ := gives_pure.mp gives
  simp only [Store.perform, Store.deleteTeam, answered] at made
  split at made
  · cases made
  · rename_i found
    cases made
    exact .teamDeleted tick found

theorem achieving_addManager (caller team manager : Uuid) :
    Achieving hasher tokens moments (.addManager caller team manager) := by
  rintro stored tick ⟨⟩ ⟨after, tick'⟩ gives
  rcases (reads_resolveAdmin _ _).of_bind gives with ⟨_, tick, _, gives⟩
  rcases gives.of_store_bind with ⟨found, _, ⟨⟩, gives⟩
  rcases gives_require_bind.mp gives with ⟨user, _, gives⟩
  rcases (reads_liveTeam team).of_bind (gives_guard.mp gives).2 with ⟨_, tick, _, gives⟩
  obtain ⟨⟨⟩, _⟩ := gives_store.mp gives
  exact .managerAdded

theorem achieving_removeManager (caller team manager : Uuid) :
    Achieving hasher tokens moments (.removeManager caller team manager) := by
  rintro stored tick ⟨⟩ ⟨after, tick'⟩ gives
  rcases (reads_resolveAdmin _ _).of_bind gives with ⟨_, tick, _, gives⟩
  rcases gives.of_store_bind with ⟨found, _, ⟨⟩, gives⟩
  rcases gives_require_bind.mp gives with ⟨user, _, gives⟩
  rcases (reads_liveTeam team).of_bind gives with ⟨_, tick, _, gives⟩
  obtain ⟨⟨⟩, _⟩ := gives_store.mp gives
  exact .managerRemoved

end Memory

end Workflow

section Outcomes

variable {hasher : Hasher} {tokens : TokenService} {moments : Nat → Moment}

theorem Operation.achieving (operation : Operation) :
    Workflow.Achieving hasher tokens moments operation := by
  cases operation with
  | register createdBy input => exact Workflow.achieving_register createdBy input
  | login email password => exact Workflow.achieving_login email password
  | refresh token => exact Workflow.achieving_refresh token
  | checkRefreshToken user token =>
      exact Workflow.achieving_of_reads (Workflow.reads_isCurrentRefreshToken user token) rfl
  | logout user => exact Workflow.achieving_logout user
  | profile caller => exact Workflow.achieving_of_reads (Workflow.reads_profile caller) rfl
  | listUsers caller => exact Workflow.achieving_of_reads (Workflow.reads_listUsers caller) rfl
  | getUser caller id => exact Workflow.achieving_of_reads (Workflow.reads_getUser caller id) rfl
  | updateUser caller id patch => exact Workflow.achieving_updateUser caller id patch
  | deleteUser caller id => exact Workflow.achieving_deleteUser caller id
  | listTeams caller => exact Workflow.achieving_of_reads (Workflow.reads_listTeams caller) rfl
  | getTeam caller team =>
      exact Workflow.achieving_of_reads (Workflow.reads_getTeam caller team) rfl
  | createTeam caller draft => exact Workflow.achieving_createTeam caller draft
  | updateTeam caller team patch => exact Workflow.achieving_updateTeam caller team patch
  | deleteTeam caller team => exact Workflow.achieving_deleteTeam caller team
  | addManager caller team manager => exact Workflow.achieving_addManager caller team manager
  | removeManager caller team manager => exact Workflow.achieving_removeManager caller team manager

/-- What an outcome tells of the store before and after it. -/
def Outcome.Explains (hasher : Hasher) (tokens : TokenService) (moments : Nat → Moment)
    (before after : Store) (outcome : Outcome) : Prop :=
  match outcome.result with
  | .ok value => outcome.operation.Achieves hasher tokens moments before value after
  | .error _ => after = before

theorem Operation.run_explains (operation : Operation) (hasher : Hasher) (tokens : TokenService)
    (moments : Nat → Moment) (world : World) :
    let (result, later) := operation.program.run ((System.inMemory hasher tokens).handler moments)
      world
    Outcome.Explains hasher tokens moments world.store later.store ⟨operation, result⟩ := by
  have honest := System.inMemory_honest hasher tokens moments
  have ended := (Program.run_obeys ((System.inMemory hasher tokens).handler moments) world
    operation.program_obeys).1
  have quiet := Program.run_quiet honest operation.program world
  rcases ran : operation.program.run ((System.inMemory hasher tokens).handler moments) world with
    ⟨failure | value, later⟩
  · rw [ran] at ended quiet
    exact quiet (ended.2 failure rfl)
  · exact operation.achieving world.store world.tick value later ran

theorem Operation.run_outcome (operation : Operation) (handler : Handler) (world : World) :
    operation.outcome.run handler world =
      (⟨operation, (operation.program.run handler world).1⟩,
        (operation.program.run handler world).2) := by
  rw [Operation.outcome, Program.run_bind]
  rfl

end Outcomes

end OrgAccess
