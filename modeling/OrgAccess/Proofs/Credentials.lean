import OrgAccess.Proofs.AuthenticationGate
import OrgAccess.Proofs.Purge

/-!
# Credentials

The hash of a password, the refresh token of a session and its expiry are the credentials of a user.
`Store.withoutCredentials` takes them out of all rows, and two stores that are the same without them
cannot be told apart by calls other than the rotation of a refresh token, as long as one does not
look at the credentials in the answers.

`Program.Blind` says of a program that it does not look: it makes no rotation, and it goes on in the
same way whether the users in an answer come with their credentials or without. Blind programs end
alike on two such stores (`Program.Blind.run`). All operations are blind except the three that are
there to check credentials, and a request comes to none of these except on two paths.

Main statement: whatever the credentials of the users are, the response to a request is the same,
unless it is a login or a refresh, and the stores after it differ in credentials at most.
-/

namespace OrgAccess

/-- A user without the hash of its password and without its session. -/
def User.withoutCredentials (user : User) : User :=
  { user with passwordHash := "", refreshToken := none, refreshExpiresAt := none }

/-- The store with all users without their credentials. -/
def Store.withoutCredentials (store : Store) : Store :=
  { store with users := store.users.map User.withoutCredentials }

/-- The answer to a call with the users in it without their credentials. -/
def StoreCall.hide : (call : StoreCall) → call.Answer → call.Answer
  | createUser _, user => user.withoutCredentials
  | findUser _, found | findUserByEmail _, found | updateUser _ _, found =>
    found.map User.withoutCredentials
  | listUsers _, users | listEmployees _, users | listManagers _, users =>
    users.map User.withoutCredentials
  | _, answer => answer

/-- Whether the answer to a call depends on the refresh token of a user. -/
def StoreCall.comparesToken : StoreCall → Bool
  | rotateRefreshToken _ _ _ _ => true
  | _ => false

namespace Effect

/-- The answer to an effect with the users in it without their credentials. -/
def hide : (effect : Effect) → effect.Answer → effect.Answer
  | store call, answer => answer.map call.hide
  | _, answer => answer

/-- Whether the answer to an effect depends on the refresh token of a user. -/
def comparesToken : Effect → Bool
  | store call => call.comparesToken
  | _ => false

end Effect

/-! ## The store -/

@[simp]
theorem User.withoutCredentials_comp :
    User.withoutCredentials ∘ User.withoutCredentials = User.withoutCredentials := rfl

namespace Store

variable (store : Store)

theorem map_updateFirst_map {α : Type} {test : α → Bool} {change : α → α} (hide : α → α)
    (unseen : ∀ item, test (hide item) = test item)
    (covered : ∀ item, hide (change (hide item)) = hide (change item))
    (again : ∀ item, hide (hide item) = hide item) (items : List α) :
    (updateFirst test change (items.map hide)).map hide =
      (updateFirst test change items).map hide := by
  induction items with
  | nil => rfl
  | cons item items ih =>
      simp only [List.map_cons, updateFirst, unseen]
      split
      · simp [covered, again]
      · simp [ih, again]

@[simp]
theorem liveUser?_withoutCredentials (id : Uuid) :
    store.withoutCredentials.liveUser? id = (store.liveUser? id).map User.withoutCredentials :=
  List.find?_map ..

@[simp]
theorem liveUserByEmail?_withoutCredentials (email : String) :
    store.withoutCredentials.liveUserByEmail? email =
      (store.liveUserByEmail? email).map User.withoutCredentials :=
  List.find?_map ..

@[simp]
theorem adminExists_withoutCredentials :
    store.withoutCredentials.adminExists = store.adminExists :=
  List.any_map

@[simp]
theorem emailTaken_withoutCredentials (email : String) (exempt : Option Uuid) :
    store.withoutCredentials.emailTaken email exempt = store.emailTaken email exempt :=
  List.any_map

@[simp]
theorem listUsers_withoutCredentials (visibility : UserVisibility) :
    store.withoutCredentials.listUsers visibility =
      (store.listUsers visibility).map User.withoutCredentials := by
  cases visibility <;> exact List.filter_map

@[simp]
theorem listEmployees_withoutCredentials (team : Uuid) :
    store.withoutCredentials.listEmployees team =
      (store.listEmployees team).map User.withoutCredentials :=
  List.filter_map

@[simp]
theorem listManagers_withoutCredentials (team : Uuid) :
    store.withoutCredentials.listManagers team =
      (store.listManagers team).map User.withoutCredentials :=
  List.filter_map

@[simp]
theorem liveTeam?_withoutCredentials (id : Uuid) :
    store.withoutCredentials.liveTeam? id = store.liveTeam? id := rfl

@[simp]
theorem listTeams_withoutCredentials (visibility : TeamVisibility) :
    store.withoutCredentials.listTeams visibility = store.listTeams visibility := rfl

@[simp]
theorem managedTeamIds_withoutCredentials (manager : Uuid) :
    store.withoutCredentials.managedTeamIds manager = store.managedTeamIds manager := rfl

@[simp]
theorem withoutCredentials_withoutCredentials :
    store.withoutCredentials.withoutCredentials = store.withoutCredentials := by
  simp [withoutCredentials]

theorem withoutCredentials_eq_iff {first second : Store} :
    first.withoutCredentials = second.withoutCredentials ↔
      first.users.map User.withoutCredentials = second.users.map User.withoutCredentials ∧
        first.teams = second.teams ∧ first.links = second.links := by
  simp [withoutCredentials]

/-- It does not matter whether the credentials are taken out before a change too. -/
theorem withoutCredentials_modifyUser (id : Uuid) {change : User → User}
    (covered : ∀ user, (change user.withoutCredentials).withoutCredentials =
      (change user).withoutCredentials) :
    (store.withoutCredentials.modifyUser id change).withoutCredentials =
      (store.modifyUser id change).withoutCredentials := by
  have sameTest (user : User) :
      isLiveUser id user.withoutCredentials = isLiveUser id user := rfl
  have users := map_updateFirst_map User.withoutCredentials sameTest covered (fun _ => rfl)
    store.users
  exact congrArg (fun users => { store with users }) users

/--
A store without credentials answers a call as the store does, as far as the credentials of users do
not show, and the stores after it are the same without them.
-/
theorem perform_withoutCredentials (moment : Moment) (call : StoreCall)
    (plain : call.comparesToken = false) :
    (store.withoutCredentials.perform moment call).1.map call.hide =
        (store.perform moment call).1.map call.hide ∧
      (store.withoutCredentials.perform moment call).2.withoutCredentials =
        (store.perform moment call).2.withoutCredentials := by
  have again := store.withoutCredentials_withoutCredentials
  cases call with
  | createUser data =>
      simp only [perform, createUser, emailTaken_withoutCredentials]
      split
      · exact ⟨rfl, again⟩
      · exact ⟨rfl, by simp [withoutCredentials]⟩
  | updateUser id changes =>
      simp only [perform, updateUser, emailTaken_withoutCredentials, liveUser?_withoutCredentials]
      split
      · exact ⟨rfl, again⟩
      · cases store.liveUser? id with
        | none => exact ⟨rfl, again⟩
        | some user =>
            -- The links that a change of role takes away are the same on both sides.
            refine ⟨rfl, withoutCredentials_eq_iff.mpr ⟨?_, rfl, rfl⟩⟩
            exact congrArg Store.users (store.withoutCredentials_modifyUser id fun _ => rfl)
  | deleteUser _ | storeRefreshToken _ _ _ =>
      simp only [perform, deleteUser, storeRefreshToken, answered, liveUser?_withoutCredentials]
      cases store.liveUser? _ with
      | none => exact ⟨rfl, again⟩
      | some user => exact ⟨rfl, store.withoutCredentials_modifyUser _ fun _ => rfl⟩
  | rotateRefreshToken _ _ _ _ => cases plain
  | revokeRefreshToken id => exact ⟨rfl, store.withoutCredentials_modifyUser id fun _ => rfl⟩
  | createTeam stamp data =>
      exact ⟨rfl, (store.createTeam stamp data).2.withoutCredentials_withoutCredentials⟩
  | updateTeam _ _ | deleteTeam _ =>
      simp only [perform, updateTeam, deleteTeam, answered, liveTeam?_withoutCredentials]
      split
      · exact ⟨rfl, again⟩
      · exact ⟨rfl, (store.modifyTeam _ _).withoutCredentials_withoutCredentials⟩
  | addManager team manager =>
      have added : store.withoutCredentials.addManager team manager =
          (store.addManager team manager).withoutCredentials := by
        rw [addManager, addManager, apply_ite withoutCredentials]
        rfl
      exact ⟨rfl, by simp [perform, added]⟩
  | removeManager team manager =>
      exact ⟨rfl, (store.removeManager team manager).withoutCredentials_withoutCredentials⟩
  | _ => exact ⟨by simp [perform, Except.map, StoreCall.hide], again⟩

end Store

/-! ## Programs that do not look -/

namespace Program

variable {α β : Type}

/-- A program that goes on in the same way whether answers come with credentials or without. -/
def Blind : Program α → Prop
  | done _ => True
  | call effect next =>
    effect.comparesToken = false ∧
      ∀ answer, next (effect.hide answer) = next answer ∧ Blind (next answer)

theorem Blind.bind {program : Program α} {rest : α → Program β} (blind : program.Blind)
    (next : ∀ value, (rest value).Blind) : (program >>= rest).Blind := by
  induction program with
  | done value => exact next value
  | call effect step ih =>
      rcases blind with ⟨plain, steps⟩
      refine ⟨plain, fun answer => ⟨?_, ih answer (steps answer).2⟩⟩
      exact congrArg (· >>= rest) (steps answer).1

/-- On stores that differ in credentials at most, an effect is answered alike without them. -/
theorem step_withoutCredentials (hasher : Hasher) (tokens : TokenService)
    (moments : Nat → Moment) (tick : Nat) (effect : Effect) (plain : effect.comparesToken = false)
    {first second : Store} (alike : first.withoutCredentials = second.withoutCredentials) :
    let handler := (System.inMemory hasher tokens).handler moments
    effect.hide (handler tick effect first).1 = effect.hide (handler tick effect second).1 ∧
      (handler tick effect first).2.withoutCredentials =
        (handler tick effect second).2.withoutCredentials := by
  intro handler
  cases effect with
  | store call =>
      rcases first.perform_withoutCredentials (moments tick) call plain with ⟨answer, store⟩
      rcases second.perform_withoutCredentials (moments tick) call plain with ⟨answer', store'⟩
      rw [← alike] at answer' store'
      exact ⟨answer.symm.trans answer', store.symm.trans store'⟩
  | checkToken kind token => cases kind <;> exact ⟨rfl, alike⟩
  | _ => exact ⟨rfl, alike⟩

/-- A blind program ends alike on stores that differ in credentials at most. -/
theorem Blind.run {program : Program α} (blind : program.Blind) (hasher : Hasher)
    (tokens : TokenService) (moments : Nat → Moment) {first second : Store}
    (alike : first.withoutCredentials = second.withoutCredentials) (tick : Nat) :
    let handler := (System.inMemory hasher tokens).handler moments
    (program.run handler ⟨first, tick⟩).1 = (program.run handler ⟨second, tick⟩).1 ∧
      (program.run handler ⟨first, tick⟩).2.store.withoutCredentials =
        (program.run handler ⟨second, tick⟩).2.store.withoutCredentials := by
  intro handler
  induction program generalizing first second tick with
  | done value => exact ⟨rfl, alike⟩
  | call effect next ih =>
      rcases blind with ⟨plain, steps⟩
      rcases step_withoutCredentials hasher tokens moments tick effect plain alike with
        ⟨answers, stores⟩
      have same_next := calc
        next (handler tick effect first).1
        _ = next (effect.hide (handler tick effect first).1) := (steps _).1.symm
        _ = next (effect.hide (handler tick effect second).1) := congrArg next answers
        _ = next (handler tick effect second).1 := (steps _).1
      rw [run_call, run_call]
      dsimp only [Handler.step]
      rw [same_next]
      exact ih _ (steps _).2 stores (tick + 1)

end Program

namespace Attempt

variable {ε ε' α β : Type}

/-- A program that may fail and does not look at credentials. -/
def Blind (attempt : ExceptT ε Program α) : Prop :=
  attempt.run.Blind

theorem blind_pure (value : α) : Blind (pure value : ExceptT ε Program α) :=
  trivial

theorem blind_throw (failure : ε) : Blind (throw failure : ExceptT ε Program α) :=
  trivial

theorem blind_liftExcept (result : Except ε α) :
    Blind (liftExcept result : ExceptT ε Program α) := by
  cases result <;> trivial

theorem Blind.bind {attempt : ExceptT ε Program α} {rest : α → ExceptT ε Program β}
    (blind : Blind attempt) (next : ∀ value, Blind (rest value)) : Blind (attempt >>= rest) := by
  rw [Blind, ExceptT.run_bind]
  refine Program.Blind.bind blind fun result => ?_
  cases result with
  | ok value => exact next value
  | error failure => trivial

theorem blind_mapError {program : Program (Except ε' α)} {change : ε' → ε}
    (blind : program.Blind) : Blind (ExceptT.mk do return (← program).mapError change) :=
  blind.bind fun _ => trivial

/-- The users in an answer of the store may be used wherever their credentials do not show. -/
theorem blind_store_bind {call : StoreCall} {change : StoreError → ε}
    {rest : call.Answer → ExceptT ε Program β} (plain : call.comparesToken = false)
    (same : ∀ value, rest (call.hide value) = rest value) (next : ∀ value, Blind (rest value)) :
    Blind ((ExceptT.mk do return (← Program.effect (.store call)).mapError change) >>= rest) := by
  refine ⟨plain, fun answer => ?_⟩
  cases answer with
  | ok value => exact ⟨congrArg ExceptT.run (same value), next value⟩
  | error error => exact ⟨rfl, trivial⟩

end Attempt

namespace Workflow

open Attempt

variable {α β : Type}

theorem blind_permitted (decision : Except Denial α) : Blind (permitted decision) := by
  cases decision <;> trivial

theorem blind_require (failure : Failure) (option : Option α) : Blind (require failure option) := by
  cases option <;> trivial

theorem blind_store {call : StoreCall} (plain : call.comparesToken = false)
    (same : ∀ value, call.hide value = value) : Blind (store call) := by
  rw [← bind_pure (store call)]
  refine blind_store_bind plain (fun value => ?_) fun value => blind_pure value
  exact congrArg pure (same value)

/-- A user who was looked up may be used wherever its credentials do not show. -/
theorem blind_findUser_bind {id : Uuid} {failure : Failure} {rest : User → Workflow β}
    (same : ∀ user, rest user.withoutCredentials = rest user) (next : ∀ user, Blind (rest user)) :
    Blind (store (.findUser id) >>= fun found => require failure found >>= rest) := by
  refine blind_store_bind rfl (fun found => ?_) fun found => (blind_require _ found).bind next
  cases found with
  | none => rfl
  | some user => exact same user

theorem blind_guard_bind {condition : Prop} [Decidable condition] {failure : Failure}
    {rest : Workflow α} (next : ¬condition → Blind rest) :
    Blind (if condition then throw failure else rest) := by
  split
  · exact blind_throw failure
  · rename_i passes
    exact next passes

theorem blind_mapM {items : List α} {workflow : α → Workflow β}
    (each : ∀ item, Blind (workflow item)) : Blind (items.mapM workflow) := by
  induction items with
  | nil => exact blind_pure []
  | cons item items ih =>
      rw [List.mapM_cons]
      exact (each item).bind fun _ => ih.bind fun _ => blind_pure _

/-! ## The operations -/

theorem blind_actorOf (user : User) : Blind (actorOf user) := by
  have managed (teamId : Option Uuid) :
      Blind (if user.role = .manager then
          store (.managedTeamIds user.id) >>= fun teams =>
            pure (⟨user.id, user.role, teamId, teams⟩ : Actor)
        else pure [] >>= fun teams => pure ⟨user.id, user.role, teamId, teams⟩) := by
    split
    · exact (blind_store rfl fun _ => rfl).bind fun teams => blind_pure _
    · exact blind_pure _
  unfold actorOf
  dsimp only
  split
  · exact (blind_store rfl fun _ => rfl).bind fun team => managed _
  · exact managed none

theorem blind_resolveActor (caller : Uuid) : Blind (resolveActor caller) := by
  rw [resolveActor_eq]
  exact blind_findUser_bind (fun _ => rfl) blind_actorOf

theorem blind_resolveAdmin (caller : Uuid) (action : AdminAction) :
    Blind (resolveAdmin caller action) :=
  (blind_resolveActor caller).bind fun _ => (blind_permitted _).bind fun _ => blind_pure _

theorem blind_liveTeam (team : Uuid) : Blind (liveTeam team) :=
  (blind_store rfl fun _ => rfl).bind fun found => blind_require _ found

theorem blind_hashPassword (password : String) : Blind (hashPassword password) :=
  blind_mapError ⟨rfl, fun _ => ⟨rfl, trivial⟩⟩

theorem blind_readMoment : Blind (ExceptT.lift (Program.effect .readMoment) : Workflow Moment) :=
  ⟨rfl, fun _ => ⟨rfl, trivial⟩⟩

theorem blind_requiredText (field : String) (value : Option String) :
    Blind (requiredText field value) := by
  unfold requiredText
  split
  · exact blind_throw _
  · exact blind_pure _

theorem blind_placement (role : Role) (teamId : Option Uuid) : Blind (placement role teamId) := by
  cases teamId with
  | none => exact blind_pure _
  | some team =>
      exact blind_guard_bind fun _ => (blind_liveTeam team).bind fun _ => blind_pure _

theorem blind_register (createdBy : Option Uuid) (input : Registration) :
    Blind (register createdBy input) := by
  -- From here on the creator is only asked for its role and its identifier.
  have admitted (adminExists : Bool) (creator : Option User) :
      Blind (do
        if adminExists && !creator.any User.isAdmin then
          throw (.ofDenial (.adminRequired .createUser))
        let role ← permitted (grantedRole adminExists creator input.role)
        placement role input.teamId
        let passwordHash ← hashPassword input.password
        let user ← store (.createUser {
          email := input.email
          passwordHash
          firstName := input.firstName
          lastName := input.lastName
          phoneNumber := optionalText input.phoneNumber
          role
          createdBy := creator.map User.id
          teamId := input.teamId })
        return user.toPublic) := by
    refine blind_guard_bind fun _ => (blind_permitted _).bind fun role => ?_
    refine (blind_placement _ _).bind fun _ => (blind_hashPassword _).bind fun hash => ?_
    exact blind_store_bind rfl (fun user => rfl) fun user => blind_pure _
  rw [register_eq]
  refine (blind_store rfl fun _ => rfl).bind fun adminExists => ?_
  refine blind_guard_bind fun _ => ?_
  cases createdBy with
  | none => exact (blind_pure none).bind fun creator => admitted adminExists creator
  | some id =>
      simp only [registrant, bind_assoc, bind_map_left]
      exact blind_findUser_bind (fun _ => rfl) fun creator => admitted adminExists (some creator)

theorem blind_logout (user : Uuid) : Blind (logout user) :=
  blind_store rfl fun _ => rfl

theorem blind_profile (caller : Uuid) : Blind (profile caller) := by
  unfold profile
  refine blind_findUser_bind (fun _ => rfl) fun user => ?_
  refine (blind_resolveActor caller).bind fun actor => ?_
  have finishes (team : Option Team) :
      Blind (actor.managedTeamIds.mapM (fun team => store (.findTeam team)) >>= fun teams =>
        pure ({ user := user.toPublic, team, teams := teams.filterMap id } : Profile)) := by
    have each (team : Uuid) : Blind (store (.findTeam team)) := blind_store rfl fun _ => rfl
    exact (blind_mapM each).bind fun teams => blind_pure _
  dsimp only
  split
  · exact (blind_store rfl fun _ => rfl).bind finishes
  · exact finishes none

theorem blind_listUsers (caller : Uuid) : Blind (listUsers caller) := by
  refine (blind_resolveActor caller).bind fun actor => ?_
  refine blind_store_bind rfl (fun users => ?_) fun users => blind_pure _
  simp only [StoreCall.hide, List.map_map]
  rfl

theorem blind_getUser (caller id : Uuid) : Blind (getUser caller id) := by
  refine (blind_resolveActor caller).bind fun actor => ?_
  refine blind_findUser_bind (fun _ => rfl) fun user => ?_
  exact (blind_permitted _).bind fun _ => blind_pure _

theorem blind_patchedRole (name : Option String) : Blind (patchedRole name) := by
  cases name with
  | none => exact blind_pure _
  | some name => exact (blind_require _ _).bind fun role => blind_pure _

theorem blind_patchedTeam (target : User) (role : Role) (requested : Option (Option Uuid)) :
    Blind (patchedTeam target role requested) := by
  rw [patchedTeam_eq]
  exact (blind_placement _ _).bind fun _ => blind_pure _

theorem blind_patchedPassword (password : Option String) : Blind (patchedPassword password) := by
  refine (blind_requiredText _ _).bind fun checked => ?_
  cases checked with
  | none => exact blind_pure _
  | some password =>
      exact blind_guard_bind fun _ => (blind_hashPassword password).bind fun hash => blind_pure _

theorem blind_updateUser (caller id : Uuid) (patch : UserPatch) :
    Blind (updateUser caller id patch) := by
  refine (blind_resolveAdmin caller _).bind fun _ => ?_
  refine blind_findUser_bind (fun _ => rfl) fun target => ?_
  refine (blind_patchedRole _).bind fun role => (blind_patchedTeam _ _ _).bind fun teamId => ?_
  refine (blind_patchedPassword _).bind fun hash => (blind_requiredText _ _).bind fun email => ?_
  refine (blind_requiredText _ _).bind fun firstName => ?_
  refine (blind_requiredText _ _).bind fun lastName => ?_
  dsimp only
  split
  · exact blind_pure _
  · refine blind_store_bind rfl (fun updated => ?_) fun updated => ?_
    · cases updated <;> rfl
    · exact (blind_require _ updated).bind fun user => blind_pure _

theorem blind_deleteUser (caller id : Uuid) : Blind (deleteUser caller id) := by
  refine (blind_resolveAdmin caller _).bind fun _ => ?_
  exact (blind_store rfl fun _ => rfl).bind fun isDeleted => blind_guard_bind fun _ => blind_pure _

theorem blind_teamDetails (actor : Actor) (team : Team) : Blind (teamDetails actor team) := by
  have shown (users : List User) :
      ((users.map User.withoutCredentials).filter actor.userVisibility.permits).map User.toPublic =
        (users.filter actor.userVisibility.permits).map User.toPublic := by
    rw [List.filter_map, List.map_map]
    cases actor.userVisibility <;> rfl
  unfold teamDetails
  refine blind_store_bind rfl (fun employees => ?_) fun employees => ?_
  · simp only [StoreCall.hide, shown]
  refine blind_store_bind rfl (fun managers => ?_) fun managers => blind_pure _
  simp only [StoreCall.hide, shown]

theorem blind_listTeams (caller : Uuid) : Blind (listTeams caller) := by
  refine (blind_resolveActor caller).bind fun actor => ?_
  exact (blind_store rfl fun _ => rfl).bind fun teams => blind_mapM (blind_teamDetails actor)

theorem blind_getTeam (caller team : Uuid) : Blind (getTeam caller team) := by
  refine (blind_resolveActor caller).bind fun actor => (blind_liveTeam team).bind fun found => ?_
  exact (blind_permitted _).bind fun _ => blind_teamDetails actor found

theorem blind_createTeam (caller : Uuid) (draft : TeamDraft) : Blind (createTeam caller draft) := by
  refine (blind_resolveAdmin caller _).bind fun actor => blind_guard_bind fun _ => ?_
  exact blind_readMoment.bind fun stamp => blind_store rfl fun _ => rfl

theorem blind_updateTeam (caller team : Uuid) (patch : TeamPatch) :
    Blind (updateTeam caller team patch) := by
  refine (blind_resolveAdmin caller _).bind fun _ => (blind_requiredText _ _).bind fun name => ?_
  exact (blind_store rfl fun _ => rfl).bind fun updated => blind_require _ updated

theorem blind_deleteTeam (caller team : Uuid) : Blind (deleteTeam caller team) := by
  refine (blind_resolveAdmin caller _).bind fun _ => ?_
  exact (blind_store rfl fun _ => rfl).bind fun isDeleted => blind_guard_bind fun _ => blind_pure _

theorem blind_addManager (caller team manager : Uuid) : Blind (addManager caller team manager) := by
  refine (blind_resolveAdmin caller _).bind fun _ => ?_
  refine blind_findUser_bind (fun _ => rfl) fun user => blind_guard_bind fun _ => ?_
  exact (blind_liveTeam team).bind fun _ => blind_store rfl fun _ => rfl

theorem blind_removeManager (caller team manager : Uuid) :
    Blind (removeManager caller team manager) := by
  refine (blind_resolveAdmin caller _).bind fun _ => ?_
  refine blind_findUser_bind (fun _ => rfl) fun user => (blind_liveTeam team).bind fun _ => ?_
  exact blind_store rfl fun _ => rfl

end Workflow

/-- Whether an operation is there to check credentials. -/
def Operation.checksCredentials : Operation → Bool
  | login _ _ | refresh _ | checkRefreshToken _ _ => true
  | _ => false

theorem Operation.blind {operation : Operation} (plain : operation.checksCredentials = false) :
    Attempt.Blind operation.workflow := by
  cases operation with
  | login _ _ | refresh _ | checkRefreshToken _ _ => cases plain
  | register createdBy input => exact Workflow.blind_register createdBy input
  | logout user => exact Workflow.blind_logout user
  | profile caller => exact Workflow.blind_profile caller
  | listUsers caller => exact Workflow.blind_listUsers caller
  | getUser caller id => exact Workflow.blind_getUser caller id
  | updateUser caller id patch => exact Workflow.blind_updateUser caller id patch
  | deleteUser caller id => exact Workflow.blind_deleteUser caller id
  | listTeams caller => exact Workflow.blind_listTeams caller
  | getTeam caller team => exact Workflow.blind_getTeam caller team
  | createTeam caller draft => exact Workflow.blind_createTeam caller draft
  | updateTeam caller team patch => exact Workflow.blind_updateTeam caller team patch
  | deleteTeam caller team => exact Workflow.blind_deleteTeam caller team
  | addManager caller team manager => exact Workflow.blind_addManager caller team manager
  | removeManager caller team manager => exact Workflow.blind_removeManager caller team manager

/-! ## Requests -/

namespace Http

open Attempt

namespace Handling

/-- A handling that comes to blind operations only is blind. -/
theorem Serves.blind {allowed : Operation → Prop} {handling : Handling Response}
    (serves : Serves allowed handling)
    (plain : ∀ operation, allowed operation → operation.checksCredentials = false) :
    Blind handling := by
  cases serves with
  | refuses bad => exact blind_throw _
  | lacks nothing => exact blind_pure _
  | performs operation may success =>
      exact (blind_mapError (Operation.blind (plain operation may))).bind fun _ => blind_pure _

theorem blind_identify (request : Request) : Blind (identify request) := by
  refine blind_mapError ?_
  refine Blind.bind (blind_liftExcept _) fun token => ?_
  refine Blind.bind (blind_mapError ⟨rfl, fun _ => ⟨rfl, trivial⟩⟩) fun claims => ?_
  refine blind_store_bind rfl (fun found => ?_) fun found => ?_
  · cases found <;> rfl
  · cases found <;> trivial

theorem blind_identifyIfPresent (request : Request) : Blind (identifyIfPresent request) := by
  unfold identifyIfPresent
  split
  · exact blind_pure none
  · exact (blind_identify request).bind fun identity => blind_pure (some identity)

theorem blind_checkHealth : checkHealth.Blind :=
  ⟨rfl, fun answer => by cases answer <;> exact ⟨rfl, trivial⟩⟩

end Handling

/-- Whether a request is a login or a refresh. -/
def Request.AsksForTokens (request : Request) : Prop :=
  request.method = .post ∧
    (request.path = "/login".toList ∨ request.path = "/refresh".toList)

/-- Only a login and a refresh look at credentials. -/
theorem blind_serve {request : Request} (plain : ¬request.AsksForTokens) :
    Blind (serve request) := by
  have served := Handling.served request
  generalize serve request = handling at served
  cases served with
  | health leads => exact Handling.blind_checkHealth.bind fun _ => trivial
  | @session resource handling leads posts other serves =>
      have path := Request.path_of_shared leads
      cases resource with
      | health => exact absurd rfl other
      | login => exact absurd ⟨posts, Or.inl path⟩ plain
      | refresh => exact absurd ⟨posts, Or.inr path⟩ plain
  | notAllowed leads => exact blind_pure _
  | registration leads serves =>
      refine (Handling.blind_identifyIfPresent request).bind fun caller => (serves caller).blind ?_
      rintro operation ⟨_, ⟨input, rfl⟩, _⟩
      rfl
  | member notShared notRegistration serves =>
      refine (Handling.blind_identify request).bind fun caller => ?_
      refine (serves caller).blind fun operation member => ?_
      cases operation <;> first | rfl | cases member.1.1

theorem blind_answer (policy : CorsPolicy) {request : Request} (plain : ¬request.AsksForTokens) :
    (answer policy request).Blind := by
  have responds : (serve request).response.Blind := by
    refine Program.Blind.bind (blind_serve plain) fun result => ?_
    cases result <;> trivial
  unfold answer
  dsimp only
  split
  · trivial
  · exact responds.bind fun response => trivial

/--
On stores that differ only in the credentials of users, a request that is neither a login nor a
refresh is answered with the same response, and the stores after it differ only in credentials.
-/
theorem response_hides_credentials (hasher : Hasher) (tokens : TokenService)
    (moments : Nat → Moment) (policy : CorsPolicy) {request : Request}
    (plain : ¬request.AsksForTokens) {first second : Store}
    (alike : first.withoutCredentials = second.withoutCredentials) (tick : Nat) :
    let run := fun store =>
      (System.inMemory hasher tokens).run moments (answer policy request) ⟨store, tick⟩
    (run first).1 = (run second).1 ∧
      (run first).2.store.withoutCredentials = (run second).2.store.withoutCredentials :=
  (blind_answer policy plain).run hasher tokens moments alike tick

/-- A user who has just been created. -/
def newMember : User :=
  Store.newUserRecord (.numbered 1) newcomer

/-- The same user with another password and a session. -/
def activeMember : User :=
  Store.openSession "session" .epoch { newMember with passwordHash := "secret" }

/-- The user asks for its own record with an access token. -/
def memberProfile : Request where
  method := .get
  target := "/me"
  headers :=
    match TokenService.unsigned.issuePair (.numbered 0) newMember.id with
    | .ok pair => [.ofText "authorization" ("Bearer " ++ pair.accessToken)]
    | .error _ => []
  body := []

theorem memberProfile_hides_session :
    let first : Store := { users := [newMember] }
    let second : Store := { users := [activeMember] }
    let run := fun store =>
      (System.inMemory .plain .unsigned).run .numbered (answer .any memberProfile) ⟨store, 0⟩
    ¬memberProfile.AsksForTokens ∧ first.withoutCredentials = second.withoutCredentials ∧
      (run first).1 = (run second).1 ∧
        (run first).2.store.withoutCredentials = (run second).2.store.withoutCredentials := by
  intro first second
  have plain : ¬memberProfile.AsksForTokens := fun asks => nomatch asks.1
  have alike : first.withoutCredentials = second.withoutCredentials := rfl
  have hidden := response_hides_credentials .plain .unsigned .numbered .any plain alike 0
  exact ⟨plain, alike, hidden⟩

end Http

end OrgAccess
