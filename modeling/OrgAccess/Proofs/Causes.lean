import OrgAccess.Proofs.Operation
import OrgAccess.Proofs.Sequence

/-!
# Why operations fail

A failure of an operation has a cause (`Failure.HasCause`): something that it asked for was not
done, its input breaks a rule, or it was told that its caller does not exist. Every operation is
judged so against all answers (`Operation.explained`).

A run in memory that fails has been answered from the store as it was. An operation on behalf of a
live user is therefore never refused for want of authentication.
-/

namespace OrgAccess

/-- What made an operation fail on behalf of a caller, as its exchanges show. -/
inductive Failure.HasCause (caller : Option Uuid) (history : History) : Failure → Prop where
  | store {call error} (given : ⟨.store call, .error error⟩ ∈ history) :
      HasCause caller history (.ofStore error)
  | hashing {password error} (given : ⟨.hashPassword password, .error error⟩ ∈ history) :
      HasCause caller history (.ofPassword error)
  | verifying {stored password error}
      (given : ⟨.verifyPassword stored password, .error error⟩ ∈ history) :
      HasCause caller history (.ofPassword error)
  /-- Tokens are issued for those only who are not authenticated yet. -/
  | issuing {user error} (outside : caller = none)
      (given : ⟨.issueTokens user, .error error⟩ ∈ history) :
      HasCause caller history (.ofToken error)
  | credentials {reason} (outside : caller = none) : HasCause caller history (.unauthorized reason)
  | callerGone {id} (named : caller = some id) (saw : history.Saw (.findUser id) none) :
      HasCause caller history .callerUnknown
  | invalid {reason} : HasCause caller history (.invalid reason)
  | unknownRole : HasCause caller history .unknownRole
  | forbidden {reason} : HasCause caller history (.forbidden reason)
  | notFound {reason} : HasCause caller history (.notFound reason)

theorem Failure.HasCause.denied {caller : Option Uuid} {history : History} (denial : Denial) :
    Failure.HasCause caller history (.ofDenial denial) := by
  cases denial with
  | unknownRole => exact .unknownRole
  | _ => exact .forbidden

/-- Whoever acts for a caller fails for want of authentication only if the caller is unknown. -/
theorem Failure.HasCause.saw_of_unauthorized {caller : Uuid} {history : History} {failure : Failure}
    (cause : failure.HasCause (some caller) history) {reason : String}
    (same : failure = .unauthorized reason) : history.Saw (.findUser caller) none := by
  cases cause with
  | @store call error given => cases error <;> cases same
  | hashing given | verifying given => cases same
  | issuing outside given => cases outside
  | credentials outside => cases outside
  | callerGone named saw =>
      obtain rfl := Option.some.inj named
      exact saw
  | invalid | unknownRole | forbidden | notFound => cases same

namespace Workflow

variable {α β : Type} {caller : Option Uuid}

/-- Every failure of a workflow has a cause, whatever it is answered. -/
def Explained (caller : Option Uuid) (workflow : Workflow α) : Prop :=
  ∀ history : History, Attempt.Obeys (fun _ _ => True)
    (fun later failure => failure.HasCause caller later) (fun _ _ => True) history workflow

/-! ## Steps -/

theorem explained_pure (value : α) : Explained caller (pure value) :=
  fun _ => trivial

theorem explained_throw {failure : Failure} (cause : ∀ history, failure.HasCause caller history) :
    Explained caller (throw failure : Workflow α) :=
  cause

theorem explained_bind {workflow : Workflow α} {rest : α → Workflow β}
    (first : Explained caller workflow) (second : ∀ value, Explained caller (rest value)) :
    Explained caller (workflow >>= rest) := by
  intro history
  rw [Attempt.obeys_bind]
  refine (first history).mono (fun _ _ _ allowed => allowed) (fun _ _ _ cause => cause) ?_
  intro later value _ _
  exact second value later

theorem explained_guard {condition : Prop} [Decidable condition] {failure : Failure}
    {rest : Unit → Workflow β} (cause : ∀ history, failure.HasCause caller history)
    (next : Explained caller (rest ())) :
    Explained caller (if condition then throw failure >>= rest else rest ()) := by
  split
  · exact explained_bind (explained_throw cause) fun _ => next
  · exact next

theorem explained_store (call : StoreCall) : Explained caller (store call) := by
  intro history
  rw [obeys_store]
  exact ⟨fun _ => trivial, fun error => .store (List.mem_append_right history List.mem_cons_self),
    fun value => trivial⟩

theorem explained_hashPassword (password : String) :
    Explained caller (hashPassword password) := by
  intro history
  rw [hashPassword, obeys_lift]
  refine ⟨fun _ _ _ => trivial, fun answer => ?_⟩
  cases answer with
  | ok hash => trivial
  | error error => exact .hashing (List.mem_append_right history List.mem_cons_self)

theorem explained_verifyPassword (stored password : String) :
    Explained caller (verifyPassword stored password) := by
  intro history
  rw [verifyPassword, obeys_lift]
  refine ⟨fun _ _ _ => trivial, fun answer => ?_⟩
  cases answer with
  | ok isRight => trivial
  | error error => exact .verifying (List.mem_append_right history List.mem_cons_self)

theorem explained_issueTokens (user : Uuid) : Explained none (issueTokens user) := by
  intro history
  rw [issueTokens, obeys_lift]
  refine ⟨fun _ _ _ => trivial, fun answer => ?_⟩
  cases answer with
  | ok pair => trivial
  | error error => exact .issuing rfl (List.mem_append_right history List.mem_cons_self)

theorem explained_readMoment : Explained caller (ExceptT.lift (Program.effect .readMoment)) :=
  fun _ => ⟨fun _ _ _ => trivial, fun _ => trivial⟩

theorem explained_require {failure : Failure} (cause : ∀ history, failure.HasCause caller history)
    (option : Option α) : Explained caller (require failure option) := by
  cases option with
  | none => exact explained_throw cause
  | some value => exact explained_pure value

theorem explained_permitted (decision : Except Denial α) :
    Explained caller (permitted decision) := by
  cases decision with
  | ok value => exact explained_pure value
  | error denial => exact explained_throw fun _ => .denied denial

theorem explained_mapM {items : List α} {workflow : α → Workflow β}
    (each : ∀ item, Explained caller (workflow item)) :
    Explained caller (items.mapM workflow) := by
  induction items with
  | nil => exact explained_pure []
  | cons item items ih =>
      rw [List.mapM_cons]
      refine explained_bind (each item) fun value => ?_
      exact explained_bind ih fun values => explained_pure _

/-! ## What operations share -/

theorem explained_actorOf (user : User) : Explained caller (actorOf user) := by
  unfold actorOf
  have managed (teamId : Option Uuid) :
      Explained caller
        (if user.role = .manager then
          store (.managedTeamIds user.id) >>= fun teams =>
            pure (⟨user.id, user.role, teamId, teams⟩ : Actor)
        else pure [] >>= fun teams => pure ⟨user.id, user.role, teamId, teams⟩) := by
    split
    · exact explained_bind (explained_store _) fun teams => explained_pure _
    · exact explained_pure _
  dsimp only
  split
  · exact explained_bind (explained_store _) fun team => managed (team.map Team.id)
  · exact managed none

theorem explained_resolveActor (caller : Uuid) : Explained (some caller) (resolveActor caller) := by
  intro history
  rw [resolveActor_eq, Attempt.obeys_bind, obeys_store]
  refine ⟨fun _ => trivial, fun error => .store (List.mem_append_right history List.mem_cons_self), ?_⟩
  intro found
  cases found with
  | none => exact .callerGone rfl (History.saw_append_self history (.findUser caller) none)
  | some user => exact explained_actorOf user _

theorem explained_resolveAdmin (caller : Uuid) (action : AdminAction) :
    Explained (some caller) (resolveAdmin caller action) := by
  unfold resolveAdmin
  refine explained_bind (explained_resolveActor caller) fun actor => ?_
  exact explained_bind (explained_permitted _) fun _ => explained_pure actor

theorem explained_liveTeam (team : Uuid) : Explained caller (liveTeam team) := by
  unfold liveTeam
  refine explained_bind (explained_store _) fun found => ?_
  exact explained_require (fun _ => .notFound) found

theorem explained_requiredText (field : String) (value : Option String) :
    Explained caller (requiredText field value) := by
  unfold requiredText
  split
  · exact explained_throw fun _ => .invalid
  · exact explained_pure value

theorem explained_placement (role : Role) (teamId : Option Uuid) :
    Explained caller (placement role teamId) := by
  cases teamId with
  | none => exact explained_pure ()
  | some team =>
      unfold placement
      refine explained_guard (fun _ => .invalid) ?_
      exact explained_bind (explained_liveTeam team) fun _ => explained_pure ()

theorem explained_teamDetails (actor : Actor) (team : Team) :
    Explained caller (teamDetails actor team) := by
  unfold teamDetails
  refine explained_bind (explained_store _) fun employees => ?_
  exact explained_bind (explained_store _) fun managers => explained_pure _

/-! ## Operations -/

theorem explained_register (createdBy : Option Uuid) (input : Registration) :
    Explained createdBy (register createdBy input) := by
  rw [register_eq]
  have registrant_explained : Explained createdBy (registrant createdBy) := by
    cases createdBy with
    | none => exact explained_pure none
    | some id =>
        refine explained_bind (explained_store _) fun found => ?_
        rw [map_eq_pure_bind]
        refine explained_bind (explained_require (fun _ => .notFound) found) fun user => ?_
        exact explained_pure (some user)
  refine explained_bind (explained_store _) fun adminExists => ?_
  refine explained_guard (fun _ => .denied _) ?_
  refine explained_bind registrant_explained fun creator => ?_
  refine explained_guard (fun _ => .denied _) ?_
  refine explained_bind (explained_permitted _) fun role => ?_
  refine explained_bind (explained_placement role input.teamId) fun _ => ?_
  refine explained_bind (explained_hashPassword _) fun hash => ?_
  exact explained_bind (explained_store _) fun user => explained_pure user.toPublic

theorem explained_login (email password : String) : Explained none (login email password) := by
  unfold login
  refine explained_bind (explained_store _) fun found => ?_
  refine explained_bind (explained_require (fun _ => .credentials rfl) found) fun user => ?_
  refine explained_bind (explained_verifyPassword _ _) fun isRight => ?_
  refine explained_guard (fun _ => .credentials rfl) ?_
  refine explained_bind (explained_issueTokens user.id) fun pair => ?_
  refine explained_bind (explained_store _) fun isStored => ?_
  exact explained_guard (fun _ => .credentials rfl) (explained_pure _)

theorem explained_refresh (token : String) : Explained none (refresh token) := by
  have checked : Explained none
      (lift (fun _ => .refreshTokenUnusable) (Program.effect (.checkToken .refresh token))) := by
    intro history
    rw [obeys_lift]
    refine ⟨fun _ _ _ => trivial, fun answer => ?_⟩
    cases answer with
    | ok claims => trivial
    | error error => exact .credentials rfl
  unfold refresh
  refine explained_bind checked fun claims => ?_
  refine explained_bind (explained_issueTokens claims.userId) fun pair => ?_
  refine explained_bind (explained_store _) fun isRotated => ?_
  exact explained_guard (fun _ => .credentials rfl) (explained_pure _)

theorem explained_isCurrentRefreshToken (user : Uuid) (token : String) :
    Explained caller (isCurrentRefreshToken user token) := by
  unfold isCurrentRefreshToken
  refine explained_bind (explained_store _) fun found => ?_
  refine explained_bind (explained_require (fun _ => .notFound) found) fun user => ?_
  exact explained_bind explained_readMoment fun moment => explained_pure _

theorem explained_profile (caller : Uuid) : Explained (some caller) (profile caller) := by
  unfold profile
  refine explained_bind (explained_store _) fun found => ?_
  refine explained_bind (explained_require (fun _ => .notFound) found) fun user => ?_
  refine explained_bind (explained_resolveActor caller) fun actor => ?_
  have finishes (team : Option Team) :
      Explained (some caller)
        (actor.managedTeamIds.mapM (fun team => store (.findTeam team)) >>= fun teams =>
          pure ({ user := user.toPublic, team, teams := teams.filterMap id } : Profile)) :=
    explained_bind (explained_mapM fun _ => explained_store _) fun teams => explained_pure _
  dsimp only
  split
  · exact explained_bind (explained_store _) fun team => finishes team
  · exact finishes none

theorem explained_listUsers (caller : Uuid) : Explained (some caller) (listUsers caller) := by
  unfold listUsers
  refine explained_bind (explained_resolveActor caller) fun actor => ?_
  exact explained_bind (explained_store _) fun users => explained_pure _

theorem explained_getUser (caller id : Uuid) : Explained (some caller) (getUser caller id) := by
  unfold getUser
  refine explained_bind (explained_resolveActor caller) fun actor => ?_
  refine explained_bind (explained_store _) fun found => ?_
  refine explained_bind (explained_require (fun _ => .notFound) found) fun user => ?_
  exact explained_bind (explained_permitted _) fun _ => explained_pure _

theorem explained_patchedRole (name : Option String) : Explained caller (patchedRole name) := by
  cases name with
  | none => exact explained_pure none
  | some name =>
      rw [patchedRole, map_eq_pure_bind]
      refine explained_bind (explained_require (fun _ => .unknownRole) _) fun role => ?_
      exact explained_pure (some role)

theorem explained_patchedTeam (target : User) (role : Role) (requested : Option (Option Uuid)) :
    Explained caller (patchedTeam target role requested) := by
  rw [patchedTeam_eq]
  exact explained_bind (explained_placement role _) fun _ => explained_pure _

theorem explained_patchedPassword (password : Option String) :
    Explained caller (patchedPassword password) := by
  unfold patchedPassword
  refine explained_bind (explained_requiredText _ _) fun checked => ?_
  cases checked with
  | none => exact explained_pure none
  | some password =>
      refine explained_guard (fun _ => .invalid) ?_
      rw [map_eq_pure_bind]
      exact explained_bind (explained_hashPassword password) fun hash => explained_pure _

theorem explained_updateUser (caller id : Uuid) (patch : UserPatch) :
    Explained (some caller) (updateUser caller id patch) := by
  unfold updateUser
  refine explained_bind (explained_resolveAdmin caller _) fun _ => ?_
  refine explained_bind (explained_store _) fun found => ?_
  refine explained_bind (explained_require (fun _ => .notFound) found) fun target => ?_
  refine explained_bind (explained_patchedRole _) fun role => ?_
  refine explained_bind (explained_patchedTeam _ _ _) fun teamId => ?_
  refine explained_bind (explained_patchedPassword _) fun hash => ?_
  refine explained_bind (explained_requiredText _ _) fun email => ?_
  refine explained_bind (explained_requiredText _ _) fun firstName => ?_
  refine explained_bind (explained_requiredText _ _) fun lastName => ?_
  dsimp only
  split
  · exact explained_pure _
  · refine explained_bind (explained_store _) fun updated => ?_
    exact explained_bind (explained_require (fun _ => .notFound) updated) fun _ => explained_pure _

theorem explained_deleteUser (caller id : Uuid) :
    Explained (some caller) (deleteUser caller id) := by
  unfold deleteUser
  refine explained_bind (explained_resolveAdmin caller _) fun _ => ?_
  refine explained_bind (explained_store _) fun isDeleted => ?_
  exact explained_guard (fun _ => .notFound) (explained_pure ())

theorem explained_listTeams (caller : Uuid) : Explained (some caller) (listTeams caller) := by
  unfold listTeams
  refine explained_bind (explained_resolveActor caller) fun actor => ?_
  refine explained_bind (explained_store _) fun teams => ?_
  exact explained_mapM fun team => explained_teamDetails actor team

theorem explained_getTeam (caller team : Uuid) : Explained (some caller) (getTeam caller team) := by
  unfold getTeam
  refine explained_bind (explained_resolveActor caller) fun actor => ?_
  refine explained_bind (explained_liveTeam team) fun found => ?_
  exact explained_bind (explained_permitted _) fun _ => explained_teamDetails actor found

theorem explained_createTeam (caller : Uuid) (draft : TeamDraft) :
    Explained (some caller) (createTeam caller draft) := by
  unfold createTeam storeTeam
  refine explained_bind (explained_resolveAdmin caller _) fun actor => ?_
  refine explained_guard (fun _ => .invalid) ?_
  exact explained_bind explained_readMoment fun stamp => explained_store _

theorem explained_updateTeam (caller team : Uuid) (patch : TeamPatch) :
    Explained (some caller) (updateTeam caller team patch) := by
  unfold updateTeam
  refine explained_bind (explained_resolveAdmin caller _) fun _ => ?_
  refine explained_bind (explained_requiredText _ _) fun name => ?_
  refine explained_bind (explained_store _) fun updated => ?_
  exact explained_require (fun _ => .notFound) updated

theorem explained_deleteTeam (caller team : Uuid) :
    Explained (some caller) (deleteTeam caller team) := by
  unfold deleteTeam
  refine explained_bind (explained_resolveAdmin caller _) fun _ => ?_
  refine explained_bind (explained_store _) fun isDeleted => ?_
  exact explained_guard (fun _ => .notFound) (explained_pure ())

theorem explained_addManager (caller team manager : Uuid) :
    Explained (some caller) (addManager caller team manager) := by
  unfold addManager
  refine explained_bind (explained_resolveAdmin caller _) fun _ => ?_
  refine explained_bind (explained_store _) fun found => ?_
  refine explained_bind (explained_require (fun _ => .notFound) found) fun user => ?_
  refine explained_guard (fun _ => .invalid) ?_
  exact explained_bind (explained_liveTeam team) fun _ => explained_store _

theorem explained_removeManager (caller team manager : Uuid) :
    Explained (some caller) (removeManager caller team manager) := by
  unfold removeManager
  refine explained_bind (explained_resolveAdmin caller _) fun _ => ?_
  refine explained_bind (explained_store _) fun found => ?_
  refine explained_bind (explained_require (fun _ => .notFound) found) fun user => ?_
  exact explained_bind (explained_liveTeam team) fun _ => explained_store _

end Workflow

namespace Operation

theorem explained (operation : Operation) :
    Workflow.Explained operation.caller? operation.workflow := by
  cases operation with
  | register createdBy input => exact Workflow.explained_register createdBy input
  | login email password => exact Workflow.explained_login email password
  | refresh token => exact Workflow.explained_refresh token
  | checkRefreshToken user token => exact Workflow.explained_isCurrentRefreshToken user token
  | logout user => exact Workflow.explained_store _
  | profile caller => exact Workflow.explained_profile caller
  | listUsers caller => exact Workflow.explained_listUsers caller
  | getUser caller id => exact Workflow.explained_getUser caller id
  | updateUser caller id patch => exact Workflow.explained_updateUser caller id patch
  | deleteUser caller id => exact Workflow.explained_deleteUser caller id
  | listTeams caller => exact Workflow.explained_listTeams caller
  | getTeam caller team => exact Workflow.explained_getTeam caller team
  | createTeam caller draft => exact Workflow.explained_createTeam caller draft
  | updateTeam caller team patch => exact Workflow.explained_updateTeam caller team patch
  | deleteTeam caller team => exact Workflow.explained_deleteTeam caller team
  | addManager caller team manager => exact Workflow.explained_addManager caller team manager
  | removeManager caller team manager => exact Workflow.explained_removeManager caller team manager

/-- An operation on behalf of a live user is not refused for want of authentication. -/
theorem run_ne_unauthorized {hasher : Hasher} {tokens : TokenService} {moments : Nat → Moment}
    {operation : Operation} {caller : Uuid} {world : World} {user : User}
    (named : operation.caller? = some caller) (live : world.store.liveUser? caller = some user)
    (reason : String) :
    (operation.program.run ((System.inMemory hasher tokens).handler moments) world).1 ≠
      .error (.unauthorized reason) := by
  intro failed
  have honest := System.inMemory_honest hasher tokens moments
  have cause := (Program.run_obeys ((System.inMemory hasher tokens).handler moments) world
    (operation.explained [])).1
  have quiet := (Program.run_obeys ((System.inMemory hasher tokens).handler moments) world
    operation.program_obeys).1.2 _ failed
  -- Whoever fails has written nothing, so the caller was looked up in the store of the start.
  have answered := Program.answeredFrom_of_quiet honest operation.program world quiet
  rw [show ExceptT.run operation.workflow = operation.program from rfl, failed, named] at cause
  have gone := answered.liveUser?_of_saw (cause.saw_of_unauthorized rfl)
  rw [live] at gone
  cases gone

end Operation

end OrgAccess
