import OrgAccess.Proofs.Operation

/-!
# Failing effects are passed on

A workflow that has an effect which fails is over at once, with the failure that stands for what
went wrong, and it makes up no internal failure of its own (`Program.Relays`). So an internal failure
always goes back to the last exchange (`Program.Relays.internal_cause`).

The judgement also tells which hashes are checked. As long as the users that are found by their
address have usable hashes, only usable hashes are checked.
-/

namespace OrgAccess

namespace Effect

/-- The failure of a workflow that has an effect with this answer, if the effect failed. -/
def failure? : (effect : Effect) → effect.Answer → Option Failure
  | store _, .error error => some (.ofStore error)
  | hashPassword _, .error error => some (.ofPassword error)
  | verifyPassword _ _, .error error => some (.ofPassword error)
  | issueTokens _, .error error => some (.ofToken error)
  | _, _ => none

/-- Whether a hash that is checked is usable. -/
def ChecksUsable (usable : String → Prop) : Effect → Prop
  | verifyPassword stored _ => usable stored
  | _ => True

/-- Whether the hash of a user that is found by its address is usable. -/
def OffersUsable (usable : String → Prop) : (effect : Effect) → effect.Answer → Prop
  | store (.findUserByEmail _), .ok (some user) => usable user.passwordHash
  | _, _ => True

theorem offersUsable_any (effect : Effect) (answer : effect.Answer) :
    effect.OffersUsable (fun _ => True) answer := by
  unfold OffersUsable
  split <;> trivial

end Effect

namespace Program

variable {α β : Type} {usable : String → Prop}

/--
A program checks usable hashes only and is over with the first effect that fails; otherwise it does
not end with an internal failure.
-/
def Relays (usable : String → Prop) : Program (Except Failure α) → Prop
  | done result => ∀ reason, result ≠ .error (.internal reason)
  | call effect next =>
    effect.ChecksUsable usable ∧ ∀ answer, effect.OffersUsable usable answer →
      match effect.failure? answer with
      | some failure => next answer = done (.error failure)
      | none => (next answer).Relays usable

theorem Relays.bind {program : Program (Except Failure α)}
    {rest : Except Failure α → Program (Except Failure β)} (relays : program.Relays usable)
    (continues : ∀ value, (rest (.ok value)).Relays usable)
    (stops : ∀ failure, rest (.error failure) = done (.error failure)) :
    (program >>= rest).Relays usable := by
  induction program with
  | done result =>
      cases result with
      | ok value => exact continues value
      | error failure =>
          rw [done_bind, stops]
          rintro reason ⟨⟩
          exact relays reason rfl
  | call effect next ih =>
      refine ⟨relays.1, fun answer offers => ?_⟩
      have passed := relays.2 answer offers
      cases failed : effect.failure? answer with
      | none =>
          rw [failed] at passed
          exact ih answer passed
      | some failure =>
          rw [failed] at passed
          change (next answer >>= rest) = done (.error failure)
          rw [passed]
          exact stops failure

/-- An internal failure is that of an exchange. -/
theorem Relays.internal_cause {program : Program (Except Failure α)} {handler : Handler}
    {world : World} {reason : String} (relays : program.Relays usable)
    (offers : ∀ exchange ∈ program.exchanges handler world,
      exchange.effect.OffersUsable usable exchange.answer)
    (ended : (program.run handler world).1 = .error (.internal reason)) :
    ∃ exchange ∈ program.exchanges handler world, exchange.effect.ChecksUsable usable ∧
      exchange.effect.failure? exchange.answer = some (.internal reason) := by
  induction program generalizing world with
  | done result => exact absurd ended (relays reason)
  | call effect next ih =>
      have passed := relays.2 _ (offers _ List.mem_cons_self)
      rw [run_call] at ended
      cases failed : effect.failure? (handler.step effect world).1 with
      | none =>
          rw [failed] at passed
          rcases ih _ passed (fun exchange mem => offers exchange (List.mem_cons_of_mem _ mem)) ended
            with ⟨exchange, mem, cause⟩
          exact ⟨exchange, List.mem_cons_of_mem _ mem, cause⟩
      | some failure =>
          rw [failed] at passed
          change next (handler.step effect world).1 = done (.error failure) at passed
          rw [passed] at ended
          obtain rfl : failure = .internal reason := Except.error.inj ended
          exact ⟨_, List.mem_cons_self, relays.1, failed⟩

end Program

/-- Whether the reason of a failure is told to the caller. -/
def Failure.isTold : Failure → Bool
  | internal _ => false
  | _ => true

theorem Failure.isTold_ofDenial (denial : Denial) : (Failure.ofDenial denial).isTold = true := by
  cases denial <;> rfl

namespace Workflow

variable {α β : Type} {usable : String → Prop}

/-- An operation that relays what a usable handler tells it. -/
def Relays (usable : String → Prop) (workflow : Workflow α) : Prop :=
  (ExceptT.run workflow).Relays usable

/-! ## Steps -/

theorem relays_pure (value : α) : Relays usable (pure value) := by
  rintro reason ⟨⟩

theorem relays_throw {failure : Failure} (told : failure.isTold = true) :
    Relays usable (throw failure : Workflow α) := by
  rintro reason ⟨⟩
  cases told

theorem relays_bind {workflow : Workflow α} {rest : α → Workflow β}
    (first : Relays usable workflow) (second : ∀ value, Relays usable (rest value)) :
    Relays usable (workflow >>= rest) := by
  rw [Relays, ExceptT.run_bind]
  exact Program.Relays.bind first second fun failure => rfl

theorem relays_guard {condition : Prop} [Decidable condition] {failure : Failure}
    {rest : Unit → Workflow β} (told : failure.isTold = true) (next : Relays usable (rest ())) :
    Relays usable (if condition then throw failure >>= rest else rest ()) := by
  split
  · exact relays_bind (relays_throw told) fun _ => next
  · exact next

theorem relays_store (call : StoreCall) : Relays usable (store call) := by
  refine ⟨trivial, fun answer _ => ?_⟩
  cases answer with
  | error error => rfl
  | ok value => exact nofun

/-- Whoever is found by its address has a usable hash. -/
theorem relays_findUserByEmail_bind {email : String} {rest : Option User → Workflow β}
    (next : ∀ found, (∀ user, found = some user → usable user.passwordHash) →
      Relays usable (rest found)) :
    Relays usable (store (.findUserByEmail email) >>= rest) := by
  refine ⟨trivial, fun answer offers => ?_⟩
  cases answer with
  | error error => rfl
  | ok found =>
      refine next found ?_
      rintro user rfl
      exact offers

theorem relays_hashPassword (password : String) : Relays usable (hashPassword password) := by
  refine ⟨trivial, fun answer _ => ?_⟩
  cases answer with
  | error error => rfl
  | ok hash => exact nofun

theorem relays_verifyPassword {stored : String} (isUsable : usable stored) (password : String) :
    Relays usable (verifyPassword stored password) := by
  refine ⟨isUsable, fun answer _ => ?_⟩
  cases answer with
  | error error => rfl
  | ok isRight => exact nofun

theorem relays_issueTokens (user : Uuid) : Relays usable (issueTokens user) := by
  refine ⟨trivial, fun answer _ => ?_⟩
  cases answer with
  | error error => rfl
  | ok pair => exact nofun

theorem relays_readMoment : Relays usable (ExceptT.lift (Program.effect .readMoment)) :=
  ⟨trivial, fun _ _ => nofun⟩

theorem relays_require {failure : Failure} (told : failure.isTold = true) (option : Option α) :
    Relays usable (require failure option) := by
  cases option with
  | none => exact relays_throw told
  | some value => exact relays_pure value

theorem relays_require_bind {failure : Failure} {option : Option α} {rest : α → Workflow β}
    (told : failure.isTold = true) (next : ∀ value, option = some value → Relays usable (rest value)) :
    Relays usable (require failure option >>= rest) := by
  cases option with
  | none => exact relays_throw told
  | some value => exact next value rfl

theorem relays_permitted (decision : Except Denial α) : Relays usable (permitted decision) := by
  cases decision with
  | ok value => exact relays_pure value
  | error denial => exact relays_throw (Failure.isTold_ofDenial denial)

theorem relays_mapM {items : List α} {workflow : α → Workflow β}
    (each : ∀ item, Relays usable (workflow item)) : Relays usable (items.mapM workflow) := by
  induction items with
  | nil => exact relays_pure []
  | cons item items ih =>
      rw [List.mapM_cons]
      exact relays_bind (each item) fun value => relays_bind ih fun values => relays_pure _

/-! ## What operations share -/

theorem relays_findUser_bind {id : Uuid} {failure : Failure} {rest : User → Workflow β}
    (told : failure.isTold = true) (next : ∀ user, Relays usable (rest user)) :
    Relays usable (store (.findUser id) >>= fun found => require failure found >>= rest) :=
  relays_bind (relays_store _) fun found => relays_bind (relays_require told found) next

theorem relays_actorOf (user : User) : Relays usable (actorOf user) := by
  unfold actorOf
  have managed (teamId : Option Uuid) :
      Relays usable
        (if user.role = .manager then
          store (.managedTeamIds user.id) >>= fun teams =>
            pure (⟨user.id, user.role, teamId, teams⟩ : Actor)
        else pure [] >>= fun teams => pure ⟨user.id, user.role, teamId, teams⟩) := by
    split
    · exact relays_bind (relays_store _) fun teams => relays_pure _
    · exact relays_pure _
  dsimp only
  split
  · exact relays_bind (relays_store _) fun team => managed (team.map Team.id)
  · exact managed none

theorem relays_resolveActor (caller : Uuid) : Relays usable (resolveActor caller) := by
  rw [resolveActor_eq]
  exact relays_findUser_bind rfl relays_actorOf

theorem relays_resolveAdmin (caller : Uuid) (action : AdminAction) :
    Relays usable (resolveAdmin caller action) := by
  refine relays_bind (relays_resolveActor caller) fun actor => ?_
  exact relays_bind (relays_permitted _) fun _ => relays_pure actor

theorem relays_liveTeam (team : Uuid) : Relays usable (liveTeam team) :=
  relays_bind (relays_store _) fun found => relays_require rfl found

theorem relays_requiredText (field : String) (value : Option String) :
    Relays usable (requiredText field value) := by
  unfold requiredText
  split
  · exact relays_throw rfl
  · exact relays_pure value

theorem relays_placement (role : Role) (teamId : Option Uuid) :
    Relays usable (placement role teamId) := by
  cases teamId with
  | none => exact relays_pure ()
  | some team =>
      unfold placement
      refine relays_guard rfl ?_
      exact relays_bind (relays_liveTeam team) fun _ => relays_pure ()

theorem relays_registrant (createdBy : Option Uuid) : Relays usable (registrant createdBy) := by
  cases createdBy with
  | none => exact relays_pure none
  | some id =>
      refine relays_bind (relays_store _) fun found => ?_
      rw [map_eq_pure_bind]
      exact relays_bind (relays_require rfl found) fun user => relays_pure (some user)

theorem relays_teamDetails (actor : Actor) (team : Team) :
    Relays usable (teamDetails actor team) := by
  refine relays_bind (relays_store _) fun employees => ?_
  exact relays_bind (relays_store _) fun managers => relays_pure _

theorem relays_patchedRole (name : Option String) : Relays usable (patchedRole name) := by
  cases name with
  | none => exact relays_pure none
  | some name =>
      rw [patchedRole, map_eq_pure_bind]
      exact relays_bind (relays_require rfl _) fun role => relays_pure (some role)

theorem relays_patchedPassword (password : Option String) :
    Relays usable (patchedPassword password) := by
  refine relays_bind (relays_requiredText _ _) fun checked => ?_
  cases checked with
  | none => exact relays_pure none
  | some password =>
      refine relays_guard rfl ?_
      rw [map_eq_pure_bind]
      exact relays_bind (relays_hashPassword password) fun hash => relays_pure _

/-! ## Operations -/

theorem relays_register (createdBy : Option Uuid) (input : Registration) :
    Relays usable (register createdBy input) := by
  rw [register_eq]
  refine relays_bind (relays_store _) fun adminExists => ?_
  refine relays_guard (Failure.isTold_ofDenial _) ?_
  refine relays_bind (relays_registrant createdBy) fun creator => ?_
  refine relays_guard (Failure.isTold_ofDenial _) ?_
  refine relays_bind (relays_permitted _) fun role => ?_
  refine relays_bind (relays_placement role input.teamId) fun _ => ?_
  refine relays_bind (relays_hashPassword _) fun hash => ?_
  exact relays_bind (relays_store _) fun user => relays_pure user.toPublic

theorem relays_login (email password : String) : Relays usable (login email password) := by
  refine relays_findUserByEmail_bind fun found offered => ?_
  refine relays_require_bind rfl fun user isFound => ?_
  refine relays_bind (relays_verifyPassword (offered user isFound) _) fun isRight => ?_
  refine relays_guard rfl ?_
  refine relays_bind (relays_issueTokens user.id) fun pair => ?_
  refine relays_bind (relays_store _) fun isStored => ?_
  exact relays_guard rfl (relays_pure _)

theorem relays_refresh (token : String) : Relays usable (refresh token) := by
  have checked : Relays usable
      (lift (fun _ => .refreshTokenUnusable) (Program.effect (.checkToken .refresh token))) := by
    refine ⟨trivial, fun answer _ => ?_⟩
    cases answer with
    | error error => exact nofun
    | ok claims => exact nofun
  refine relays_bind checked fun claims => ?_
  refine relays_bind (relays_issueTokens claims.userId) fun pair => ?_
  refine relays_bind (relays_store _) fun isRotated => ?_
  exact relays_guard rfl (relays_pure _)

theorem relays_isCurrentRefreshToken (user : Uuid) (token : String) :
    Relays usable (isCurrentRefreshToken user token) :=
  relays_findUser_bind rfl fun _ => relays_bind relays_readMoment fun _ => relays_pure _

theorem relays_profile (caller : Uuid) : Relays usable (profile caller) := by
  refine relays_findUser_bind rfl fun user => ?_
  refine relays_bind (relays_resolveActor caller) fun actor => ?_
  have finishes (team : Option Team) :
      Relays usable
        (actor.managedTeamIds.mapM (fun team => store (.findTeam team)) >>= fun teams =>
          pure ({ user := user.toPublic, team, teams := teams.filterMap id } : Profile)) :=
    relays_bind (relays_mapM fun _ => relays_store _) fun teams => relays_pure _
  dsimp only
  split
  · exact relays_bind (relays_store _) fun team => finishes team
  · exact finishes none

theorem relays_listUsers (caller : Uuid) : Relays usable (listUsers caller) := by
  refine relays_bind (relays_resolveActor caller) fun actor => ?_
  exact relays_bind (relays_store _) fun users => relays_pure _

theorem relays_getUser (caller id : Uuid) : Relays usable (getUser caller id) := by
  refine relays_bind (relays_resolveActor caller) fun actor => ?_
  refine relays_findUser_bind rfl fun user => ?_
  exact relays_bind (relays_permitted _) fun _ => relays_pure _

theorem relays_updateUser (caller id : Uuid) (patch : UserPatch) :
    Relays usable (updateUser caller id patch) := by
  refine relays_bind (relays_resolveAdmin caller _) fun _ => ?_
  refine relays_findUser_bind rfl fun target => ?_
  refine relays_bind (relays_patchedRole _) fun role => ?_
  rw [patchedTeam_eq, bind_assoc]
  refine relays_bind (relays_placement _ _) fun _ => ?_
  refine relays_bind (relays_pure _) fun teamId => ?_
  refine relays_bind (relays_patchedPassword _) fun hash => ?_
  refine relays_bind (relays_requiredText _ _) fun email => ?_
  refine relays_bind (relays_requiredText _ _) fun firstName => ?_
  refine relays_bind (relays_requiredText _ _) fun lastName => ?_
  dsimp only
  split
  · exact relays_pure _
  · refine relays_bind (relays_store _) fun updated => ?_
    exact relays_bind (relays_require rfl updated) fun _ => relays_pure _

theorem relays_deleteUser (caller id : Uuid) : Relays usable (deleteUser caller id) := by
  refine relays_bind (relays_resolveAdmin caller _) fun _ => ?_
  refine relays_bind (relays_store _) fun isDeleted => ?_
  exact relays_guard rfl (relays_pure ())

theorem relays_listTeams (caller : Uuid) : Relays usable (listTeams caller) := by
  refine relays_bind (relays_resolveActor caller) fun actor => ?_
  refine relays_bind (relays_store _) fun teams => ?_
  exact relays_mapM fun team => relays_teamDetails actor team

theorem relays_getTeam (caller team : Uuid) : Relays usable (getTeam caller team) := by
  refine relays_bind (relays_resolveActor caller) fun actor => ?_
  refine relays_bind (relays_liveTeam team) fun found => ?_
  exact relays_bind (relays_permitted _) fun _ => relays_teamDetails actor found

theorem relays_createTeam (caller : Uuid) (draft : TeamDraft) :
    Relays usable (createTeam caller draft) := by
  refine relays_bind (relays_resolveAdmin caller _) fun actor => ?_
  refine relays_guard rfl ?_
  exact relays_bind relays_readMoment fun stamp => relays_store _

theorem relays_updateTeam (caller team : Uuid) (patch : TeamPatch) :
    Relays usable (updateTeam caller team patch) := by
  refine relays_bind (relays_resolveAdmin caller _) fun _ => ?_
  refine relays_bind (relays_requiredText _ _) fun name => ?_
  exact relays_bind (relays_store _) fun updated => relays_require rfl updated

theorem relays_deleteTeam (caller team : Uuid) : Relays usable (deleteTeam caller team) := by
  refine relays_bind (relays_resolveAdmin caller _) fun _ => ?_
  refine relays_bind (relays_store _) fun isDeleted => ?_
  exact relays_guard rfl (relays_pure ())

theorem relays_addManager (caller team manager : Uuid) :
    Relays usable (addManager caller team manager) := by
  refine relays_bind (relays_resolveAdmin caller _) fun _ => ?_
  refine relays_findUser_bind rfl fun user => ?_
  refine relays_guard rfl ?_
  exact relays_bind (relays_liveTeam team) fun _ => relays_store _

theorem relays_removeManager (caller team manager : Uuid) :
    Relays usable (removeManager caller team manager) := by
  refine relays_bind (relays_resolveAdmin caller _) fun _ => ?_
  refine relays_findUser_bind rfl fun user => ?_
  exact relays_bind (relays_liveTeam team) fun _ => relays_store _

end Workflow

theorem Operation.relays (usable : String → Prop) (operation : Operation) :
    operation.program.Relays usable := by
  cases operation with
  | register createdBy input => exact Workflow.relays_register createdBy input
  | login email password => exact Workflow.relays_login email password
  | refresh token => exact Workflow.relays_refresh token
  | checkRefreshToken user token => exact Workflow.relays_isCurrentRefreshToken user token
  | logout user => exact Workflow.relays_store _
  | profile caller => exact Workflow.relays_profile caller
  | listUsers caller => exact Workflow.relays_listUsers caller
  | getUser caller id => exact Workflow.relays_getUser caller id
  | updateUser caller id patch => exact Workflow.relays_updateUser caller id patch
  | deleteUser caller id => exact Workflow.relays_deleteUser caller id
  | listTeams caller => exact Workflow.relays_listTeams caller
  | getTeam caller team => exact Workflow.relays_getTeam caller team
  | createTeam caller draft => exact Workflow.relays_createTeam caller draft
  | updateTeam caller team patch => exact Workflow.relays_updateTeam caller team patch
  | deleteTeam caller team => exact Workflow.relays_deleteTeam caller team
  | addManager caller team manager => exact Workflow.relays_addManager caller team manager
  | removeManager caller team manager => exact Workflow.relays_removeManager caller team manager

end OrgAccess
