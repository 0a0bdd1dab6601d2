import OrgAccess.Proofs.Operation
import OrgAccess.Proofs.Reachable

/-!
# What the reading operations answer

An operation that only reads depends on nothing but what is stored. `Workflow.Yields` says so for a
workflow: whoever runs it on a store, and at whatever moments, it ends with one result and leaves
the store as it was. The five operations that show users and teams are followed through to what
they yield on behalf of a live user, which is said in terms of the tables alone: the caller as
`Store.actor` finds it, and the records that it is shown as `Store.teamDetails`,
`Store.profileOf`, `Store.userFor` and `Store.teamFor` put them together.
-/

namespace OrgAccess

namespace Store

/-- A live user as a caller, with its current role and its live teams. -/
def actor (store : Store) (user : User) : Actor where
  id := user.id
  role := user.role
  teamId :=
    match user.role, user.teamId with
    | .employee, some team => (store.liveTeam? team).map Team.id
    | _, _ => none
  managedTeamIds := if user.role = .manager then store.managedTeamIds user.id else []

/-- A team with those of its members whom a caller may see. -/
def teamDetails (store : Store) (actor : Actor) (team : Team) : TeamDetails where
  team
  employees :=
    ((store.listEmployees team.id).filter actor.userVisibility.permits).map User.toPublic
  managers := ((store.listManagers team.id).filter actor.userVisibility.permits).map User.toPublic

/-- A user with its live team or teams. -/
def profileOf (store : Store) (user : User) : Profile where
  user := user.toPublic
  team := (store.actor user).teamId.bind store.liveTeam?
  teams := (store.actor user).managedTeamIds.filterMap store.liveTeam?

/-- What a caller is told of the user with an identifier. -/
def userFor (store : Store) (actor : Actor) (id : Uuid) : Except Failure PublicUser :=
  match store.liveUser? id with
  | none => .error .userNotFound
  | some user => if actor.mayReadUser user then .ok user.toPublic else .error (.ofDenial .outOfReach)

/-- What a caller is told of the team with an identifier. -/
def teamFor (store : Store) (actor : Actor) (id : Uuid) : Except Failure TeamDetails :=
  match store.liveTeam? id with
  | none => .error .teamNotFound
  | some team =>
    if actor.teamVisibility.permits team.id then .ok (store.teamDetails actor team)
    else .error (.ofDenial .outOfReach)

end Store

namespace Workflow

variable {α β : Type} {store : Store}

/-- On this store a workflow ends with this result and changes nothing, whoever runs it and when. -/
def Yields (store : Store) (workflow : Workflow α) (result : Except Failure α) : Prop :=
  ∀ (hasher : Hasher) (tokens : TokenService) (moments : Nat → Moment) (tick : Nat),
    ∃ later, (ExceptT.run workflow).run ((System.inMemory hasher tokens).handler moments)
      ⟨store, tick⟩ = (result, ⟨store, later⟩)

/-! ## Rules -/

theorem yields_pure (value : α) : Yields store (pure value) (.ok value) :=
  fun _ _ _ tick => ⟨tick, rfl⟩

theorem Yields.bind {workflow : Workflow α} {rest : α → Workflow β} {value : α}
    {result : Except Failure β} (first : Yields store workflow (.ok value))
    (second : Yields store (rest value) result) : Yields store (workflow >>= rest) result := by
  intro hasher tokens moments tick
  rcases first hasher tokens moments tick with ⟨middle, run_first⟩
  rcases second hasher tokens moments middle with ⟨later, run_second⟩
  refine ⟨later, ?_⟩
  rw [ExceptT.run_bind, Program.run_bind, run_first]
  exact run_second

theorem yields_throw_bind {rest : α → Workflow β} (failure : Failure) :
    Yields store (throw failure >>= rest) (.error failure) :=
  fun _ _ _ tick => ⟨tick, rfl⟩

theorem yields_store {call : StoreCall} {value : call.Answer}
    (answered : ∀ moment, store.perform moment call = (.ok value, store)) :
    Yields store (Workflow.store call) (.ok value) := by
  intro hasher tokens moments tick
  refine ⟨tick + 1, ?_⟩
  have step : ((System.inMemory hasher tokens).handler moments).step (.store call) ⟨store, tick⟩ =
      (.ok value, ⟨store, tick + 1⟩) := by
    have same := answered (moments tick)
    exact congrArg (fun answer => (answer.1, World.mk answer.2 (tick + 1))) same
  have run : (ExceptT.run (Workflow.store call)).run ((System.inMemory hasher tokens).handler moments)
      ⟨store, tick⟩ = _ := Program.run_call _ (.store call) _ _
  rw [run, step]
  rfl

theorem yields_mapM {items : List α} {workflow : α → Workflow β} {view : α → β}
    (each : ∀ item ∈ items, Yields store (workflow item) (.ok (view item))) :
    Yields store (items.mapM workflow) (.ok (items.map view)) := by
  induction items with
  | nil => exact yields_pure []
  | cons item items ih =>
      rw [List.mapM_cons]
      refine (each item List.mem_cons_self).bind ?_
      refine (ih fun other mem => each other (List.mem_cons_of_mem _ mem)).bind ?_
      exact yields_pure _

/-! ## The reading operations -/

variable {caller : Uuid} {user : User}

theorem yields_actorOf (user : User) : Yields store (actorOf user) (.ok (store.actor user)) := by
  have managed (teamId : Option Uuid) (same : teamId = (store.actor user).teamId) :
      Yields store
        (if user.role = .manager then
          Workflow.store (.managedTeamIds user.id) >>= fun teams =>
            pure (⟨user.id, user.role, teamId, teams⟩ : Actor)
        else pure [] >>= fun teams => pure ⟨user.id, user.role, teamId, teams⟩)
        (.ok (store.actor user)) := by
    subst same
    unfold Store.actor
    split
    · exact (yields_store fun _ => rfl).bind (yields_pure _)
    · exact yields_pure _
  unfold actorOf
  dsimp only
  split
  · rename_i team isEmployee placed
    refine (yields_store fun _ => rfl).bind ((yields_pure _).bind (managed _ ?_))
    simp [Store.actor, isEmployee, placed]
  · rename_i elsewhere
    refine (yields_pure none).bind (managed none ?_)
    unfold Store.actor
    split
    · rename_i team isEmployee placed
      exact (elsewhere team isEmployee placed).elim
    · rfl

theorem yields_resolveActor (found : store.liveUser? caller = some user) :
    Yields store (resolveActor caller) (.ok (store.actor user)) := by
  rw [resolveActor_eq]
  refine (yields_store fun _ => rfl).bind ?_
  rw [found]
  exact (yields_pure user).bind (yields_actorOf user)

theorem yields_teamDetails (actor : Actor) (team : Team) :
    Yields store (teamDetails actor team) (.ok (store.teamDetails actor team)) := by
  unfold teamDetails
  refine (yields_store fun _ => rfl).bind ?_
  exact (yields_store fun _ => rfl).bind (yields_pure _)

theorem yields_profile (found : store.liveUser? caller = some user) :
    Yields store (profile caller) (.ok (store.profileOf user)) := by
  unfold profile
  refine (yields_store fun _ => rfl).bind ?_
  rw [found]
  refine (yields_pure user).bind ?_
  refine (yields_resolveActor found).bind ?_
  have teams (team : Option Team) :
      Yields store
        ((store.actor user).managedTeamIds.mapM (fun team => Workflow.store (.findTeam team)) >>=
          fun teams => pure { user := user.toPublic, team, teams := teams.filterMap id : Profile })
        (.ok { user := user.toPublic, team,
               teams := (store.actor user).managedTeamIds.filterMap store.liveTeam? }) := by
    have found_each : ∀ team ∈ (store.actor user).managedTeamIds,
        Yields store (Workflow.store (.findTeam team)) (.ok (store.liveTeam? team)) :=
      fun team _ => yields_store fun _ => rfl
    refine (yields_mapM found_each).bind ?_
    rw [List.filterMap_map]
    exact yields_pure _
  unfold Store.profileOf
  cases (store.actor user).teamId with
  | none => exact teams none
  | some team => exact (yields_store fun _ => rfl).bind (teams _)

theorem yields_listUsers (found : store.liveUser? caller = some user) :
    Yields store (listUsers caller)
      (.ok ((store.listUsers (store.actor user).userVisibility).map User.toPublic)) := by
  unfold listUsers
  refine (yields_resolveActor found).bind ?_
  exact (yields_store fun _ => rfl).bind (yields_pure _)

theorem yields_getUser (found : store.liveUser? caller = some user) (id : Uuid) :
    Yields store (getUser caller id) (store.userFor (store.actor user) id) := by
  unfold getUser Store.userFor
  refine (yields_resolveActor found).bind ?_
  refine (yields_store fun _ => rfl).bind ?_
  cases store.liveUser? id with
  | none => exact yields_throw_bind _
  | some target =>
      refine (yields_pure target).bind ?_
      unfold Actor.checkReadUser
      dsimp only
      split
      · exact (yields_pure ()).bind (yields_pure _)
      · exact yields_throw_bind _

theorem yields_listTeams (found : store.liveUser? caller = some user) :
    Yields store (listTeams caller)
      (.ok ((store.listTeams (store.actor user).teamVisibility).map
        (store.teamDetails (store.actor user)))) := by
  unfold listTeams
  refine (yields_resolveActor found).bind ?_
  refine (yields_store fun _ => rfl).bind ?_
  exact yields_mapM fun team _ => yields_teamDetails _ team

theorem yields_getTeam (found : store.liveUser? caller = some user) (id : Uuid) :
    Yields store (getTeam caller id) (store.teamFor (store.actor user) id) := by
  unfold getTeam Store.teamFor
  refine (yields_resolveActor found).bind ?_
  unfold liveTeam
  rw [bind_assoc]
  refine (yields_store fun _ => rfl).bind ?_
  cases store.liveTeam? id with
  | none => exact yields_throw_bind _
  | some team =>
      refine (yields_pure team).bind ?_
      unfold Actor.checkReadTeam
      dsimp only
      split
      · exact (yields_pure ()).bind (yields_teamDetails _ team)
      · exact yields_throw_bind _

end Workflow

/-- A run of an operation that only reads gives what its workflow yields. -/
theorem Operation.run_of_yields {operation : Operation} {store : Store}
    {result : Except Failure operation.Value}
    (yields : Workflow.Yields store operation.workflow result) (hasher : Hasher)
    (tokens : TokenService) (moments : Nat → Moment) (tick : Nat) :
    (operation.program.run ((System.inMemory hasher tokens).handler moments) ⟨store, tick⟩).1 =
      result := by
  rcases yields hasher tokens moments tick with ⟨later, run⟩
  exact congrArg Prod.fst run

end OrgAccess
