import OrgAccess.Proofs.Chronicle
import OrgAccess.Proofs.Reading

/-!
# What a manager is in charge of

The teams of a manager are not stored with it. They are told by the links, and these by what has
happened: a link is there exactly if some operation has added it and none since has removed it or
given its manager another role. So adding a link again or removing one that is not there makes no
difference, and whoever has lost the role of a manager is in charge of nothing when it gets the role
back.

Main statement: this holds after any operations that ran one after the other.
-/

namespace OrgAccess

namespace Outcome

/-- A manager was successfully added to a team. -/
def AddsManager (team manager : Uuid) (outcome : Outcome) : Prop :=
  ∃ caller, outcome = ⟨.addManager caller team manager, .ok ()⟩

/-- A manager was successfully removed from a team. -/
def RemovesManager (team manager : Uuid) (outcome : Outcome) : Prop :=
  ∃ caller, outcome = ⟨.removeManager caller team manager, .ok ()⟩

/-- A user was successfully given a role other than that of a manager. -/
def Demotes (id : Uuid) (outcome : Outcome) : Prop :=
  ∃ caller patch user role, outcome = ⟨.updateUser caller id patch, .ok user⟩ ∧
    patch.role = some role ∧ role ≠ Role.manager.name

/-- What takes a manager away from a team. -/
def Unlinks (team manager : Uuid) (outcome : Outcome) : Prop :=
  outcome.RemovesManager team manager ∨ outcome.Demotes manager

end Outcome

/-- Changes take a user out of the managers exactly if they were asked for with another role. -/
theorem UserChanges.leavesManagerRole_iff {changes : UserChanges} {asked : Option String}
    (named : changes.role.map some = asked.map Role.ofName?) :
    changes.leavesManagerRole = true ↔ ∃ role, asked = some role ∧ role ≠ Role.manager.name := by
  unfold UserChanges.leavesManagerRole
  generalize changes.role = given at named ⊢
  cases asked with
  | none =>
      obtain rfl : given = none := by simpa using named
      simp
  | some name =>
      obtain ⟨role, rfl, found⟩ : ∃ role, given = some role ∧ some role = Role.ofName? name := by
        simpa using named
      have written : role.name = name := Role.name_of_ofName? found.symm
      subst written
      have same_iff : role = .manager ↔ role.name = Role.manager.name :=
        ⟨congrArg Role.name, Role.name_injective⟩
      simp [same_iff]

namespace Outcome

variable {caller id team manager team' manager' : Uuid}

theorem addsManager_iff :
    AddsManager team manager ⟨.addManager caller team' manager', .ok ()⟩ ↔
      ManagerLink.mk team manager = ⟨team', manager'⟩ := by
  constructor
  · rintro ⟨_, ⟨⟩⟩
    rfl
  · rintro ⟨⟩
    exact ⟨caller, rfl⟩

theorem unlinks_removeManager_iff :
    Unlinks team manager ⟨.removeManager caller team' manager', .ok ()⟩ ↔
      ManagerLink.mk team manager = ⟨team', manager'⟩ := by
  constructor
  · rintro (⟨_, ⟨⟩⟩ | ⟨_, _, _, _, ⟨⟩, _⟩)
    rfl
  · rintro ⟨⟩
    exact Or.inl ⟨caller, rfl⟩

theorem unlinks_updateUser_iff {patch : UserPatch} {user : PublicUser} :
    Unlinks team manager ⟨.updateUser caller id patch, .ok user⟩ ↔
      (∃ role, patch.role = some role ∧ role ≠ Role.manager.name) ∧ manager = id := by
  constructor
  · rintro (⟨_, ⟨⟩⟩ | ⟨_, _, _, role, ⟨⟩, named, other⟩)
    exact ⟨⟨role, named, other⟩, rfl⟩
  · rintro ⟨⟨role, named, other⟩, rfl⟩
    exact Or.inr ⟨caller, patch, user, role, rfl, named, other⟩

end Outcome

/-! ## Links -/

section Links

variable {hasher : Hasher} {tokens : TokenService} {moments : Nat → Moment}
  {team manager : Uuid} {before after : Store} {outcome : Outcome}

theorem Store.mem_links_addManager (store : Store) (link : ManagerLink) (team manager : Uuid) :
    link ∈ (store.addManager team manager).links ↔ link ∈ store.links ∨ link = ⟨team, manager⟩ := by
  unfold Store.addManager Store.isLinked
  split
  · rename_i linked
    constructor
    · exact Or.inl
    · rintro (mem | rfl)
      · exact mem
      · simpa using linked
  · simp

theorem Store.mem_links_removeManager (store : Store) (link : ManagerLink) (team manager : Uuid) :
    link ∈ (store.removeManager team manager).links ↔
      link ∈ store.links ∧ link ≠ ⟨team, manager⟩ := by
  simp [Store.removeManager]

/-- A link is there if it is added, or if it was there and is not taken away. -/
theorem Outcome.Explains.mem_links_iff
    (explains : outcome.Explains hasher tokens moments before after) :
    ⟨team, manager⟩ ∈ after.links ↔
      outcome.AddsManager team manager ∨
        ⟨team, manager⟩ ∈ before.links ∧ ¬outcome.Unlinks team manager := by
  -- Three kinds of success change links; whatever else happens leaves them alone.
  have kept (same : after.links = before.links) (adds : ¬outcome.AddsManager team manager)
      (unlinks : ¬outcome.Unlinks team manager) : ⟨team, manager⟩ ∈ after.links ↔
        outcome.AddsManager team manager ∨
          ⟨team, manager⟩ ∈ before.links ∧ ¬outcome.Unlinks team manager := by
    simp [same, adds, unlinks]
  rcases outcome with ⟨operation, failure | value⟩
  · obtain rfl : after = before := explains
    refine kept rfl ?_ ?_
    · rintro ⟨_, ⟨⟩⟩
    · rintro (⟨_, ⟨⟩⟩ | ⟨_, _, _, _, ⟨⟩, _⟩)
  · have achieves : operation.Achieves hasher tokens moments before value after := explains
    cases achieves with
    | @managerAdded caller team' manager' =>
        have unlinks : ¬Unlinks team manager ⟨.addManager caller team' manager', .ok ()⟩ := by
          rintro (⟨_, ⟨⟩⟩ | ⟨_, _, _, _, ⟨⟩, _⟩)
        rw [Store.mem_links_addManager, addsManager_iff]
        simp only [unlinks, not_false_eq_true, and_true, or_comm]
    | @managerRemoved caller team' manager' =>
        have adds : ¬AddsManager team manager ⟨.removeManager caller team' manager', .ok ()⟩ := by
          rintro ⟨_, ⟨⟩⟩
        rw [Store.mem_links_removeManager, unlinks_removeManager_iff]
        simp only [adds, false_or, ne_eq]
    | @userUpdated caller id patch user changes tick found asks free =>
        have adds : ¬AddsManager team manager ⟨.updateUser caller id patch,
            .ok (changes.apply (moments tick).now user).toPublic⟩ := by
          rintro ⟨_, ⟨⟩⟩
        have unlinks : Unlinks team manager ⟨.updateUser caller id patch,
            .ok (changes.apply (moments tick).now user).toPublic⟩ ↔
              changes.leavesManagerRole = true ∧ manager = id := by
          rw [UserChanges.leavesManagerRole_iff asks.role]
          exact unlinks_updateUser_iff
        simp only [adds, unlinks, false_or]
        split
        · rename_i leaves
          simp [leaves]
        · rename_i stays
          simp [stays]
    | @userUnchanged caller id patch user found asks =>
        refine kept rfl ?_ ?_
        · rintro ⟨_, ⟨⟩⟩
        · rw [unlinks_updateUser_iff, ← UserChanges.leavesManagerRole_iff asks.role]
          exact fun both => nomatch both.1
    | shown reads =>
        refine kept rfl ?_ ?_
        · rintro ⟨_, ⟨⟩⟩
          cases reads
        · rintro (⟨_, ⟨⟩⟩ | ⟨_, _, _, _, ⟨⟩, _⟩)
          · cases reads
          · cases reads
    | _ =>
        refine kept rfl ?_ ?_
        · rintro ⟨_, ⟨⟩⟩
        · rintro (⟨_, ⟨⟩⟩ | ⟨_, _, _, _, ⟨⟩, _⟩)

end Links

/-- After any operations, a link is there exactly if its addition stands. -/
theorem mem_links_iff_stands (hasher : Hasher) (tokens : TokenService) (moments : Nat → Moment)
    (operations : List Operation) (team manager : Uuid) :
    let (outcomes, world) := Program.runEach ((System.inMemory hasher tokens).handler moments)
      (operations.map Operation.outcome) {}
    ⟨team, manager⟩ ∈ world.store.links ↔
      Stands (Outcome.AddsManager team manager) (Outcome.Unlinks team manager) outcomes := by
  refine Operation.runEach_induction (fun outcomes store => ⟨team, manager⟩ ∈ store.links ↔
    Stands (Outcome.AddsManager team manager) (Outcome.Unlinks team manager) outcomes) ?_ ?_
    operations
  · simp [not_stands_nil]
  · intro outcomes outcome before after follows explains
    rw [explains.mem_links_iff, stands_append_singleton, follows]

theorem Store.mem_managedTeamIds {store : Store} {team manager : Uuid} :
    team ∈ store.managedTeamIds manager ↔
      (∃ found, store.liveTeam? team = some found) ∧ ⟨team, manager⟩ ∈ store.links := by
  simp only [managedTeamIds, List.mem_map, List.mem_filter, Bool.and_eq_true, isLinked,
    List.contains_iff_mem]
  constructor
  · rintro ⟨found, ⟨mem, live, linked⟩, rfl⟩
    refine ⟨Option.isSome_iff_exists.mp (List.find?_isSome.mpr ⟨found, mem, ?_⟩), linked⟩
    exact isLiveTeam_iff.mpr ⟨live, rfl⟩
  · rintro ⟨⟨found, look_up⟩, linked⟩
    obtain rfl := id_of_liveTeam? look_up
    exact ⟨found, ⟨mem_of_liveTeam? look_up, isLive_of_liveTeam? look_up, linked⟩, rfl⟩

/-! ## Scopes -/

section Scopes

variable {hasher : Hasher} {tokens : TokenService} {moments : Nat → Moment} {world : World}
  {team manager : Uuid}

/-- Whether a user who is looked up as a caller is in charge of a team. -/
def Manages (hasher : Hasher) (tokens : TokenService) (moments : Nat → Moment) (world : World)
    (team manager : Uuid) : Prop :=
  ∃ actor,
    ((System.inMemory hasher tokens).run moments (Workflow.resolveActor manager).run world).1 =
        .ok actor ∧
      team ∈ actor.managedTeamIds

theorem manages_iff :
    Manages hasher tokens moments world team manager ↔
      (∃ user, world.store.liveUser? manager = some user ∧ user.role = .manager) ∧
        (∃ found, world.store.liveTeam? team = some found) ∧
          ⟨team, manager⟩ ∈ world.store.links := by
  rcases world with ⟨store, tick⟩
  rw [← Store.mem_managedTeamIds]
  cases look_up : store.liveUser? manager with
  | none =>
      refine iff_of_false ?_ (by simp)
      rintro ⟨actor, ended, _⟩
      have gives : Workflow.Gives ((System.inMemory hasher tokens).handler moments) ⟨store, tick⟩
          (Workflow.resolveActor manager) actor _ := Prod.ext ended rfl
      rcases gives.of_store_bind with ⟨found, _, ⟨⟩, gives⟩
      rcases Workflow.gives_require_bind.mp gives with ⟨user, found, _⟩
      exact nomatch look_up.symm.trans found
  | some user =>
      obtain rfl := Store.id_of_liveUser? look_up
      rcases Workflow.yields_resolveActor look_up hasher tokens moments tick with ⟨later, run⟩
      rw [Manages, System.run, run]
      by_cases isManager : user.role = .manager <;> simp [Store.actor, isManager]

/-- Adding a link that is there makes no difference. -/
theorem addManager_again (linked : ⟨team, manager⟩ ∈ world.store.links) (caller : Uuid) :
    ((Operation.addManager caller team manager).program.run
      ((System.inMemory hasher tokens).handler moments) world).2.store = world.store := by
  have explains := (Operation.addManager caller team manager).run_explains hasher tokens moments
    world
  generalize (Operation.addManager caller team manager).program.run
    ((System.inMemory hasher tokens).handler moments) world = ended at explains ⊢
  rcases ended with ⟨failure | value, later⟩
  · exact explains
  · have achieves : Operation.Achieves hasher tokens moments world.store
      (.addManager caller team manager) value later.store := explains
    generalize later.store = after at achieves ⊢
    cases achieves with
    | shown reads => cases reads
    | managerAdded => simp [Store.addManager, Store.isLinked, linked]

/-- Removing a link that is not there makes no difference. -/
theorem removeManager_again (missing : ⟨team, manager⟩ ∉ world.store.links) (caller : Uuid) :
    ((Operation.removeManager caller team manager).program.run
      ((System.inMemory hasher tokens).handler moments) world).2.store = world.store := by
  have explains := (Operation.removeManager caller team manager).run_explains hasher tokens moments
    world
  generalize (Operation.removeManager caller team manager).program.run
    ((System.inMemory hasher tokens).handler moments) world = ended at explains ⊢
  rcases ended with ⟨failure | value, later⟩
  · exact explains
  · have achieves : Operation.Achieves hasher tokens moments world.store
      (.removeManager caller team manager) value later.store := explains
    generalize later.store = after at achieves ⊢
    cases achieves with
    | shown reads => cases reads
    | managerRemoved =>
        have kept : world.store.links.filter (· != ⟨team, manager⟩) = world.store.links := by
          rw [List.filter_eq_self]
          rintro link mem
          simpa using ne_of_mem_of_not_mem mem missing
        simp [Store.removeManager, kept]

end Scopes

/--
After operations that ran one after the other, a user is in charge of a team exactly if the user is
a live manager, the team is live and the user was added to it, without having been removed from it
or given another role since. An addition that stands already and a removal where none stands make no
difference, and after a demotion there is nothing to be in charge of but what is added anew.
-/
theorem managed_teams_follow_history (hasher : Hasher) (tokens : TokenService)
    (moments : Nat → Moment) (operations : List Operation) (team manager : Uuid) :
    let handler := (System.inMemory hasher tokens).handler moments
    let (outcomes, world) := Program.runEach handler (operations.map Operation.outcome) {}
    let added := Stands (Outcome.AddsManager team manager) (Outcome.Unlinks team manager) outcomes
    (Manages hasher tokens moments world team manager ↔
      (∃ user, world.store.liveUser? manager = some user ∧ user.role = .manager) ∧
        (∃ found, world.store.liveTeam? team = some found) ∧ added) ∧
    (added → ∀ caller,
      ((Operation.addManager caller team manager).program.run handler world).2.store =
        world.store) ∧
    (¬added → ∀ caller,
      ((Operation.removeManager caller team manager).program.run handler world).2.store =
        world.store) ∧
    ∀ before demotion after, outcomes = before ++ demotion :: after → demotion.Demotes manager →
      (∀ later ∈ after, ¬later.AddsManager team manager) →
        ¬Manages hasher tokens moments world team manager := by
  intro handler
  have stands := mem_links_iff_stands hasher tokens moments operations team manager
  generalize Program.runEach handler (operations.map Operation.outcome) {} = run at stands ⊢
  rcases run with ⟨outcomes, world⟩
  dsimp only at stands ⊢
  refine ⟨?_, fun added => ?_, fun missing => ?_, ?_⟩
  · rw [manages_iff, stands]
  · exact addManager_again (stands.mpr added)
  · exact removeManager_again fun linked => missing (stands.mp linked)
  · rintro before demotion after rfl demotes never_again manages
    have apart : ¬demotion.AddsManager team manager := by
      rcases demotes with ⟨_, _, _, _, rfl, _⟩
      rintro ⟨_, ⟨⟩⟩
    have linked := stands.mp (manages_iff.mp manages).2.2
    have undone : demotion.Unlinks team manager := Or.inr demotes
    exact not_stands_of_undone undone apart never_again linked

end OrgAccess
