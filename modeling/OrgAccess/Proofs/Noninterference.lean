import OrgAccess.Proofs.Visibility

/-!
# What lies out of sight does not matter

A caller who is no admin has its own row, the live teams of its scope and the live users whom its
visibility permits. All that it can read is put together from these three (`Store.AgreeFor`): the
teams that it is listed are those of its scope, a team of its scope is shown with the visible
employees who belong to it, and the only manager to be seen in it is the caller itself.

Main statement: two reachable stores that agree on the three answer every reading operation within
the caller's reach alike, whatever else they hold.
-/

namespace OrgAccess

namespace Store

/-- What is the same in two stores for a caller: its row, its scope and the users in its sight. -/
structure AgreeFor (first second : Store) (caller : Uuid) (viewer : User) : Prop where
  first_row : first.liveUser? caller = some viewer
  second_row : second.liveUser? caller = some viewer
  teams : first.scopeTeams viewer = second.scopeTeams viewer
  users : first.visibleUsers viewer = second.visibleUsers viewer

variable {store : Store} {viewer user : User} {team : Team} {id : Uuid}

/-! ## Reading is put together from what is in sight -/

theorem Distinct.liveTeam?_of_mem_scope (distinct : store.Distinct)
    (mem : team ∈ store.scopeTeams viewer) : store.liveTeam? team.id = some team := by
  rcases mem_scopeTeams_iff.mp mem with ⟨stored, live, _⟩
  exact distinct.liveTeam?_eq_some_iff.mpr ⟨stored, live, rfl⟩

theorem Distinct.liveUser?_of_visible (distinct : store.Distinct)
    (mem : user ∈ store.visibleUsers viewer) : store.liveUser? user.id = some user := by
  rcases List.mem_filter.mp mem with ⟨mem, _⟩
  rcases List.mem_filter.mp mem with ⟨stored, live⟩
  exact distinct.liveUser?_eq_some_iff.mpr ⟨stored, live, rfl⟩

theorem Distinct.permits_team_iff (distinct : store.Distinct) (notAdmin : viewer.role ≠ .admin) :
    (store.actor viewer).teamVisibility.permits id = true ↔
      ∃ team ∈ store.scopeTeams viewer, team.id = id := by
  rw [Actor.teamVisibility, if_neg (mt (isAdmin_actor viewer).mp notAdmin),
    distinct.teamScope_actor]
  simp [TeamVisibility.permits]

/-- The teams that are listed are those of the scope. -/
theorem Distinct.listTeams_eq (distinct : store.Distinct) (notAdmin : viewer.role ≠ .admin) :
    store.listTeams (store.actor viewer).teamVisibility = store.scopeTeams viewer := by
  unfold listTeams scopeTeams liveTeams
  rw [List.filter_filter]
  refine List.filter_congr fun team mem => ?_
  rw [Bool.eq_iff_iff, Bool.and_eq_true, Bool.and_eq_true, distinct.permits_team_iff notAdmin]
  constructor
  · rintro ⟨live, other, inScope, same⟩
    rcases mem_scopeTeams_iff.mp inScope with ⟨stored, _, own⟩
    rw [distinct.team_eq stored mem same] at own
    exact ⟨own, live⟩
  · rintro ⟨own, live⟩
    exact ⟨live, team, mem_scopeTeams_iff.mpr ⟨mem, live, own⟩, rfl⟩

/-- A visible manager is the caller, which is linked to every team of its scope. -/
theorem Distinct.isLinked_of_visible (distinct : store.Distinct)
    (viewer_mem : viewer ∈ store.users) (notAdmin : viewer.role ≠ .admin)
    (inScope : team ∈ store.scopeTeams viewer) (visible : user ∈ store.visibleUsers viewer)
    (isManager : user.role = .manager) : store.isLinked team.id user.id = true := by
  rcases List.mem_filter.mp visible with ⟨live, permits⟩
  rcases (distinct.permits_iff notAdmin).mp permits with same | ⟨isEmployee, _⟩
  · obtain rfl := distinct.user_eq (List.mem_filter.mp live).1 viewer_mem same
    have own := (mem_scopeTeams_iff.mp inScope).2.2
    rwa [isInScope, isManager] at own
  · cases isManager.symm.trans isEmployee

/-- A team of the scope is shown with members among the visible users only. -/
theorem Distinct.teamDetails_of_mem_scope (distinct : store.Distinct)
    (viewer_mem : viewer ∈ store.users) (notAdmin : viewer.role ≠ .admin)
    (inScope : team ∈ store.scopeTeams viewer) :
    store.teamDetails (store.actor viewer) team =
      { team
        employees :=
          ((store.visibleUsers viewer).filter (·.isEmployeeOf team.id)).map User.toPublic
        managers := ((store.visibleUsers viewer).filter (·.role == .manager)).map User.toPublic } := by
  have employees : (store.listEmployees team.id).filter (store.actor viewer).userVisibility.permits =
      (store.visibleUsers viewer).filter (·.isEmployeeOf team.id) := by
    simp only [listEmployees, visibleUsers, liveUsers, List.filter_filter]
    refine List.filter_congr fun user _ => ?_
    ac_rfl
  -- Whether others are linked to the team does not show: only the caller can be a visible manager.
  have linked : (store.visibleUsers viewer).filter
      (fun user => user.role == .manager && store.isLinked team.id user.id) =
        (store.visibleUsers viewer).filter (·.role == .manager) := by
    refine List.filter_congr fun user visible => ?_
    cases isManager : user.role == .manager with
    | false => rfl
    | true =>
        exact distinct.isLinked_of_visible viewer_mem notAdmin inScope visible
          (beq_iff_eq.mp isManager)
  have managers : (store.listManagers team.id).filter (store.actor viewer).userVisibility.permits =
      (store.visibleUsers viewer).filter (·.role == .manager) := by
    rw [← linked]
    simp only [listManagers, visibleUsers, liveUsers, List.filter_filter]
    refine List.filter_congr fun user _ => ?_
    ac_rfl
  rw [teamDetails, employees, managers]

theorem Distinct.teamFor_of_mem_scope (distinct : store.Distinct) (notAdmin : viewer.role ≠ .admin)
    (inScope : team ∈ store.scopeTeams viewer) :
    store.teamFor (store.actor viewer) team.id =
      .ok (store.teamDetails (store.actor viewer) team) := by
  have permits := (distinct.permits_team_iff notAdmin).mpr ⟨team, inScope, rfl⟩
  simp only [teamFor, distinct.liveTeam?_of_mem_scope inScope, if_pos permits]

/-! ## Two stores that agree -/

variable {first second : Store} {caller : Uuid}

/-- A caller is found with its scope and nothing else: as its team or as those that it manages. -/
theorem actor_eq (store : Store) (viewer : User) :
    store.actor viewer =
      { id := viewer.id
        role := viewer.role
        teamId :=
          if viewer.role = .employee then (store.actor viewer).teamScope.head? else none
        managedTeamIds :=
          if viewer.role = .manager then (store.actor viewer).teamScope else [] } := by
  unfold actor Actor.teamScope
  cases isRole : viewer.role with
  | admin => simp
  | manager => simp
  | employee => simp

theorem AgreeFor.actor_eq (agree : first.AgreeFor second caller viewer)
    (first_distinct : first.Distinct) (second_distinct : second.Distinct) :
    first.actor viewer = second.actor viewer := by
  rw [first.actor_eq, second.actor_eq, first_distinct.teamScope_actor,
    second_distinct.teamScope_actor, agree.teams]

theorem AgreeFor.liveTeam?_eq (agree : first.AgreeFor second caller viewer)
    (first_distinct : first.Distinct) (second_distinct : second.Distinct)
    (inScope : team ∈ first.scopeTeams viewer) :
    first.liveTeam? team.id = second.liveTeam? team.id := by
  rw [first_distinct.liveTeam?_of_mem_scope inScope,
    second_distinct.liveTeam?_of_mem_scope (agree.teams ▸ inScope)]

theorem AgreeFor.teamDetails_eq (agree : first.AgreeFor second caller viewer)
    (first_distinct : first.Distinct) (second_distinct : second.Distinct)
    (notAdmin : viewer.role ≠ .admin) (inScope : team ∈ first.scopeTeams viewer) :
    first.teamDetails (first.actor viewer) team = second.teamDetails (second.actor viewer) team := by
  have first_mem := mem_of_liveUser? agree.first_row
  have second_mem := mem_of_liveUser? agree.second_row
  rw [first_distinct.teamDetails_of_mem_scope first_mem notAdmin inScope,
    second_distinct.teamDetails_of_mem_scope second_mem notAdmin (agree.teams ▸ inScope),
    agree.users]

/-- Whatever team a caller is found with is one of its scope. -/
theorem Distinct.exists_of_teamId (distinct : store.Distinct)
    (found : (store.actor viewer).teamId = some id) :
    ∃ team ∈ store.scopeTeams viewer, team.id = id := by
  rw [store.actor_eq] at found
  dsimp only at found
  split at found
  · rw [distinct.teamScope_actor] at found
    exact List.mem_map.mp (List.mem_of_head? found)
  · cases found

theorem Distinct.exists_of_managed (distinct : store.Distinct)
    (mem : id ∈ (store.actor viewer).managedTeamIds) :
    ∃ team ∈ store.scopeTeams viewer, team.id = id := by
  rw [store.actor_eq] at mem
  dsimp only at mem
  split at mem
  · rw [distinct.teamScope_actor] at mem
    exact List.mem_map.mp mem
  · cases mem

theorem AgreeFor.profileOf_eq (agree : first.AgreeFor second caller viewer)
    (first_distinct : first.Distinct) (second_distinct : second.Distinct) :
    first.profileOf viewer = second.profileOf viewer := by
  have team : (first.actor viewer).teamId.bind first.liveTeam? =
      (first.actor viewer).teamId.bind second.liveTeam? := by
    refine Option.bind_congr fun id found => ?_
    rcases first_distinct.exists_of_teamId found with ⟨team, inScope, rfl⟩
    exact agree.liveTeam?_eq first_distinct second_distinct inScope
  have teams : (first.actor viewer).managedTeamIds.filterMap first.liveTeam? =
      (first.actor viewer).managedTeamIds.filterMap second.liveTeam? := by
    refine List.filterMap_congr fun id mem => ?_
    rcases first_distinct.exists_of_managed mem with ⟨team, inScope, rfl⟩
    exact agree.liveTeam?_eq first_distinct second_distinct inScope
  rw [profileOf, profileOf, team, teams, agree.actor_eq first_distinct second_distinct]

end Store

/-- What a caller can read without seeing beyond its scope and the users in its sight. -/
inductive Operation.WithinReach (store : Store) (caller : Uuid) (viewer : User) :
    Operation → Prop where
  | listUsers : WithinReach store caller viewer (.listUsers caller)
  | listTeams : WithinReach store caller viewer (.listTeams caller)
  | profile : WithinReach store caller viewer (.profile caller)
  | getTeam {team} (inScope : team ∈ store.scopeTeams viewer) :
      WithinReach store caller viewer (.getTeam caller team.id)
  | getUser {user} (visible : user ∈ store.visibleUsers viewer) :
      WithinReach store caller viewer (.getUser caller user.id)

/--
Two reachable stores that agree on the row, the scope and the visible users of a live caller who is
no admin answer it alike whatever it reads within its reach, in runs by whomever and at whatever
moments.
-/
theorem answers_determined_by_sight {first second : Store} (first_reachable : first.Reachable)
    (second_reachable : second.Reachable) {caller : Uuid} {viewer : User}
    (agree : first.AgreeFor second caller viewer) (notAdmin : viewer.role ≠ .admin)
    {operation : Operation} (within : operation.WithinReach first caller viewer)
    (hasher hasher' : Hasher) (tokens tokens' : TokenService) (moments moments' : Nat → Moment)
    (tick tick' : Nat) :
    (operation.program.run ((System.inMemory hasher tokens).handler moments) ⟨first, tick⟩).1 =
      (operation.program.run ((System.inMemory hasher' tokens').handler moments')
        ⟨second, tick'⟩).1 := by
  have first_distinct := first_reachable.distinct
  have second_distinct := second_reachable.distinct
  cases within with
  | listUsers => rw [run_listUsers agree.first_row, run_listUsers agree.second_row, agree.users]
  | listTeams =>
      rw [Operation.run_of_yields (Workflow.yields_listTeams agree.first_row),
        Operation.run_of_yields (Workflow.yields_listTeams agree.second_row),
        first_distinct.listTeams_eq notAdmin, second_distinct.listTeams_eq notAdmin, ← agree.teams]
      refine congrArg Except.ok (List.map_congr_left fun team inScope => ?_)
      exact agree.teamDetails_eq first_distinct second_distinct notAdmin inScope
  | profile =>
      rw [Operation.run_of_yields (Workflow.yields_profile agree.first_row),
        Operation.run_of_yields (Workflow.yields_profile agree.second_row),
        agree.profileOf_eq first_distinct second_distinct]
  | @getTeam team inScope =>
      rw [Operation.run_of_yields (Workflow.yields_getTeam agree.first_row team.id),
        Operation.run_of_yields (Workflow.yields_getTeam agree.second_row team.id),
        first_distinct.teamFor_of_mem_scope notAdmin inScope,
        second_distinct.teamFor_of_mem_scope notAdmin (agree.teams ▸ inScope),
        agree.teamDetails_eq first_distinct second_distinct notAdmin inScope]
  | @getUser user visible =>
      rw [Operation.run_of_yields (Workflow.yields_getUser agree.first_row user.id),
        Operation.run_of_yields (Workflow.yields_getUser agree.second_row user.id),
        Store.userFor, Store.userFor, first_distinct.liveUser?_of_visible visible,
        second_distinct.liveUser?_of_visible (agree.users ▸ visible),
        agree.actor_eq first_distinct second_distinct]

/-- More of an organisation: another team with a manager and an employee of its own. -/
def strangers : List TimedCall :=
  [⟨.numbered 11, .createTeam (.numbered 12) { name := "Labs", description := none, createdBy := ⟨1⟩ }⟩,
    ⟨.numbered 13, .createUser (staffAccount "head@example.org" .manager none)⟩,
    ⟨.numbered 14, .addManager ⟨12⟩ ⟨13⟩⟩,
    ⟨.numbered 15, .addManager ⟨2⟩ ⟨13⟩⟩,
    ⟨.numbered 16, .createUser (staffAccount "novice@example.org" .employee (some ⟨12⟩))⟩,
    ⟨.numbered 17, .deleteUser ⟨5⟩⟩]

/-- The manager of the small organisation is told the same of its team, whoever joins elsewhere. -/
theorem strangers_out_of_sight :
    let manager := staffMember 3 "manager@example.org" .manager none
    let larger := staff.afterAll strangers
    larger.Reachable ∧ staff.AgreeFor larger ⟨3⟩ manager ∧ manager.role ≠ .admin ∧
      (Operation.getTeam ⟨3⟩ ⟨2⟩).WithinReach staff ⟨3⟩ manager ∧
      ((Operation.getTeam ⟨3⟩ ⟨2⟩).program.run ((System.inMemory .plain .unsigned).handler .numbered)
        ⟨staff, 7⟩).1 =
        ((Operation.getTeam ⟨3⟩ ⟨2⟩).program.run
          ((System.inMemory .plain .unsigned).handler .numbered) ⟨larger, 18⟩).1 := by
  intro manager larger
  have reachable : larger.Reachable := staff_reachable.afterAll (by decide +kernel)
  have agree : staff.AgreeFor larger ⟨3⟩ manager :=
    ⟨staff_manager, by decide +kernel, by decide +kernel, by decide +kernel⟩
  have inScope : Store.newTeamRecord (.numbered 2)
      { name := "Core", description := none, createdBy := ⟨1⟩ } ∈ staff.scopeTeams manager := by
    decide +kernel
  have within : (Operation.getTeam ⟨3⟩ ⟨2⟩).WithinReach staff ⟨3⟩ manager := .getTeam inScope
  exact ⟨reachable, agree, by decide, within,
    answers_determined_by_sight staff_reachable reachable agree (by decide) within .plain .plain
      .unsigned .unsigned .numbered .numbered 7 18⟩

end OrgAccess
