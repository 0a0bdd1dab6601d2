import OrgAccess.Proofs.ManagerScope
import OrgAccess.Proofs.TeamViews

/-!
# Membership seen from both sides

Who belongs to a team is stored with the employees and in the links of the managers. It is read in
both directions: a team is shown with its members, and a caller is looked up with its teams. The two
directions are queries of their own (`Store.listEmployees` and `Store.listManagers`,
`Store.actor`), and they tell the same relation (`Store.Distinct.mem_listEmployees_iff`,
`Store.Distinct.mem_listManagers_iff`).

A caller who may read a team is shown what an admin is shown, less the members out of its sight
(`Store.Distinct.teamDetails_eq_restrictedTo`). No employee of the team is, and of the managers only
the caller itself remains.

Main statement: in a reachable store a live team is shown to an admin with exactly the users who are
looked up with it, and to every other reader with those of them who are in the reader's listing.
-/

namespace OrgAccess

/-- The members of a team who are among the users seen. -/
def TeamDetails.restrictedTo (details : TeamDetails) (seen : List PublicUser) : TeamDetails where
  team := details.team
  employees := details.employees.filter (· ∈ seen)
  managers := details.managers.filter (· ∈ seen)

/-- The managers of a team whom a reader of it is shown. -/
def TeamDetails.managersFor (whole : TeamDetails) (reader : User) : List PublicUser :=
  match reader.role with
  | .admin => whole.managers
  | .manager => [reader.toPublic]
  | .employee => []

/-- Whether a user who is looked up as a caller is an employee of a team. -/
def BelongsTo (hasher : Hasher) (tokens : TokenService) (moments : Nat → Moment) (world : World)
    (team employee : Uuid) : Prop :=
  ∃ actor,
    ((System.inMemory hasher tokens).run moments (Workflow.resolveActor employee).run world).1 =
        .ok actor ∧
      actor.teamId = some team

/-- What a live user is looked up as. -/
theorem run_resolveActor_eq_ok_iff {store : Store} {user : User} {actor : Actor}
    (found : store.liveUser? user.id = some user) (hasher : Hasher) (tokens : TokenService)
    (moments : Nat → Moment) (tick : Nat) :
    ((System.inMemory hasher tokens).run moments (Workflow.resolveActor user.id).run
      ⟨store, tick⟩).1 = .ok actor ↔ store.actor user = actor := by
  rcases Workflow.yields_resolveActor found hasher tokens moments tick with ⟨later, run⟩
  rw [System.run, run]
  exact ⟨Except.ok.inj, congrArg Except.ok⟩

namespace Store

variable {store : Store} {viewer user : User} {team : Team} {id : Uuid}

/-! ## The members of a team -/

theorem teamId_actor_eq_some_iff :
    (store.actor user).teamId = some id ↔
      user.isEmployeeOf id = true ∧ ∃ found, store.liveTeam? id = some found := by
  have named (own : Uuid) : (store.liveTeam? own).map Team.id = some id ↔
      own = id ∧ ∃ found, store.liveTeam? id = some found := by
    rw [Option.map_eq_some_iff]
    constructor
    · rintro ⟨found, look_up, rfl⟩
      obtain rfl := id_of_liveTeam? look_up
      exact ⟨rfl, found, look_up⟩
    · rintro ⟨rfl, found, look_up⟩
      exact ⟨found, look_up, id_of_liveTeam? look_up⟩
  unfold actor User.isEmployeeOf
  cases isRole : user.role with
  | admin => simp
  | manager => simp
  | employee =>
      cases placed : user.teamId with
      | none => simp
      | some own => simpa using named own

/-- The employees shown in a live team are the live users who are looked up as its employees. -/
theorem Distinct.mem_listEmployees_iff (distinct : store.Distinct)
    (live : store.liveTeam? id = some team) (hasher : Hasher) (tokens : TokenService)
    (moments : Nat → Moment) (tick : Nat) :
    user ∈ store.listEmployees id ↔
      user ∈ store.users ∧ user.isLive = true ∧ user.role = .employee ∧
        BelongsTo hasher tokens moments ⟨store, tick⟩ id user.id := by
  rw [listEmployees, List.mem_filter, Bool.and_eq_true]
  refine and_congr_right fun stored => and_congr_right fun isLive => ?_
  have found := distinct.liveUser?_eq_some_iff.mpr ⟨stored, isLive, rfl⟩
  have belongs : BelongsTo hasher tokens moments ⟨store, tick⟩ id user.id ↔
      user.isEmployeeOf id = true := by
    simp only [BelongsTo, run_resolveActor_eq_ok_iff found, exists_eq_left',
      teamId_actor_eq_some_iff]
    exact and_iff_left ⟨team, live⟩
  rw [belongs, User.isEmployeeOf, Bool.and_eq_true, beq_iff_eq]
  tauto

/-- The managers shown in a live team are the live users who are looked up as in charge of it. -/
theorem Distinct.mem_listManagers_iff (distinct : store.Distinct)
    (live : store.liveTeam? id = some team) (hasher : Hasher) (tokens : TokenService)
    (moments : Nat → Moment) (tick : Nat) :
    user ∈ store.listManagers id ↔
      user ∈ store.users ∧ user.isLive = true ∧ user.role = .manager ∧
        Manages hasher tokens moments ⟨store, tick⟩ id user.id := by
  simp only [listManagers, List.mem_filter, Bool.and_eq_true, beq_iff_eq, isLinked,
    List.contains_iff_mem, and_assoc, manages_iff]
  refine and_congr_right fun stored => and_congr_right fun isLive => and_congr_right fun isRole => ?_
  have found := distinct.liveUser?_eq_some_iff.mpr ⟨stored, isLive, rfl⟩
  constructor
  · intro linked
    exact ⟨⟨user, found, isRole⟩, ⟨team, live⟩, linked⟩
  · rintro ⟨_, _, linked⟩
    exact linked

theorem Distinct.nodup_map_id (distinct : store.Distinct) {users : List User}
    (sublist : users.Sublist store.users) : (users.map User.id).Nodup :=
  distinct.users.sublist (sublist.map User.id)

/-! ## What an admin is shown -/

/-- A team with all of its members. -/
def wholeTeam (store : Store) (team : Team) : TeamDetails where
  team
  employees := (store.listEmployees team.id).map User.toPublic
  managers := (store.listManagers team.id).map User.toPublic

theorem teamDetails_of_admin (isAdmin : viewer.role = .admin) (team : Team) :
    store.teamDetails (store.actor viewer) team = store.wholeTeam team := by
  have all (users : List User) :
      users.filter (store.actor viewer).userVisibility.permits = users :=
    List.filter_eq_self.mpr fun user _ => permits_of_admin isAdmin user
  rw [teamDetails, wholeTeam, all, all]

theorem permits_team_of_admin (isAdmin : viewer.role = .admin) (id : Uuid) :
    (store.actor viewer).teamVisibility.permits id = true := by
  rw [Actor.teamVisibility, if_pos (isAdmin_actor viewer |>.mpr isAdmin)]
  rfl

theorem listing_of_admin (isAdmin : viewer.role = .admin) :
    store.listing (store.actor viewer) = store.liveTeams.map store.wholeTeam := by
  have all : store.listTeams (store.actor viewer).teamVisibility = store.liveTeams := by
    refine List.filter_congr fun team _ => ?_
    rw [permits_team_of_admin isAdmin, Bool.and_true]
  rw [listing, all]
  exact List.map_congr_left fun team _ => teamDetails_of_admin isAdmin team

/-- An employee is shown in the one team whose identifier is stored with it. -/
theorem Distinct.mem_employees_wholeTeam_iff (distinct : store.Distinct)
    (employed : user ∈ store.listEmployees id) (team : Team) :
    user.toPublic ∈ (store.wholeTeam team).employees ↔ team.id = id := by
  rcases List.mem_filter.mp employed with ⟨stored, passes⟩
  rw [Bool.and_eq_true] at passes
  have own : user.isEmployeeOf team.id = true ↔ team.id = id := by
    have placed := passes.2
    simp only [User.isEmployeeOf, Bool.and_eq_true, beq_iff_eq] at placed ⊢
    simp [placed.1, placed.2, eq_comm]
  rw [← own]
  simp only [wholeTeam, List.mem_map, listEmployees, List.mem_filter, Bool.and_eq_true]
  constructor
  · rintro ⟨other, ⟨other_stored, _, placed⟩, same⟩
    rwa [← distinct.user_eq other_stored stored (congrArg PublicUser.id same)]
  · intro placed
    exact ⟨user, ⟨stored, passes.1, placed⟩, rfl⟩

theorem Distinct.filter_listing_of_employee (distinct : store.Distinct)
    (live : store.liveTeam? id = some team) (isAdmin : viewer.role = .admin)
    (employed : user ∈ store.listEmployees id) :
    (store.listing (store.actor viewer)).filter (user.toPublic ∈ ·.employees) =
      [store.wholeTeam team] := by
  have only : store.liveTeams.filter (fun team => user.toPublic ∈ (store.wholeTeam team).employees) =
      [team] := by
    calc store.liveTeams.filter (fun team => user.toPublic ∈ (store.wholeTeam team).employees)
        = store.teams.filter (isLiveTeam id) := by
          rw [liveTeams, List.filter_filter]
          refine List.filter_congr fun team _ => ?_
          rw [Bool.eq_iff_iff, Bool.and_eq_true, decide_eq_true_eq, isLiveTeam_iff,
            distinct.mem_employees_wholeTeam_iff employed, and_comm]
      _ = [team] := by rw [distinct.filter_isLiveTeam, live, Option.toList_some]
  rw [listing_of_admin isAdmin, List.filter_map]
  exact congrArg (List.map store.wholeTeam) only

/-! ## What a reader is shown -/

/-- Of the members of a team those are shown whom the caller is shown in the listing of users. -/
theorem Distinct.teamDetails_eq_restrictedTo (distinct : store.Distinct) (viewer : User)
    (team : Team) :
    store.teamDetails (store.actor viewer) team =
      (store.wholeTeam team).restrictedTo ((store.visibleUsers viewer).map User.toPublic) := by
  have seen {users : List User} (live : users ⊆ store.liveUsers) :
      (users.filter (store.actor viewer).userVisibility.permits).map User.toPublic =
        (users.map User.toPublic).filter (· ∈ (store.visibleUsers viewer).map User.toPublic) := by
    rw [List.filter_map]
    refine congrArg (List.map User.toPublic) (List.filter_congr fun user mem => ?_)
    have user_live := live mem
    rw [Bool.eq_iff_iff, Function.comp_apply, decide_eq_true_eq, List.mem_map]
    constructor
    · intro permitted
      exact ⟨user, List.mem_filter.mpr ⟨user_live, permitted⟩, rfl⟩
    · rintro ⟨other, visible, same⟩
      rcases List.mem_filter.mp visible with ⟨other_live, permitted⟩
      rwa [← distinct.user_eq (List.mem_filter.mp other_live).1 (List.mem_filter.mp user_live).1
        (congrArg PublicUser.id same)]
  have employees : store.listEmployees team.id ⊆ store.liveUsers := by
    refine List.Sublist.subset (List.monotone_filter_right _ fun user passes => ?_)
    exact (Bool.and_eq_true _ _ ▸ passes).1
  have managers : store.listManagers team.id ⊆ store.liveUsers := by
    refine List.Sublist.subset (List.monotone_filter_right _ fun user passes => ?_)
    rw [Bool.and_eq_true, Bool.and_eq_true] at passes
    exact passes.1.1
  rw [teamDetails, seen employees, seen managers]
  rfl

theorem Distinct.permits_employee (distinct : store.Distinct)
    (readable : (store.actor viewer).teamVisibility.permits id = true)
    (employed : user.isEmployeeOf id = true) :
    (store.actor viewer).userVisibility.permits user = true := by
  by_cases isAdmin : viewer.role = .admin
  · exact permits_of_admin isAdmin user
  · rcases (distinct.permits_team_iff isAdmin).mp readable with ⟨team, inScope, rfl⟩
    rw [User.isEmployeeOf, Bool.and_eq_true, beq_iff_eq, beq_iff_eq] at employed
    exact (distinct.permits_iff isAdmin).mpr (Or.inr ⟨employed.1, team, inScope, employed.2⟩)

/-- Whoever may read a team is shown all of its employees. -/
theorem Distinct.employees_teamDetails (distinct : store.Distinct)
    (readable : (store.actor viewer).teamVisibility.permits team.id = true) :
    (store.teamDetails (store.actor viewer) team).employees = (store.wholeTeam team).employees := by
  refine congrArg (List.map User.toPublic) (List.filter_eq_self.mpr fun user mem => ?_)
  rw [listEmployees, List.mem_filter, Bool.and_eq_true] at mem
  exact distinct.permits_employee readable mem.2.2

/-- Of the managers whoever may read a team is shown none but itself, unless it is an admin. -/
theorem Distinct.managers_teamDetails (distinct : store.Distinct)
    (stored : viewer ∈ store.users) (isLive : viewer.isLive = true)
    (readable : (store.actor viewer).teamVisibility.permits team.id = true) :
    (store.teamDetails (store.actor viewer) team).managers =
      (store.wholeTeam team).managersFor viewer := by
  have only_self (notAdmin : viewer.role ≠ .admin) :
      (store.listManagers team.id).filter (store.actor viewer).userVisibility.permits =
        (store.listManagers team.id).filter (· == viewer) := by
    refine List.filter_congr fun user mem => ?_
    rw [listManagers, List.mem_filter, Bool.and_eq_true, Bool.and_eq_true, beq_iff_eq] at mem
    rw [Bool.eq_iff_iff, beq_iff_eq, distinct.permits_iff notAdmin]
    constructor
    · rintro (same | ⟨isEmployee, _⟩)
      · exact distinct.user_eq mem.1 stored same
      · cases isEmployee.symm.trans mem.2.1.2
    · rintro rfl
      exact Or.inl rfl
  unfold TeamDetails.managersFor
  cases isRole : viewer.role with
  | admin => rw [teamDetails_of_admin isRole]
  | manager =>
      have notAdmin : viewer.role ≠ .admin := by simp [isRole]
      rcases (distinct.permits_team_iff notAdmin).mp readable with ⟨other, inScope, same⟩
      have linked := (mem_scopeTeams_iff.mp inScope).2.2
      rw [isInScope, isRole, same] at linked
      have mem : viewer ∈ store.listManagers team.id :=
        List.mem_filter.mpr ⟨stored, by simp [isLive, isRole, linked]⟩
      have once : (store.listManagers team.id).Nodup :=
        (distinct.nodup_map_id List.filter_sublist).of_map User.id
      rw [teamDetails, only_self notAdmin, List.filter_beq, List.count_eq_one_of_mem once mem]
      rfl
  | employee =>
      have none_left : (store.listManagers team.id).filter (· == viewer) = [] := by
        refine List.filter_eq_nil_iff.mpr fun user mem same => ?_
        rw [beq_iff_eq] at same
        subst same
        rw [listManagers, List.mem_filter, isRole] at mem
        simp at mem
      rw [teamDetails, only_self (by simp [isRole]), none_left]
      rfl

end Store

/--
A live team is shown to an admin with exactly those live users, once each and oldest first, who are
looked up as its employees or as in charge of it, and each of its employees shows in no other team.
Every other reader is shown the same less the users who are not in its listing: all the employees,
and of the managers none but itself.
-/
theorem team_membership_agrees {store : Store} (reachable : store.Reachable) {id : Uuid}
    {team : Team} (live : store.liveTeam? id = some team) (hasher : Hasher)
    (tokens : TokenService) (moments : Nat → Moment) (tick : Nat) :
    let answer (operation : Operation) := (operation.program.run
      ((System.inMemory hasher tokens).handler moments) ⟨store, tick⟩).1
    ∃ employees managers : List User,
      let whole : TeamDetails :=
        { team, employees := employees.map User.toPublic, managers := managers.map User.toPublic }
      (employees.Sublist store.users ∧ (employees.map User.id).Nodup ∧
        ∀ user, user ∈ employees ↔
          user ∈ store.users ∧ user.isLive = true ∧ user.role = .employee ∧
            BelongsTo hasher tokens moments ⟨store, tick⟩ id user.id) ∧
      (managers.Sublist store.users ∧ (managers.map User.id).Nodup ∧
        ∀ user, user ∈ managers ↔
          user ∈ store.users ∧ user.isLive = true ∧ user.role = .manager ∧
            Manages hasher tokens moments ⟨store, tick⟩ id user.id) ∧
      (∀ {caller admin}, store.liveUser? caller = some admin → admin.role = .admin →
        answer (.getTeam caller id) = .ok whole ∧
          ∃ listed, answer (.listTeams caller) = .ok listed ∧
            ∀ user ∈ employees, listed.filter (user.toPublic ∈ ·.employees) = [whole]) ∧
      ∀ {caller reader view}, store.liveUser? caller = some reader →
        answer (.getTeam caller id) = .ok view →
          ∃ seen, answer (.listUsers caller) = .ok seen ∧ view = whole.restrictedTo seen ∧
            view.employees = whole.employees ∧ view.managers = whole.managersFor reader := by
  intro answer
  have distinct := reachable.distinct
  obtain rfl := Store.id_of_liveTeam? live
  have told {caller : Uuid} {reader : User} (found : store.liveUser? caller = some reader) :
      answer (.getTeam caller team.id) = store.teamFor (store.actor reader) team.id :=
    Operation.run_of_yields (Workflow.yields_getTeam found team.id) hasher tokens moments tick
  refine ⟨store.listEmployees team.id, store.listManagers team.id,
    ⟨List.filter_sublist, distinct.nodup_map_id List.filter_sublist,
      fun user => distinct.mem_listEmployees_iff live hasher tokens moments tick⟩,
    ⟨List.filter_sublist, distinct.nodup_map_id List.filter_sublist,
      fun user => distinct.mem_listManagers_iff live hasher tokens moments tick⟩, ?_, ?_⟩
  · intro caller admin found isAdmin
    refine ⟨?_, store.listing (store.actor admin), ?_, fun user employed => ?_⟩
    · rw [told found, Store.teamFor, live]
      dsimp only
      rw [if_pos (Store.permits_team_of_admin isAdmin team.id), Store.teamDetails_of_admin isAdmin]
      rfl
    · exact Operation.run_of_yields (Workflow.yields_listTeams found) hasher tokens moments tick
    · exact distinct.filter_listing_of_employee live isAdmin employed
  · intro caller reader view found shown
    rw [told found, Store.teamFor, live] at shown
    dsimp only at shown
    split at shown
    · rename_i readable
      cases shown
      refine ⟨_, run_listUsers found hasher tokens moments tick,
        distinct.teamDetails_eq_restrictedTo reader team, distinct.employees_teamDetails readable,
        distinct.managers_teamDetails (Store.mem_of_liveUser? found) ?_ readable⟩
      exact (distinct.liveUser?_eq_some_iff.mp found).2.1
    · cases shown

/-- The member of the team and its manager are shown in it, to the admin and to the manager alike. -/
theorem staff_membership :
    let team := Store.newTeamRecord (.numbered 2)
      { name := "Core", description := none, createdBy := ⟨1⟩ }
    let manager := staffMember 3 "manager@example.org" .manager none
    let member := staffMember 4 "member@example.org" .employee (some ⟨2⟩)
    let answer (operation : Operation) := (operation.program.run
      ((System.inMemory .plain .unsigned).handler .numbered) ⟨staff, 7⟩).1
    staff.Reachable ∧ staff.liveTeam? ⟨2⟩ = some team ∧
      ∃ employees managers : List User, member ∈ employees ∧ manager ∈ managers ∧
        answer (.getTeam ⟨1⟩ ⟨2⟩) =
          .ok { team, employees := employees.map User.toPublic,
                managers := managers.map User.toPublic } ∧
        ∃ view, answer (.getTeam ⟨3⟩ ⟨2⟩) = .ok view ∧
          view.employees = employees.map User.toPublic ∧ view.managers = [manager.toPublic] := by
  intro team manager member answer
  have live : staff.liveTeam? ⟨2⟩ = some team := by decide +kernel
  have admin : staff.liveUser? ⟨1⟩ = some (staffMember 1 "admin@example.org" .admin none) := by
    decide +kernel
  rcases team_membership_agrees staff_reachable live .plain .unsigned .numbered 7 with
    ⟨employees, managers, ⟨_, _, employs⟩, ⟨_, _, charges⟩, whole, restricted⟩
  have told : answer (.getTeam ⟨3⟩ ⟨2⟩) = .ok (staff.teamDetails (staff.actor manager) team) := by
    refine (Operation.run_of_yields (Workflow.yields_getTeam staff_manager ⟨2⟩) .plain .unsigned
      .numbered 7).trans ?_
    decide +kernel
  rcases restricted staff_manager told with ⟨_, _, _, all, self⟩
  refine ⟨staff_reachable, live, employees, managers, ?_, ?_, (whole admin rfl).1, _, told, all, self⟩
  · have found : staff.liveUser? member.id = some member := by decide +kernel
    refine (employs member).mpr ⟨by decide +kernel, rfl, rfl, staff.actor member, ?_, ?_⟩
    · exact (run_resolveActor_eq_ok_iff found .plain .unsigned .numbered 7).mpr rfl
    · decide +kernel
  · refine (charges manager).mpr ⟨by decide +kernel, rfl, rfl, manages_iff.mpr ?_⟩
    exact ⟨⟨manager, staff_manager, rfl⟩, ⟨team, live⟩, by decide +kernel⟩

end OrgAccess
