import OrgAccess.Proofs.Visibility

/-!
# Nobody sees roles above its own

Listings, single reads and the members of a team are each decided by a test of its own, and reading
one user by name is looser for a manager than its listing. All of them keep to the hierarchy: what a
caller is shown has a role that stands no higher than the role of the caller.

Main statement: whatever a live caller is answered by an operation that shows users, no user
anywhere in the answer has a higher role than the caller has at that time.
-/

namespace OrgAccess

theorem Role.level_le_admin (role : Role) : role.level ≤ Role.admin.level := by
  cases role <;> decide

theorem Role.employee_level_le (role : Role) : Role.employee.level ≤ role.level := by
  cases role <;> decide

namespace Operation

/-- An operation that shows its caller users or teams. -/
inductive ShowsTo (caller : Uuid) : Operation → Prop where
  | profile : ShowsTo caller (.profile caller)
  | listUsers : ShowsTo caller (.listUsers caller)
  | getUser {id} : ShowsTo caller (.getUser caller id)
  | listTeams : ShowsTo caller (.listTeams caller)
  | getTeam {team} : ShowsTo caller (.getTeam caller team)

/-- The users anywhere in what an operation gives. -/
def usersIn : (operation : Operation) → operation.Value → List PublicUser
  | register _ _, user | getUser _ _, user | updateUser _ _ _, user => [user]
  | login _ _, session => [session.user]
  | profile _, own => [own.user]
  | listUsers _, users => users
  | listTeams _, teams => teams.flatMap fun details => details.employees ++ details.managers
  | getTeam _ _, details => details.employees ++ details.managers
  | _, _ => []

end Operation

namespace Store

variable {store : Store} {viewer user : User}

theorem Distinct.level_le_of_permits (distinct : store.Distinct)
    (viewer_mem : viewer ∈ store.users) (mem : user ∈ store.users)
    (permits : (store.actor viewer).userVisibility.permits user = true) :
    user.role.level ≤ viewer.role.level := by
  by_cases isAdmin : viewer.role = .admin
  · rw [isAdmin]
    exact user.role.level_le_admin
  · rcases (distinct.permits_iff isAdmin).mp permits with same | ⟨isEmployee, _⟩
    · exact Nat.le_of_eq (congrArg (·.role.level) (distinct.user_eq mem viewer_mem same))
    · rw [isEmployee]
      exact viewer.role.employee_level_le

theorem Distinct.level_le_of_mayReadUser (distinct : store.Distinct)
    (viewer_mem : viewer ∈ store.users) (mem : user ∈ store.users)
    (mayRead : (store.actor viewer).mayReadUser user = true) :
    user.role.level ≤ viewer.role.level := by
  unfold Actor.mayReadUser actor at mayRead
  cases isRole : viewer.role with
  | admin => exact user.role.level_le_admin
  | manager =>
      -- A manager may read anyone but admins, which is more than its listing shows.
      have notAdmin : user.role ≠ .admin := by simpa [isRole] using mayRead
      cases role : user.role with
      | admin => exact absurd role notAdmin
      | manager | employee => decide
  | employee =>
      simp only [isRole, Bool.or_eq_true, beq_iff_eq, Bool.and_eq_true] at mayRead
      rcases mayRead with same | ⟨⟨isEmployee, _⟩, _⟩
      · obtain rfl := distinct.user_eq mem viewer_mem same
        exact Nat.le_of_eq (congrArg Role.level isRole)
      · exact Nat.le_of_eq (congrArg Role.level isEmployee)

/-- The members with whom a team is shown stand no higher than the one whom it is shown to. -/
theorem Distinct.level_le_of_teamDetails (distinct : store.Distinct)
    (viewer_mem : viewer ∈ store.users) (team : Team) {shown : PublicUser}
    (mem : shown ∈ (store.teamDetails (store.actor viewer) team).employees ++
      (store.teamDetails (store.actor viewer) team).managers) :
    shown.role.level ≤ viewer.role.level := by
  have member {members : List User} (stored : ∀ user ∈ members, user ∈ store.users)
      (mem : shown ∈ (members.filter (store.actor viewer).userVisibility.permits).map
        User.toPublic) : shown.role.level ≤ viewer.role.level := by
    rcases List.mem_map.mp mem with ⟨user, listed, rfl⟩
    rcases List.mem_filter.mp listed with ⟨listed, permits⟩
    exact distinct.level_le_of_permits viewer_mem (stored user listed) permits
  rcases List.mem_append.mp mem with mem | mem
  · exact member (fun user mem => (List.mem_filter.mp mem).1) mem
  · exact member (fun user mem => (List.mem_filter.mp mem).1) mem

theorem exists_of_userFor {actor : Actor} {id : Uuid} {shown : PublicUser}
    (told : store.userFor actor id = .ok shown) :
    ∃ user ∈ store.users, actor.mayReadUser user = true ∧ shown = user.toPublic := by
  unfold userFor at told
  split at told
  · cases told
  · rename_i user found
    split at told
    · rename_i mayRead
      exact ⟨user, mem_of_liveUser? found, mayRead, (Except.ok.inj told).symm⟩
    · cases told

theorem exists_of_teamFor {actor : Actor} {id : Uuid} {details : TeamDetails}
    (told : store.teamFor actor id = .ok details) :
    ∃ team, details = store.teamDetails actor team := by
  unfold teamFor at told
  split at told
  · cases told
  · rename_i team found
    split at told
    · exact ⟨team, (Except.ok.inj told).symm⟩
    · cases told

end Store

/--
Whatever a live caller is answered by an operation that shows users, no user in the answer has a
higher role than the caller.
-/
theorem shown_roles_bounded {store : Store} (reachable : store.Reachable) {caller : Uuid}
    {viewer : User} (found : store.liveUser? caller = some viewer) {operation : Operation}
    (shows : operation.ShowsTo caller) (hasher : Hasher) (tokens : TokenService)
    (moments : Nat → Moment) (tick : Nat) {value : operation.Value}
    (answered : (operation.program.run ((System.inMemory hasher tokens).handler moments)
      ⟨store, tick⟩).1 = .ok value) :
    ∀ shown ∈ operation.usersIn value, shown.role.level ≤ viewer.role.level := by
  intro shown mem
  have distinct := reachable.distinct
  have viewer_mem := Store.mem_of_liveUser? found
  cases shows with
  | profile =>
      rw [Operation.run_of_yields (Workflow.yields_profile found)] at answered
      cases answered
      rw [List.mem_singleton.mp mem]
      exact Nat.le_refl _
  | listUsers =>
      rw [run_listUsers found] at answered
      cases answered
      rcases List.mem_map.mp mem with ⟨user, visible, rfl⟩
      rcases List.mem_filter.mp visible with ⟨live, permits⟩
      exact distinct.level_le_of_permits viewer_mem (List.mem_filter.mp live).1 permits
  | getUser =>
      rw [Operation.run_of_yields (Workflow.yields_getUser found _)] at answered
      rcases Store.exists_of_userFor answered with ⟨user, user_mem, mayRead, rfl⟩
      rw [List.mem_singleton.mp mem]
      exact distinct.level_le_of_mayReadUser viewer_mem user_mem mayRead
  | listTeams =>
      rw [Operation.run_of_yields (Workflow.yields_listTeams found)] at answered
      cases answered
      rcases List.mem_flatMap.mp mem with ⟨details, listed, mem⟩
      rcases List.mem_map.mp listed with ⟨team, _, rfl⟩
      exact distinct.level_le_of_teamDetails viewer_mem team mem
  | getTeam =>
      rw [Operation.run_of_yields (Workflow.yields_getTeam found _)] at answered
      rcases Store.exists_of_teamFor answered with ⟨team, rfl⟩
      exact distinct.level_le_of_teamDetails viewer_mem team mem

/-- The manager of the small organisation reads its team, and neither of the two shown is an admin. -/
theorem staff_team_shown :
    let manager := staffMember 3 "manager@example.org" .manager none
    let member := staffMember 4 "member@example.org" .employee (some ⟨2⟩)
    let details : TeamDetails := {
      team := Store.newTeamRecord (.numbered 2)
        { name := "Core", description := none, createdBy := ⟨1⟩ }
      employees := [member.toPublic]
      managers := [manager.toPublic] }
    staff.Reachable ∧ staff.liveUser? ⟨3⟩ = some manager ∧
      (Operation.getTeam ⟨3⟩ ⟨2⟩).ShowsTo ⟨3⟩ ∧
      ((Operation.getTeam ⟨3⟩ ⟨2⟩).program.run ((System.inMemory .plain .unsigned).handler .numbered)
        ⟨staff, 7⟩).1 = .ok details ∧
      ∀ shown ∈ [member.toPublic, manager.toPublic], shown.role.level ≤ Role.manager.level := by
  intro manager member details
  have answered : ((Operation.getTeam ⟨3⟩ ⟨2⟩).program.run
      ((System.inMemory .plain .unsigned).handler .numbered) ⟨staff, 7⟩).1 = .ok details := by
    decide +kernel
  exact ⟨staff_reachable, staff_manager, .getTeam, answered,
    shown_roles_bounded staff_reachable staff_manager .getTeam .plain .unsigned .numbered 7 answered⟩

end OrgAccess
