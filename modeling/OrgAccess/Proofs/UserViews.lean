import OrgAccess.Proofs.Noninterference

/-!
# One view of the users

A caller meets other users in two places, the listing and a single read. The listing filters the
users by the visibility of the caller, a single read looks the user up and then asks the rule of
single reads, which is written on its own.

For every caller but a manager both rules are the same (`Actor.permits_eq_mayReadUser`). For a
manager the single read is looser, and it covers the listing as soon as the caller is found with the
role that its own row has.

Main statement: in a reachable store whoever is listed is read as it is listed, admins and employees
read no one else, a manager reads everyone but admins, and a live user who is not read is forbidden
while any other is not found.
-/

namespace OrgAccess

namespace Actor

variable {actor : Actor}

theorem permits_eq_mayReadUser (notManager : actor.role ≠ .manager) (user : User) :
    actor.userVisibility.permits user = actor.mayReadUser user := by
  unfold userVisibility mayReadUser isAdmin teamScope
  cases isRole : actor.role with
  | admin => rfl
  | manager => exact absurd isRole notManager
  | employee => cases placed : actor.teamId <;> simp [UserVisibility.permits, User.isEmployeeOf]

/-- A manager may read whom its listing shows, its own row being no admin's. -/
theorem mayReadUser_of_permits {user : User} (isManager : actor.role = .manager)
    (own : user.id = actor.id → user.role = .manager)
    (permitted : actor.userVisibility.permits user = true) : actor.mayReadUser user = true := by
  simp only [userVisibility, isAdmin, isManager, UserVisibility.permits, User.isEmployeeOf,
    reduceCtorEq, beq_iff_eq, if_false, Bool.or_eq_true, List.any_eq_true, Bool.and_eq_true]
    at permitted
  simp only [mayReadUser, isManager, bne_iff_ne, ne_eq]
  rcases permitted with self | ⟨_, _, isEmployee, _⟩
  · simp [own self]
  · simp [isEmployee]

end Actor

namespace Store

variable {store : Store} {viewer user : User} {id : Uuid}

theorem userFor_of_live (actor : Actor) (live : store.liveUser? id = some user) :
    store.userFor actor id =
      if actor.mayReadUser user then .ok user.toPublic else .error (.ofDenial .outOfReach) := by
  simp only [userFor, live]

theorem Distinct.mayReadUser_of_visible (distinct : store.Distinct)
    (viewer_mem : viewer ∈ store.users) (visible : user ∈ store.visibleUsers viewer) :
    (store.actor viewer).mayReadUser user = true := by
  rcases List.mem_filter.mp visible with ⟨mem, permitted⟩
  have stored : user ∈ store.users := (List.mem_filter.mp mem).1
  by_cases isManager : viewer.role = .manager
  · refine Actor.mayReadUser_of_permits isManager (fun self => ?_) permitted
    rw [distinct.user_eq stored viewer_mem self, isManager]
  · rwa [← Actor.permits_eq_mayReadUser isManager]

theorem Distinct.mem_visibleUsers_of_mayReadUser (distinct : store.Distinct)
    (notManager : viewer.role ≠ .manager) (live : store.liveUser? id = some user)
    (mayRead : (store.actor viewer).mayReadUser user = true) : user ∈ store.visibleUsers viewer := by
  rcases distinct.liveUser?_eq_some_iff.mp live with ⟨stored, isLive, _⟩
  rw [← Actor.permits_eq_mayReadUser notManager] at mayRead
  exact List.mem_filter.mpr ⟨List.mem_filter.mpr ⟨stored, isLive⟩, mayRead⟩

/-- Whoever is listed is read as it is listed. -/
theorem Distinct.userFor_of_listed (distinct : store.Distinct) (viewer_mem : viewer ∈ store.users)
    {shown : PublicUser} (listed : shown ∈ (store.visibleUsers viewer).map User.toPublic) :
    store.userFor (store.actor viewer) shown.id = .ok shown := by
  rcases List.mem_map.mp listed with ⟨user, visible, rfl⟩
  have live : store.liveUser? user.toPublic.id = some user := distinct.liveUser?_of_visible visible
  rw [userFor_of_live _ live, if_pos (distinct.mayReadUser_of_visible viewer_mem visible)]

/-- Except for a manager no one is read who is not listed. -/
theorem Distinct.listed_of_userFor (distinct : store.Distinct) (notManager : viewer.role ≠ .manager)
    {shown : PublicUser} (told : store.userFor (store.actor viewer) id = .ok shown) :
    shown ∈ (store.visibleUsers viewer).map User.toPublic ∧ shown.id = id := by
  cases live : store.liveUser? id with
  | none => simp [userFor, live] at told
  | some user =>
      rw [userFor_of_live _ live] at told
      split at told
      · rename_i mayRead
        cases told
        have visible := distinct.mem_visibleUsers_of_mayReadUser notManager live mayRead
        exact ⟨List.mem_map_of_mem visible, id_of_liveUser? live⟩
      · cases told

theorem userFor_cases (actor : Actor) (live : store.liveUser? id = some user) :
    store.userFor actor id = .ok user.toPublic ∨
      store.userFor actor id = .error (.forbidden Denial.outOfReach.message) := by
  rw [userFor_of_live _ live]
  split
  · exact Or.inl rfl
  · exact Or.inr rfl

theorem userFor_of_manager (isManager : viewer.role = .manager)
    (live : store.liveUser? id = some user) :
    (∃ shown, store.userFor (store.actor viewer) id = .ok shown) ↔ user.role ≠ .admin := by
  have mayRead : (store.actor viewer).mayReadUser user = true ↔ user.role ≠ .admin := by
    simp [Actor.mayReadUser, actor, isManager]
  rw [userFor_of_live _ live, ← mayRead]
  split <;> simp_all

end Store

/--
A live caller reads whom it is listed, and as it is listed. An admin or an employee reads no one
else, a manager every live user who is no admin. A live user who is not read is forbidden, and any
other is not found.
-/
theorem user_views_agree {store : Store} (reachable : store.Reachable) {caller : Uuid}
    {viewer : User} (found : store.liveUser? caller = some viewer) (hasher : Hasher)
    (tokens : TokenService) (moments : Nat → Moment) (tick : Nat) :
    let answer (operation : Operation) := (operation.program.run
      ((System.inMemory hasher tokens).handler moments) ⟨store, tick⟩).1
    ∃ listed : List PublicUser, answer (.listUsers caller) = .ok listed ∧
      (∀ shown ∈ listed, answer (.getUser caller shown.id) = .ok shown) ∧
      ∀ id,
        (viewer.role ≠ .manager → ∀ shown, answer (.getUser caller id) = .ok shown →
          shown ∈ listed ∧ shown.id = id) ∧
        (∀ user, store.liveUser? id = some user →
          (viewer.role = .manager →
            ((∃ shown, answer (.getUser caller id) = .ok shown) ↔ user.role ≠ .admin)) ∧
          (answer (.getUser caller id) = .ok user.toPublic ∨
            answer (.getUser caller id) = .error (.forbidden Denial.outOfReach.message))) ∧
        (store.liveUser? id = none → answer (.getUser caller id) = .error .userNotFound) := by
  intro answer
  have distinct := reachable.distinct
  have viewer_mem := Store.mem_of_liveUser? found
  have told (id : Uuid) : answer (.getUser caller id) = store.userFor (store.actor viewer) id :=
    Operation.run_of_yields (Workflow.yields_getUser found id) hasher tokens moments tick
  refine ⟨_, run_listUsers found hasher tokens moments tick, fun shown listed => ?_, fun id => ?_⟩
  · rw [told]
    exact distinct.userFor_of_listed viewer_mem listed
  · rw [told]
    refine ⟨fun notManager shown => distinct.listed_of_userFor notManager, fun user live => ?_,
      fun missing => ?_⟩
    · exact ⟨fun isManager => Store.userFor_of_manager isManager live, Store.userFor_cases _ live⟩
    · simp only [Store.userFor, missing]

/-- The manager reads the employee without a team, whom it is not listed, but not the admin. -/
theorem staff_user_views :
    let manager := staffMember 3 "manager@example.org" .manager none
    let loner := staffMember 5 "loner@example.org" .employee none
    let answer (operation : Operation) := (operation.program.run
      ((System.inMemory .plain .unsigned).handler .numbered) ⟨staff, 7⟩).1
    staff.Reachable ∧ staff.liveUser? ⟨3⟩ = some manager ∧
      (∃ listed, answer (.listUsers ⟨3⟩) = .ok listed ∧ loner.toPublic ∉ listed ∧
        (∀ shown ∈ listed, answer (.getUser ⟨3⟩ shown.id) = .ok shown)) ∧
      answer (.getUser ⟨3⟩ ⟨5⟩) = .ok loner.toPublic ∧
      answer (.getUser ⟨3⟩ ⟨1⟩) = .error (.forbidden "accès refusé") ∧
      answer (.getUser ⟨3⟩ ⟨9⟩) = .error .userNotFound := by
  intro manager loner answer
  rcases user_views_agree staff_reachable staff_manager .plain .unsigned .numbered 7 with
    ⟨listed, isListed, same, single⟩
  have found : staff.liveUser? ⟨5⟩ = some loner := by decide +kernel
  have isAdmin : staff.liveUser? ⟨1⟩ =
      some (staffMember 1 "admin@example.org" .admin none) := by decide +kernel
  refine ⟨staff_reachable, staff_manager, ⟨listed, isListed, ?_, same⟩, ?_, ?_, ?_⟩
  · have evaluated :=
      isListed.symm.trans (run_listUsers staff_manager .plain .unsigned .numbered 7)
    cases evaluated
    decide +kernel
  · rcases (single ⟨5⟩).2.1 loner found with ⟨reads, told | told⟩
    · exact told
    · obtain ⟨shown, isShown⟩ := (reads rfl).mpr (by decide)
      exact absurd (told.symm.trans isShown) (by simp)
  · rcases (single ⟨1⟩).2.1 _ isAdmin with ⟨reads, told | told⟩
    · exact absurd rfl ((reads rfl).mp ⟨_, told⟩)
    · exact told
  · exact (single ⟨9⟩).2.2 (by decide +kernel)

end OrgAccess
