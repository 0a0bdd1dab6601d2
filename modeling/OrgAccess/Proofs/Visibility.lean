import OrgAccess.Proofs.Reading

/-!
# Whom a caller sees

`Store.MaySee` reads off the tables alone who may see whom in a listing: an admin sees everyone, a
manager itself and the employees of the live teams that it is linked to, an employee itself and the
employees of its team as long as the team is live. `Store.scopeTeams` are those teams.

The code takes a way of its own: it looks the caller up with its teams, derives a visibility and
filters the users by it. Where identifiers are unique both come to the same
(`Store.Distinct.permits_iff`).

Main statement: in a reachable store the listing for a live caller shows exactly the live users whom
it may see, once each and oldest first, and right after a team was deleted no member of it is shown
to anyone else but admins.
-/

namespace OrgAccess

namespace Store

/-- Whether a team is one of a user's own, be it as its employee or as its manager. -/
def isInScope (store : Store) (user : User) (team : Team) : Bool :=
  match user.role with
  | .admin => false
  | .manager => store.isLinked team.id user.id
  | .employee => user.teamId == some team.id

/-- The live teams of a user, oldest first. -/
def scopeTeams (store : Store) (user : User) : List Team :=
  store.liveTeams.filter (store.isInScope user)

/-- The live users whom the visibility of a caller permits, oldest first. -/
def visibleUsers (store : Store) (viewer : User) : List User :=
  store.liveUsers.filter (store.actor viewer).userVisibility.permits

/-- Whom a user may see in a listing, as the tables tell. -/
def MaySee (store : Store) (viewer user : User) : Prop :=
  match viewer.role with
  | .admin => True
  | .manager =>
    user = viewer ∨
      user.role = .employee ∧ ∃ team ∈ store.teams, team.isLive = true ∧
        user.teamId = some team.id ∧ ⟨team.id, viewer.id⟩ ∈ store.links
  | .employee =>
    user = viewer ∨
      user.role = .employee ∧ user.teamId = viewer.teamId ∧
        ∃ team ∈ store.teams, team.isLive = true ∧ user.teamId = some team.id

variable {store : Store} {viewer user : User} {team : Team}

theorem mem_scopeTeams_iff :
    team ∈ store.scopeTeams viewer ↔
      team ∈ store.teams ∧ team.isLive = true ∧ store.isInScope viewer team = true := by
  rw [scopeTeams, List.mem_filter, liveTeams, List.mem_filter, and_assoc]

/-- Where only one item of a list passes a test, the test leaves that one. -/
theorem filter_eq_toList_find? {α κ : Type} {key : α → κ} {test : α → Bool} {items : List α}
    (nodup : (items.map key).Nodup)
    (same_key : ∀ first second, test first = true → test second = true → key first = key second) :
    items.filter test = (items.find? test).toList := by
  induction items with
  | nil => rfl
  | cons item items ih =>
      rw [List.map_cons, List.nodup_cons] at nodup
      cases passes : test item with
      | false => simp [passes, ih nodup.2]
      | true =>
          have rest : items.filter test = [] := by
            refine List.filter_eq_nil_iff.mpr fun other mem other_passes => nodup.1 ?_
            rw [same_key item other passes other_passes]
            exact List.mem_map_of_mem mem
          simp [passes, rest]

theorem Distinct.filter_isLiveTeam (distinct : store.Distinct) (id : Uuid) :
    store.teams.filter (isLiveTeam id) = (store.liveTeam? id).toList := by
  refine filter_eq_toList_find? distinct.teams fun first second passes other_passes => ?_
  rw [isLiveTeam_iff] at passes other_passes
  exact passes.2.trans other_passes.2.symm

/-- The teams with which a caller is found are the live ones of its scope. -/
theorem Distinct.teamScope_actor (distinct : store.Distinct) (viewer : User) :
    (store.actor viewer).teamScope = (store.scopeTeams viewer).map Team.id := by
  unfold actor Actor.teamScope scopeTeams isInScope liveTeams
  cases isRole : viewer.role with
  | admin => simp
  | manager => simp [managedTeamIds, List.filter_filter, Bool.and_comm]
  | employee =>
      cases placed : viewer.teamId with
      | none => simp
      | some id =>
          -- One team is looked up here and filtered out there, and no other has its identifier.
          have same_test : (fun team : Team => (some id == some team.id) && team.isLive) =
              isLiveTeam id := by
            funext team
            rw [isLiveTeam, Option.some_beq_some, BEq.comm]
          simp only [List.filter_filter, same_test, distinct.filter_isLiveTeam, Option.toList_map]

theorem listUsers_eq (store : Store) (visibility : UserVisibility) :
    store.listUsers visibility = store.liveUsers.filter visibility.permits := by
  simp only [listUsers, liveUsers, List.filter_filter, Bool.and_comm]

theorem isAdmin_actor (viewer : User) :
    (store.actor viewer).isAdmin = true ↔ viewer.role = .admin := by
  simp [Actor.isAdmin, actor]

theorem permits_of_admin (isAdmin : viewer.role = .admin) (user : User) :
    (store.actor viewer).userVisibility.permits user = true := by
  rw [Actor.userVisibility, if_pos (isAdmin_actor viewer |>.mpr isAdmin)]
  rfl

theorem Distinct.permits_iff (distinct : store.Distinct) (notAdmin : viewer.role ≠ .admin) :
    (store.actor viewer).userVisibility.permits user = true ↔
      user.id = viewer.id ∨
        user.role = .employee ∧ ∃ team ∈ store.scopeTeams viewer, user.teamId = some team.id := by
  rw [Actor.userVisibility, if_neg (mt (isAdmin_actor viewer).mp notAdmin),
    distinct.teamScope_actor]
  simp only [UserVisibility.permits, User.isEmployeeOf, actor, Bool.or_eq_true, beq_iff_eq,
    List.any_eq_true, List.mem_map, Bool.and_eq_true]
  constructor
  · rintro (same | ⟨_, ⟨team, mem, rfl⟩, isEmployee, placed⟩)
    · exact Or.inl same
    · exact Or.inr ⟨isEmployee, team, mem, placed⟩
  · rintro (same | ⟨isEmployee, team, mem, placed⟩)
    · exact Or.inl same
    · exact Or.inr ⟨team.id, ⟨team, mem, rfl⟩, isEmployee, placed⟩

/-- The visibility of a caller permits those live users whom the tables let it see. -/
theorem Distinct.mem_visibleUsers_iff (distinct : store.Distinct) (viewer_mem : viewer ∈ store.users) :
    user ∈ store.visibleUsers viewer ↔
      user ∈ store.users ∧ user.isLive = true ∧ store.MaySee viewer user := by
  have self (mem : user ∈ store.users) : user.id = viewer.id ↔ user = viewer :=
    ⟨distinct.user_eq mem viewer_mem, congrArg User.id⟩
  rw [visibleUsers, List.mem_filter, liveUsers, List.mem_filter, and_assoc]
  refine and_congr_right fun mem => and_congr_right fun _ => ?_
  unfold MaySee
  cases isRole : viewer.role with
  | admin => simp [permits_of_admin isRole user]
  | manager =>
      rw [distinct.permits_iff (by simp [isRole]), self mem]
      simp only [mem_scopeTeams_iff, isInScope, isRole, isLinked, List.contains_iff_mem]
      refine or_congr_right (and_congr_right fun _ => exists_congr fun team => ?_)
      tauto
  | employee =>
      rw [distinct.permits_iff (by simp [isRole]), self mem]
      simp only [mem_scopeTeams_iff, isInScope, isRole, beq_iff_eq]
      refine or_congr_right (and_congr_right fun _ => ?_)
      constructor
      · rintro ⟨team, ⟨mem, live, own⟩, placed⟩
        exact ⟨placed.trans own.symm, team, mem, live, placed⟩
      · rintro ⟨together, team, mem, live, placed⟩
        exact ⟨team, ⟨mem, live, together.symm.trans placed⟩, placed⟩

/-- Whoever else is shown to a caller who is no admin belongs to a live team. -/
theorem MaySee.exists_team (sees : store.MaySee viewer user) (notAdmin : viewer.role ≠ .admin)
    (other : user ≠ viewer) :
    ∃ team ∈ store.teams, team.isLive = true ∧ user.teamId = some team.id := by
  unfold MaySee at sees
  cases isRole : viewer.role with
  | admin => exact absurd isRole notAdmin
  | manager =>
      rw [isRole] at sees
      rcases sees with same | ⟨_, team, mem, live, placed, _⟩
      · exact absurd same other
      · exact ⟨team, mem, live, placed⟩
  | employee =>
      rw [isRole] at sees
      rcases sees with same | ⟨_, _, seen⟩
      · exact absurd same other
      · exact seen

/-! ## Deleting a team -/

theorem liveUser?_after_deleteTeam (store : Store) (moment : Moment) (team id : Uuid) :
    (store.after ⟨moment, .deleteTeam team⟩).liveUser? id = store.liveUser? id := by
  simp only [after, perform, deleteTeam, answered]
  split <;> rfl

theorem isFresh_deleteTeam (store : Store) (moment : Moment) (team : Uuid) :
    TimedCall.IsFresh ⟨moment, .deleteTeam team⟩ store :=
  ⟨by simp [TimedCall.userId?], by simp [TimedCall.teamId?]⟩

theorem Distinct.isLive_after_deleteTeam (distinct : store.Distinct) (moment : Moment) {id : Uuid}
    (mem : team ∈ (store.after ⟨moment, .deleteTeam id⟩).teams) (named : team.id = id) :
    team.isLive = false := by
  have distinct_after := distinct.after (store.isFresh_deleteTeam moment id)
  revert mem distinct_after
  simp only [Store.after, perform, deleteTeam, answered]
  cases found : store.liveTeam? id with
  | none =>
      intro mem _
      refine eq_false_of_ne_true fun live => ?_
      rw [distinct.liveTeam?_eq_some_iff.mpr ⟨mem, live, named⟩] at found
      cases found
  | some old =>
      intro mem distinct_after
      have marked : { old with deletedAt := some moment.now } ∈ (store.modifyTeam id
          fun team => { team with deletedAt := some moment.now }).teams :=
        changed_mem_updateFirst found
      rw [distinct_after.team_eq mem marked (named.trans (id_of_liveTeam? found).symm)]
      rfl

end Store

/-- What a listing answers on behalf of a live caller. -/
theorem run_listUsers {store : Store} {caller : Uuid} {viewer : User}
    (found : store.liveUser? caller = some viewer) (hasher : Hasher) (tokens : TokenService)
    (moments : Nat → Moment) (tick : Nat) :
    ((Operation.listUsers caller).program.run ((System.inMemory hasher tokens).handler moments)
      ⟨store, tick⟩).1 = .ok ((store.visibleUsers viewer).map User.toPublic) := by
  rw [Store.visibleUsers, ← Store.listUsers_eq]
  exact Operation.run_of_yields (Workflow.yields_listUsers found) hasher tokens moments tick

/--
A live caller is shown exactly the live users whom it may see, once each and oldest first, and no
member of a team that has just been deleted to anyone but itself and admins.
-/
theorem listing_shows_visible {store : Store} (reachable : store.Reachable) {caller : Uuid}
    {viewer : User} (found : store.liveUser? caller = some viewer) (hasher : Hasher)
    (tokens : TokenService) (moments : Nat → Moment) (tick : Nat) :
    let listing (store : Store) := ((Operation.listUsers caller).program.run
      ((System.inMemory hasher tokens).handler moments) ⟨store, tick⟩).1
    (∃ shown : List User, listing store = .ok (shown.map User.toPublic) ∧
      shown.Sublist store.users ∧ (shown.map User.id).Nodup ∧
        ∀ user, user ∈ shown ↔
          user ∈ store.users ∧ user.isLive = true ∧ store.MaySee viewer user) ∧
      (viewer.role ≠ .admin → ∀ (team : Uuid) (moment : Moment),
        ∃ shown : List User,
          listing (store.after ⟨moment, .deleteTeam team⟩) = .ok (shown.map User.toPublic) ∧
            ∀ user ∈ shown, user.teamId = some team → user = viewer) := by
  intro listing
  have distinct := reachable.distinct
  constructor
  · have in_order : (store.visibleUsers viewer).Sublist store.users :=
      List.filter_sublist.trans List.filter_sublist
    refine ⟨store.visibleUsers viewer, run_listUsers found hasher tokens moments tick, in_order,
      distinct.users.sublist (in_order.map User.id), fun user => ?_⟩
    exact distinct.mem_visibleUsers_iff (Store.mem_of_liveUser? found)
  · intro notAdmin team moment
    have found_after : (store.after ⟨moment, .deleteTeam team⟩).liveUser? caller = some viewer :=
      (store.liveUser?_after_deleteTeam moment team caller).trans found
    refine ⟨_, run_listUsers found_after hasher tokens moments tick, fun user mem placed => ?_⟩
    have distinct_after := distinct.after (store.isFresh_deleteTeam moment team)
    have sees :=
      ((distinct_after.mem_visibleUsers_iff (Store.mem_of_liveUser? found_after)).mp mem).2.2
    refine Classical.byContradiction fun other => ?_
    rcases sees.exists_team notAdmin other with ⟨place, place_mem, live, placed_there⟩
    have named : place.id = team := Option.some.inj (placed_there.symm.trans placed)
    rw [distinct.isLive_after_deleteTeam moment place_mem named] at live
    cases live

/-- The account of a member of a small organisation. -/
def staffAccount (email : String) (role : Role) (teamId : Option Uuid) : NewUser :=
  { email, passwordHash := "", firstName := "Ada", lastName := "Byron", phoneNumber := none, role,
    createdBy := none, teamId }

/-- An admin, a team, the manager of the team and two employees, of whom one belongs to it. -/
def staffing : List TimedCall :=
  [⟨.numbered 1, .createUser (staffAccount "admin@example.org" .admin none)⟩,
    ⟨.numbered 2, .createTeam (.numbered 2) { name := "Core", description := none, createdBy := ⟨1⟩ }⟩,
    ⟨.numbered 3, .createUser (staffAccount "manager@example.org" .manager none)⟩,
    ⟨.numbered 4, .createUser (staffAccount "member@example.org" .employee (some ⟨2⟩))⟩,
    ⟨.numbered 5, .createUser (staffAccount "loner@example.org" .employee none)⟩,
    ⟨.numbered 6, .addManager ⟨2⟩ ⟨3⟩⟩]

/-- The small organisation that these calls build up. -/
def staff : Store :=
  ({} : Store).afterAll staffing

/-- The user of the small organisation whom a call at this moment has created. -/
def staffMember (number : Nat) (email : String) (role : Role) (teamId : Option Uuid) : User :=
  Store.newUserRecord (.numbered number) (staffAccount email role teamId)

theorem staff_reachable : staff.Reachable :=
  Store.Reachable.empty.afterAll (by decide +kernel)

theorem staff_manager :
    staff.liveUser? ⟨3⟩ = some (staffMember 3 "manager@example.org" .manager none) := by
  decide +kernel

/-- The manager is shown itself and the member of its team, and the member no more without it. -/
theorem staff_listing :
    let manager := staffMember 3 "manager@example.org" .manager none
    let member := staffMember 4 "member@example.org" .employee (some ⟨2⟩)
    let listing (store : Store) := ((Operation.listUsers ⟨3⟩).program.run
      ((System.inMemory .plain .unsigned).handler .numbered) ⟨store, 7⟩).1
    (∃ shown : List User, listing staff = .ok (shown.map User.toPublic) ∧
      manager ∈ shown ∧ member ∈ shown ∧ ∀ user ∈ shown, user.role ≠ .admin) ∧
      ∃ shown : List User,
        listing (staff.after ⟨.numbered 7, .deleteTeam ⟨2⟩⟩) = .ok (shown.map User.toPublic) ∧
          member ∉ shown := by
  intro manager member listing
  rcases listing_shows_visible staff_reachable staff_manager .plain .unsigned .numbered 7 with
    ⟨⟨shown, listed, _, _, exactly⟩, deleted⟩
  rcases deleted (by decide) ⟨2⟩ (.numbered 7) with ⟨shown_after, listed_after, only⟩
  refine ⟨⟨shown, listed, ?_, ?_, ?_⟩, shown_after, listed_after, ?_⟩
  · exact (exactly manager).mpr ⟨by decide +kernel, rfl, Or.inl rfl⟩
  · refine (exactly member).mpr ⟨by decide +kernel, rfl, Or.inr ⟨rfl, ?_⟩⟩
    exact ⟨_, List.mem_singleton.mpr rfl, rfl, rfl, by decide +kernel⟩
  · intro user mem isAdmin
    rcases ((exactly user).mp mem).2.2 with rfl | ⟨isEmployee, _⟩
    · cases isAdmin
    · cases isAdmin.symm.trans isEmployee
  · intro mem
    have same := only member mem rfl
    revert same
    decide +kernel

end OrgAccess
