import OrgAccess.Proofs.Clients
import OrgAccess.Proofs.Rows

/-!
# The order of an organisation under interleaving

A linked user should be a manager and a user with a team an employee. Adding a manager and changing
a user check this in one call on the store and write in a later one. A write whose check no longer
holds when it comes is overtaken (`Turn.IsOvertaken`), and the order of the organisation is kept in
a run exactly as long as none is: creating accounts and every other change keep it by themselves.

A write is overtaken only when another client has changed or deleted the same user between the
check and the write.
-/

namespace OrgAccess

/-- Whether a user with an identifier has the role of a manager, deleted or not. -/
def Store.HasManager (store : Store) (id : Uuid) : Prop :=
  ∃ user ∈ store.users, user.id = id ∧ user.role = .manager

/-- Linked users are managers, and users with a team are employees. -/
structure Store.Organised (store : Store) : Prop where
  managers : ∀ link ∈ store.links, store.HasManager link.manager
  employees : ∀ user ∈ store.users, user.role = .employee ∨ user.teamId = none

instance (store : Store) (id : Uuid) : Decidable (store.HasManager id) :=
  inferInstanceAs (Decidable (∃ user ∈ store.users, user.id = id ∧ user.role = .manager))

instance (store : Store) : Decidable store.Organised :=
  decidable_of_iff
    ((∀ link ∈ store.links, store.HasManager link.manager) ∧
      ∀ user ∈ store.users, user.role = .employee ∨ user.teamId = none)
    ⟨fun ⟨managers, employees⟩ => ⟨managers, employees⟩,
      fun organised => ⟨organised.managers, organised.employees⟩⟩

/-- Whether a write no longer fits the user whom it concerns. -/
def Turn.IsOvertaken (turn : Turn) : Prop :=
  match turn.exchange with
  | ⟨.store (.addManager _ manager), _⟩ => ¬turn.before.store.HasManager manager
  | ⟨.store (.updateUser id changes), .ok (some _)⟩ =>
    ∃ user, turn.before.store.liveUser? id = some user ∧ ¬changes.KeepsPlace user
  | _ => False

/-- Changes that do not name another role leave a manager one. -/
theorem UserChanges.role_of_stays {changes : UserChanges} {user : User} {now : Instant}
    (stays : ¬changes.leavesManagerRole = true) (isManager : user.role = .manager) :
    (changes.apply now user).role = .manager := by
  cases named : changes.role with
  | none => simpa [UserChanges.apply, named] using isManager
  | some role => simpa [UserChanges.leavesManagerRole, UserChanges.apply, named] using stays

/-- The user whom a write with an earlier check concerns. -/
def Turn.subject? (turn : Turn) : Option Uuid :=
  match turn.exchange.effect with
  | .store (.addManager _ manager) => some manager
  | .store (.updateUser id _) => some id
  | _ => none

/-- Whether an exchange has changed or deleted a user. -/
def Exchange.Alters (exchange : Exchange) (id : Uuid) : Prop :=
  match exchange with
  | ⟨.store (.updateUser other _), .ok (some _)⟩ => other = id
  | ⟨.store (.deleteUser other), .ok true⟩ => other = id
  | _ => False

/-- Another client has altered a user after the check of a write and before the write. -/
def Turn.Intervenes (change : Turn) (log : List Turn) (write : Turn) (id : Uuid) : Prop :=
  change.exchange.Alters id ∧ change.position ≠ write.position ∧
    ∃ check ∈ log, check.position = write.position ∧
      check.exchange.effect = .store (.findUser id) ∧
        check.before.tick < change.before.tick ∧ change.before.tick < write.before.tick

theorem Exchange.Alters.isWrite {exchange : Exchange} {id : Uuid} (alters : exchange.Alters id) :
    exchange.effect.isWrite = true := by
  unfold Exchange.Alters at alters
  split at alters
  · rfl
  · rfl
  · exact alters.elim

theorem Turn.isOvertaken_updateUser {position : Nat} {before : World} {id : Uuid}
    {changes : UserChanges} {answer : Except StoreError (Option User)} :
    (Turn.mk position before ⟨.store (.updateUser id changes), answer⟩).IsOvertaken ↔
      (∃ updated, answer = .ok (some updated)) ∧
        ∃ user, before.store.liveUser? id = some user ∧ ¬changes.KeepsPlace user := by
  rcases answer with error | _ | updated <;> simp [IsOvertaken]

namespace Store

variable {store : Store} {moment : Moment}

@[simp]
theorem organised_empty : ({} : Store).Organised :=
  ⟨by simp, by simp⟩

theorem HasManager.modifyUser {id manager : Uuid} {change : User → User}
    (has : store.HasManager manager)
    (keeps : ∀ user, store.liveUser? id = some user →
      (change user).id = user.id ∧
        (user.id = manager → user.role = .manager → (change user).role = .manager)) :
    (store.modifyUser id change).HasManager manager := by
  rcases has with ⟨user, mem, named, isManager⟩
  rcases mem_updateFirst_of_mem (isLiveUser id) change mem with
    mem | ⟨found, mem⟩
  · exact ⟨user, mem, named, isManager⟩
  · rcases keeps user found with ⟨same_id, stays_manager⟩
    exact ⟨change user, mem, same_id.trans named, stays_manager named isManager⟩

theorem Organised.modifyUser {id : Uuid} {change : User → User} (organised : store.Organised)
    (keeps : ∀ user, store.liveUser? id = some user →
      (change user).id = user.id ∧ (change user).role = user.role ∧
        (change user).teamId = user.teamId) :
    (store.modifyUser id change).Organised := by
  refine ⟨fun link mem => ?_, fun user mem => ?_⟩
  · apply (organised.managers link mem).modifyUser
    intro user found
    rcases keeps user found with ⟨same_id, same_role, _⟩
    exact ⟨same_id, fun _ isManager => same_role.trans isManager⟩
  · rcases mem_updateFirst mem with mem | ⟨old, found, rfl⟩
    · exact organised.employees user mem
    · rcases keeps old found with ⟨_, same_role, same_team⟩
      rw [same_role, same_team]
      exact organised.employees old (mem_of_liveUser? found)

theorem Organised.updateUser {id : Uuid} {changes : UserChanges} (organised : store.Organised)
    (fits : ∀ updated, (store.updateUser moment id changes).1 = .ok (some updated) →
      ∀ user, store.liveUser? id = some user → changes.KeepsPlace user) :
    (store.updateUser moment id changes).2.Organised := by
  rcases store.updateUser_cases moment id changes with ⟨_, unchanged⟩ | ⟨user, found, made⟩
  · rw [unchanged]
    exact organised
  · have place : changes.KeepsPlace user := by
      apply fits (changes.apply moment.now user) _ user found
      rw [made]
    rw [made]
    refine ⟨fun link mem => ?_, fun other mem => ?_⟩
    · have linked : link ∈ store.links ∧ (changes.leavesManagerRole = true → link.manager ≠ id) := by
        dsimp only at mem
        split at mem
        · rename_i leaves
          simpa [leaves] using mem
        · rename_i stays
          exact ⟨mem, fun leaves => absurd leaves stays⟩
      apply (organised.managers link linked.1).modifyUser
      intro user found
      refine ⟨rfl, fun named isManager => ?_⟩
      have stays : ¬changes.leavesManagerRole = true := fun leaves =>
        linked.2 leaves (named.symm.trans (id_of_liveUser? found))
      exact changes.role_of_stays stays isManager
    · rcases mem_updateFirst mem with mem | ⟨old, found_old, rfl⟩
      · exact organised.employees other mem
      · obtain rfl : user = old := Option.some.inj (found.symm.trans found_old)
        exact place

theorem Organised.createUser {data : NewUser} (organised : store.Organised)
    (placed : data.role = .employee ∨ data.teamId = none) :
    (store.createUser moment data).2.Organised := by
  unfold Store.createUser
  split
  · exact organised
  · refine ⟨fun link mem => ?_, fun user mem => ?_⟩
    · rcases organised.managers link mem with ⟨user, mem, isManager⟩
      exact ⟨user, List.mem_append_left _ mem, isManager⟩
    · rcases List.mem_append.mp mem with mem | mem
      · exact organised.employees user mem
      · rw [List.mem_singleton.mp mem]
        exact placed

theorem users_addManager (store : Store) (team manager : Uuid) :
    (store.addManager team manager).users = store.users := by
  unfold Store.addManager
  split <;> rfl

theorem linked_addManager (store : Store) (team manager : Uuid) :
    ⟨team, manager⟩ ∈ (store.addManager team manager).links := by
  unfold Store.addManager
  split
  · rename_i linked
    simpa [isLinked] using linked
  · simp

theorem Organised.addManager {team manager : Uuid} (organised : store.Organised)
    (has : store.HasManager manager) : (store.addManager team manager).Organised := by
  unfold Store.addManager
  split
  · exact organised
  · refine ⟨fun link mem => ?_, organised.employees⟩
    rcases List.mem_append.mp mem with mem | mem
    · exact organised.managers link mem
    · rw [List.mem_singleton.mp mem]
      exact has

/-- A call on an organised store keeps the order exactly if it is not overtaken. -/
theorem organised_perform_iff {position tick : Nat} {call : StoreCall}
    (organised : store.Organised)
    (created : ∀ data, call = .createUser data → data.role = .employee ∨ data.teamId = none) :
    (store.perform moment call).2.Organised ↔
      ¬(Turn.mk position ⟨store, tick⟩ ⟨.store call, (store.perform moment call).1⟩).IsOvertaken := by
  have kept (after : (store.perform moment call).2.Organised)
      (inTime : (Turn.mk position ⟨store, tick⟩
        ⟨.store call, (store.perform moment call).1⟩).IsOvertaken = False) :
      (store.perform moment call).2.Organised ↔
        ¬(Turn.mk position ⟨store, tick⟩
          ⟨.store call, (store.perform moment call).1⟩).IsOvertaken := by
    rw [inTime]
    exact ⟨fun _ => not_false, fun _ => after⟩
  cases call with
  | createUser data => exact kept (organised.createUser (created data rfl)) rfl
  | updateUser id changes =>
      rw [Turn.isOvertaken_updateUser]
      constructor
      · rintro after ⟨⟨updated, answered⟩, user, found, misplaced⟩
        rcases store.updateUser_cases moment id changes with ⟨unmade, _⟩ | ⟨user', found', made⟩
        · exact unmade updated answered
        · obtain rfl : user = user' := Option.some.inj (found.symm.trans found')
          rw [perform, made] at after
          exact misplaced (after.employees _ (changed_mem_updateFirst found))
      · intro inTime
        refine organised.updateUser fun updated answered user found => ?_
        refine Classical.byContradiction fun misplaced => inTime ?_
        exact ⟨⟨updated, answered⟩, user, found, misplaced⟩
  | addManager team manager =>
      constructor
      · intro after overtaken
        apply overtaken
        rcases after.managers _ (linked_addManager store team manager) with ⟨user, mem, isManager⟩
        rw [perform, users_addManager] at mem
        exact ⟨user, mem, isManager⟩
      · intro inTime
        exact organised.addManager (Classical.not_not.mp inTime)
  | deleteUser id =>
      refine kept ?_ rfl
      simp only [perform, Store.deleteUser, answered]
      split
      · exact organised
      · exact organised.modifyUser fun _ _ => ⟨rfl, rfl, rfl⟩
  | storeRefreshToken id token expiresAt =>
      refine kept ?_ rfl
      simp only [perform, Store.storeRefreshToken, answered]
      split
      · exact organised
      · exact organised.modifyUser fun _ _ => ⟨rfl, rfl, rfl⟩
  | rotateRefreshToken id old new expiresAt =>
      refine kept ?_ rfl
      simp only [perform, Store.rotateRefreshToken, answered]
      split
      · exact organised
      · split
        · exact organised.modifyUser fun _ _ => ⟨rfl, rfl, rfl⟩
        · exact organised
  | revokeRefreshToken id => exact kept (organised.modifyUser fun _ _ => ⟨rfl, rfl, rfl⟩) rfl
  | updateTeam _ _ | deleteTeam _ =>
      refine kept ?_ rfl
      simp only [perform, Store.updateTeam, Store.deleteTeam, answered]
      split
      · exact organised
      · exact ⟨organised.managers, organised.employees⟩
  | createTeam stamp data => exact kept ⟨organised.managers, organised.employees⟩ rfl
  | removeManager team manager =>
      refine kept ⟨fun link mem => ?_, organised.employees⟩ rfl
      exact organised.managers link (List.mem_filter.mp mem).1
  | adminExists | findUser _ | findUserByEmail _ | listUsers _ | findTeam _ | listTeams _
  | managedTeamIds _ | listEmployees _ | listManagers _ | ping => exact kept organised rfl

/-! ## What others leave alone -/

theorem hasManager_of_step {id : Uuid} {exchange : Exchange} {users : List User}
    (has : store.HasManager id) (step : UserStep store moment exchange users)
    (unaltered : ¬exchange.Alters id) : ∃ user ∈ users, user.id = id ∧ user.role = .manager := by
  cases step with
  | keep idle => exact has
  | create =>
      rcases has with ⟨user, mem, isManager⟩
      exact ⟨user, List.mem_append_left _ mem, isManager⟩
  | update found =>
      apply has.modifyUser
      intro user found
      refine ⟨rfl, fun named _ => absurd ?_ unaltered⟩
      exact (id_of_liveUser? found).symm.trans named
  | delete found => exact has.modifyUser fun user _ => ⟨rfl, fun _ isManager => isManager⟩
  | openSession found => exact has.modifyUser fun user _ => ⟨rfl, fun _ isManager => isManager⟩
  | renewSession found current =>
      exact has.modifyUser fun user _ => ⟨rfl, fun _ isManager => isManager⟩
  | closeSession => exact has.modifyUser fun user _ => ⟨rfl, fun _ isManager => isManager⟩

theorem place_of_step {id : Uuid} {exchange : Exchange} {users : List User} {user : User}
    (found : store.liveUser? id = some user) (step : UserStep store moment exchange users)
    (unaltered : ¬exchange.Alters id) :
    ∃ after, users.find? (isLiveUser id) = some after ∧ after.role = user.role ∧
      after.teamId = user.teamId := by
  have of_other {other : Uuid} {change : User → User} (keeps : ∀ user, (change user).id = user.id)
      (apart : id ≠ other) :
      ∃ after, (store.modifyUser other change).liveUser? id = some after ∧
        after.role = user.role ∧ after.teamId = user.teamId :=
    ⟨user, (liveUser?_modifyUser_other keeps apart).trans found, rfl, rfl⟩
  have of_session {other : Uuid} {change : User → User}
      (keeps : ∀ user, (change user).id = user.id ∧ (change user).deletedAt = user.deletedAt)
      (place : ∀ user, (change user).role = user.role ∧ (change user).teamId = user.teamId) :
      ∃ after, (store.modifyUser other change).liveUser? id = some after ∧
        after.role = user.role ∧ after.teamId = user.teamId := by
    by_cases same : id = other
    · subst same
      refine ⟨change user, ?_, place user⟩
      rw [liveUser?_modifyUser_self keeps, found]
      rfl
    · exact of_other (fun user => (keeps user).1) same
  cases step with
  | keep idle => exact ⟨user, found, rfl, rfl⟩
  | create =>
      refine ⟨user, ?_, rfl, rfl⟩
      rw [List.find?_append, show store.users.find? (isLiveUser id) = some user from found]
      rfl
  | update found => exact of_other (fun _ => rfl) fun same => unaltered same.symm
  | delete found => exact of_other (fun _ => rfl) fun same => unaltered same.symm
  | openSession found => exact of_session (fun _ => ⟨rfl, rfl⟩) fun _ => ⟨rfl, rfl⟩
  | renewSession found current => exact of_session (fun _ => ⟨rfl, rfl⟩) fun _ => ⟨rfl, rfl⟩
  | closeSession => exact of_session (fun _ => ⟨rfl, rfl⟩) fun _ => ⟨rfl, rfl⟩

end Store

namespace SideBySide

variable {hasher : Hasher} {tokens : TokenService} {moments : Nat → Moment}
  {operations : List Operation} {now : List (Program Outcome)} {world : World}
  {log earlier later : List Turn} {turn : Turn}

/-- Accounts are created with a team only for employees. -/
theorem created_placed (run : SideBySide hasher tokens moments operations log now world)
    (mem : turn ∈ log) {data : NewUser} (creates : turn.exchange.effect = .store (.createUser data)) :
    data.role = .employee ∨ data.teamId = none := by
  rcases List.append_of_mem mem with ⟨earlier, later, parts⟩
  rcases (run.write_justified parts creates rfl).2 with ⟨operation, _, because⟩
  exact because.of_createUser

/-- The order is kept in every state of a run exactly if none of its writes is overtaken. -/
theorem organised_iff (run : SideBySide hasher tokens moments operations log now world) :
    ((∀ turn ∈ log, turn.before.store.Organised) ∧ world.store.Organised) ↔
      ∀ turn ∈ log, ¬turn.IsOvertaken := by
  induction run with
  | start => simp
  | @turn log now world position effect next run calls ih =>
      let handler := (System.inMemory hasher tokens).handler moments
      let last : Turn := ⟨position, world, ⟨effect, (handler.step effect world).1⟩⟩
      have step : world.store.Organised →
          ((handler.step effect world).2.store.Organised ↔ ¬last.IsOvertaken) := by
        intro organised
        cases effect with
        | store call =>
            refine Store.organised_perform_iff organised fun data creates => ?_
            subst creates
            exact created_placed (run.turn calls) (List.mem_append_right log List.mem_cons_self) rfl
        | checkToken kind token => cases kind <;> exact iff_of_true organised id
        | _ => exact iff_of_true organised id
      constructor
      · rintro ⟨before, after⟩ turn mem
        have before_last : world.store.Organised := before last (by simp [last, handler])
        rcases List.mem_append.mp mem with mem | mem
        · refine ih.mp ⟨fun earlier mem => ?_, before_last⟩ turn mem
          exact before earlier (List.mem_append_left _ mem)
        · rw [List.mem_singleton.mp mem]
          exact (step before_last).mp after
      · intro inTime
        rcases ih.mpr fun turn mem => inTime turn (List.mem_append_left _ mem) with
          ⟨before, before_last⟩
        refine ⟨fun turn mem => ?_, ?_⟩
        · rcases List.mem_append.mp mem with mem | mem
          · exact before turn mem
          · rw [List.mem_singleton.mp mem]
            exact before_last
        · exact (step before_last).mpr (inTime last (by simp [last, handler]))

/-- What the store no longer holds though others left the user alone was not there before. -/
theorem altered_of_loss (run : SideBySide hasher tokens moments operations log now world)
    {holds : Store → Prop} {id : Uuid} {check : Turn}
    (kept : ∀ store moment (call : StoreCall), holds store →
      ¬(Exchange.mk (.store call) (store.perform moment call).1).Alters id →
        holds (store.perform moment call).2)
    (mem : check ∈ log) (held : holds check.before.store) (lost : ¬holds world.store) :
    ∃ change ∈ log, check.before.tick ≤ change.before.tick ∧ change.exchange.Alters id := by
  rcases run.exists_loss mem held lost with ⟨change, change_mem, later, had, lost⟩
  refine ⟨change, change_mem, later, Classical.byContradiction fun unaltered => lost ?_⟩
  rcases List.append_of_mem change_mem with ⟨_, _, parts⟩
  rcases run.at_turn parts with ⟨_, effect, _, _, _, exchanged⟩
  rw [exchanged] at unaltered ⊢
  cases effect with
  | store call => exact kept _ _ call had unaltered
  | checkToken kind token => cases kind <;> exact had
  | _ => exact had

/-- What a client saw of a user and is lost when it writes was altered by another in between. -/
theorem altered_between (run : SideBySide hasher tokens moments operations log now world)
    (parts : log = earlier ++ turn :: later) {holds : Store → Prop} {id : Uuid} {checked : User}
    (kept : ∀ store moment (call : StoreCall), holds store →
      ¬(Exchange.mk (.store call) (store.perform moment call).1).Alters id →
        holds (store.perform moment call).2)
    (reads : (historyOf earlier turn.position).ReadsOnly)
    (saw : (historyOf earlier turn.position).Saw (.findUser id) (some checked))
    (held : ∀ store : Store, store.liveUser? id = some checked → holds store)
    (lost : ¬holds turn.before.store) :
    ∃ change ∈ log, change.Intervenes log turn id := by
  rcases Interleaved.mem_historyOf.mp saw with ⟨check, check_mem, mine, exchanged⟩
  rcases run.at_turn parts with ⟨_, _, _, before, _⟩
  have found : check.before.store.liveUser? id = some checked :=
    (Except.ok.inj (before.answer_of_mem check_mem exchanged)).symm
  rcases altered_of_loss before kept check_mem (held _ found) lost with
    ⟨change, change_mem, after, alters⟩
  have change_writes := alters.isWrite
  refine ⟨change, ((run.mem_earlier_iff parts).mp change_mem).1, alters, ?_, check,
    ((run.mem_earlier_iff parts).mp check_mem).1, mine, by rw [exchanged], ?_, ?_⟩
  · intro same
    have read := reads _ (Interleaved.mem_historyOf.mpr ⟨change, change_mem, same, rfl⟩)
    rw [change_writes] at read
    cases read
  · refine Nat.lt_of_le_of_ne after fun same => ?_
    obtain rfl := before.eq_of_mem_of_tick_eq check_mem change_mem same
    rw [exchanged] at alters
    exact alters
  · exact ((run.mem_earlier_iff parts).mp change_mem).2

/-- Between the check and an overtaken write, another client has changed or deleted the user. -/
theorem altered_of_overtaken (run : SideBySide hasher tokens moments operations log now world)
    (mem : turn ∈ log) (overtaken : turn.IsOvertaken) :
    ∃ id, turn.subject? = some id ∧ ∃ change ∈ log, change.Intervenes log turn id := by
  rcases List.append_of_mem mem with ⟨earlier, later, parts⟩
  rcases turn with ⟨position, before, ⟨effect, answer⟩⟩
  cases effect with
  | store call =>
      cases call with
      | addManager team manager =>
          rcases run.write_justified parts rfl rfl with ⟨reads, operation, _, because⟩
          rcases because.of_addManager with ⟨checked, saw, isManager⟩
          have kept (store : Store) (moment : Moment) (call : StoreCall)
              (has : store.HasManager manager) :=
            Store.hasManager_of_step has (store.userStep moment call)
          refine ⟨manager, rfl, altered_between run parts kept reads saw ?_ overtaken⟩
          intro store found
          exact ⟨checked, Store.mem_of_liveUser? found, Store.id_of_liveUser? found, isManager⟩
      | updateUser id changes =>
          rcases run.write_justified parts rfl rfl with ⟨reads, operation, _, because⟩
          rcases because.of_updateUser with ⟨checked, saw, place⟩
          rcases Turn.isOvertaken_updateUser.mp overtaken with ⟨_, current, found, misplaced⟩
          have kept (store : Store) (moment : Moment) (call : StoreCall)
              (placed : ∃ user, store.liveUser? id = some user ∧ changes.KeepsPlace user)
              (unaltered : ¬(Exchange.mk (.store call) (store.perform moment call).1).Alters id) :
              ∃ user, (store.perform moment call).2.liveUser? id = some user ∧
                changes.KeepsPlace user := by
            rcases placed with ⟨user, found, place⟩
            rcases Store.place_of_step found (store.userStep moment call) unaltered with
              ⟨after, found, same_role, same_team⟩
            refine ⟨after, found, ?_⟩
            rwa [UserChanges.KeepsPlace, same_role, same_team]
          refine ⟨id, rfl, altered_between run parts kept reads saw ?_ ?_⟩
          · intro store found
            exact ⟨checked, found, place⟩
          · rintro ⟨user, found', place⟩
            obtain rfl : current = user := Option.some.inj (found.symm.trans found')
            exact misplaced place
      | _ => exact absurd overtaken id
  | _ => exact absurd overtaken id

end SideBySide

/--
In a run of any operations in turns, the order of the organisation is kept in every state exactly
if no write is overtaken, and a write is overtaken only when another client intervenes.
-/
theorem interleaved_organised_iff (hasher : Hasher) (tokens : TokenService)
    (moments : Nat → Moment) (operations : List Operation) (schedule : List Nat) :
    let handler := (System.inMemory hasher tokens).handler moments
    let programs := operations.map Operation.outcome
    let log := Program.turns handler schedule programs {}
    let final := (Program.interleave handler schedule programs {}).2
    (((∀ turn ∈ log, turn.before.store.Organised) ∧ final.store.Organised) ↔
        ∀ turn ∈ log, ¬turn.IsOvertaken) ∧
      ∀ turn ∈ log, turn.IsOvertaken →
        ∃ id, turn.subject? = some id ∧ ∃ change ∈ log, change.Intervenes log turn id := by
  intro handler programs log final
  have run : SideBySide hasher tokens moments operations log _ final :=
    Interleaved.ofSchedule handler schedule programs {}
  exact ⟨run.organised_iff, fun turn mem overtaken => run.altered_of_overtaken mem overtaken⟩

/-- An admin who links a manager to a team, and another one who makes the manager an employee. -/
def demotionRace : List Operation :=
  let person (email : String) (role : Option String) : Registration :=
    { email, password := "password", firstName := "Ada", lastName := "Byron", phoneNumber := none,
      role, teamId := none }
  let admin : Uuid := ⟨2⟩
  let manager : Uuid := ⟨6⟩
  let team : Uuid := ⟨8⟩
  [.register none (person "admin@example.org" none),
    .register (some admin) (person "manager@example.org" (some "manager")),
    .createTeam admin { name := "Core", description := none },
    .addManager admin team manager,
    .updateUser admin manager { role := some "employee" }]

/-- The demotion has its turns between the checks of the link and the link. -/
def demotionSchedule : List Nat :=
  [0, 0, 0, 1, 1, 1, 1, 2, 2, 2, 3, 3, 3, 4, 4, 4, 3]

theorem demotionRace_breaks_order :
    ¬(Program.interleave ((System.inMemory .plain .unsigned).handler .numbered) demotionSchedule
      (demotionRace.map Operation.outcome) {}).2.store.Organised := by
  decide +kernel

end OrgAccess
