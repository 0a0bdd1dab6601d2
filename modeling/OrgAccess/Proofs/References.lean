import OrgAccess.Proofs.Organisation
import OrgAccess.Proofs.Sequence

/-!
# What the rows refer to

A user has a team and a creator, a team has a creator, and a link has a team and a manager. Rows
stay when they are deleted, so whatever a row has referred to remains there. An operation refers
only to what it has found, and where the operations come one after the other the store at the write
is the one that it was found in.

Main statement: in a store that operations have made one after the other, every reference leads to
a row, linked users are managers and users with a team are employees.
-/

namespace OrgAccess

namespace Store

/-- A user has this identifier, be it live or deleted. -/
def HasUser (store : Store) (id : Uuid) : Prop :=
  ∃ user ∈ store.users, user.id = id

/-- A team has this identifier, be it live or deleted. -/
def HasTeam (store : Store) (id : Uuid) : Prop :=
  ∃ team ∈ store.teams, team.id = id

/-- References lead to rows, deleted ones included, and roles fit the teams and the links. -/
structure Consistent (store : Store) : Prop where
  members : ∀ user ∈ store.users, ∀ team, user.teamId = some team →
    user.role = .employee ∧ store.HasTeam team
  managers : ∀ link ∈ store.links, store.HasTeam link.team ∧ store.HasManager link.manager
  creators : ∀ user ∈ store.users, ∀ creator, user.createdBy = some creator →
    store.HasUser creator
  founders : ∀ team ∈ store.teams, store.HasUser team.createdBy

/-- A row names this user as the one who created it. -/
def RefersToUser (store : Store) (id : Uuid) : Prop :=
  (∃ user ∈ store.users, user.createdBy = some id) ∨ ∃ team ∈ store.teams, team.createdBy = id

/-- A user or a link names this team. -/
def RefersToTeam (store : Store) (id : Uuid) : Prop :=
  (∃ user ∈ store.users, user.teamId = some id) ∨ ∃ link ∈ store.links, link.team = id

/-- Whatever is referred to is there. -/
structure Closed (store : Store) : Prop where
  users : ∀ id, store.RefersToUser id → store.HasUser id
  teams : ∀ id, store.RefersToTeam id → store.HasTeam id

end Store

/-- The call brings in a row that names this user as the one who created it. -/
def StoreCall.RefersToUser : StoreCall → Uuid → Prop
  | createUser data, id => data.createdBy = some id
  | createTeam _ data, id => data.createdBy = id
  | _, _ => False

/-- The call brings in a user or a link that names this team. -/
def StoreCall.RefersToTeam : StoreCall → Uuid → Prop
  | createUser data, id => data.teamId = some id
  | updateUser _ changes, id => changes.teamId = some (some id)
  | addManager team _, id => team = id
  | _, _ => False

/-! ## What a step makes of the references -/

/--
A user of after a call is one of before, with the same creator and the same team unless the call
names another, or has been created by the call.
-/
theorem UserStep.origin {store : Store} {moment : Moment} {call : StoreCall}
    {answer : Except StoreError call.Answer} {users : List User} {user : User}
    (step : UserStep store moment ⟨.store call, answer⟩ users) (mem : user ∈ users) :
    (∃ old ∈ store.users, user.createdBy = old.createdBy ∧
        (user.teamId = old.teamId ∨ ∀ team, user.teamId = some team → call.RefersToTeam team)) ∨
      ((∀ creator, user.createdBy = some creator → call.RefersToUser creator) ∧
        ∀ team, user.teamId = some team → call.RefersToTeam team) := by
  have inherited {other : Uuid} {change : User → User}
      (mem : user ∈ (store.modifyUser other change).users)
      (keeps : ∀ user, (change user).createdBy = user.createdBy ∧
        (change user).teamId = user.teamId) :
      ∃ old ∈ store.users, user.createdBy = old.createdBy ∧ user.teamId = old.teamId := by
    rcases Store.mem_updateFirst mem with mem | ⟨old, found, rfl⟩
    · exact ⟨user, mem, rfl, rfl⟩
    · exact ⟨old, List.mem_of_find?_eq_some found, keeps old⟩
  have of_inherited {call : StoreCall}
      (old : ∃ old ∈ store.users, user.createdBy = old.createdBy ∧ user.teamId = old.teamId) :
      ∃ old ∈ store.users, user.createdBy = old.createdBy ∧
        (user.teamId = old.teamId ∨ ∀ team, user.teamId = some team → call.RefersToTeam team) := by
    rcases old with ⟨old, mem, creator, place⟩
    exact ⟨old, mem, creator, Or.inl place⟩
  cases step with
  | keep leaves => exact Or.inl (of_inherited ⟨user, mem, rfl, rfl⟩)
  | create =>
      rcases List.mem_append.mp mem with mem | mem
      · exact Or.inl (of_inherited ⟨user, mem, rfl, rfl⟩)
      · rw [List.mem_singleton.mp mem]
        exact Or.inr ⟨fun creator named => named, fun team named => named⟩
  | @update other changes _ found =>
      left
      rcases Store.mem_updateFirst mem with mem | ⟨old, found, rfl⟩
      · exact of_inherited ⟨user, mem, rfl, rfl⟩
      · refine ⟨old, List.mem_of_find?_eq_some found, rfl, ?_⟩
        cases requested : changes.teamId with
        | none => simp [UserChanges.apply, requested]
        | some place => simp [UserChanges.apply, StoreCall.RefersToTeam, requested]
  | delete found => exact Or.inl (of_inherited (inherited mem fun _ => ⟨rfl, rfl⟩))
  | openSession found => exact Or.inl (of_inherited (inherited mem fun _ => ⟨rfl, rfl⟩))
  | renewSession found current => exact Or.inl (of_inherited (inherited mem fun _ => ⟨rfl, rfl⟩))
  | closeSession => exact Or.inl (of_inherited (inherited mem fun _ => ⟨rfl, rfl⟩))

namespace Store

variable {store : Store} {moment : Moment} {call : StoreCall} {id : Uuid}

theorem HasUser.perform (has : store.HasUser id) : (store.perform moment call).2.HasUser id :=
  present_of_step (store.userStep moment call) has

theorem creator_of_perform {team : Team} (mem : team ∈ (store.perform moment call).2.teams) :
    (∃ old ∈ store.teams, old.createdBy = team.createdBy) ∨ call.RefersToUser team.createdBy := by
  have step := store.teamStep moment call
  generalize (store.perform moment call).2.teams = teams at mem step
  cases step with
  | keep => exact Or.inl ⟨team, mem, rfl⟩
  | create =>
      rcases List.mem_append.mp mem with mem | mem
      · exact Or.inl ⟨team, mem, rfl⟩
      · rw [List.mem_singleton.mp mem]
        exact Or.inr rfl
  | update found | delete found =>
      left
      rcases mem_updateFirst mem with mem | ⟨old, found, rfl⟩
      · exact ⟨team, mem, rfl⟩
      · exact ⟨old, List.mem_of_find?_eq_some found, rfl⟩

theorem HasTeam.perform (has : store.HasTeam id) : (store.perform moment call).2.HasTeam id := by
  rcases has with ⟨team, mem, named⟩
  have step := store.teamStep moment call
  unfold HasTeam
  generalize (store.perform moment call).2.teams = teams at step
  cases step with
  | keep => exact ⟨team, mem, named⟩
  | create => exact ⟨team, List.mem_append_left _ mem, named⟩
  | update found | delete found =>
      rcases mem_updateFirst_of_mem _ _ mem with mem | ⟨_, mem⟩
      · exact ⟨team, mem, named⟩
      · exact ⟨_, mem, named⟩

theorem refersToUser_of_perform (refers : (store.perform moment call).2.RefersToUser id) :
    store.RefersToUser id ∨ call.RefersToUser id := by
  rcases refers with ⟨user, mem, named⟩ | ⟨team, mem, rfl⟩
  · rcases (store.userStep moment call).origin mem with ⟨old, mem, creator, _⟩ | ⟨created, _⟩
    · exact Or.inl (Or.inl ⟨old, mem, creator.symm.trans named⟩)
    · exact Or.inr (created id named)
  · exact (creator_of_perform mem).imp_left Or.inr

theorem refersToTeam_of_perform (refers : (store.perform moment call).2.RefersToTeam id) :
    store.RefersToTeam id ∨ call.RefersToTeam id := by
  rcases refers with ⟨user, mem, named⟩ | ⟨link, mem, rfl⟩
  · rcases (store.userStep moment call).origin mem with ⟨old, mem, _, place⟩ | ⟨_, created⟩
    · rcases place with same | moved
      · exact Or.inl (Or.inl ⟨old, mem, same.symm.trans named⟩)
      · exact Or.inr (moved id named)
    · exact Or.inr (created id named)
  · rcases linked_of_perform mem with mem | added
    · exact Or.inl (Or.inr ⟨link, mem, rfl⟩)
    · rw [added]
      exact Or.inr rfl

theorem Closed.perform (closed : store.Closed)
    (users : ∀ id, call.RefersToUser id → store.HasUser id)
    (teams : ∀ id, call.RefersToTeam id → store.HasTeam id) :
    (store.perform moment call).2.Closed := by
  refine ⟨fun id refers => ?_, fun id refers => ?_⟩
  · exact ((refersToUser_of_perform refers).elim (closed.users id) (users id)).perform
  · exact ((refersToTeam_of_perform refers).elim (closed.teams id) (teams id)).perform

theorem consistent_iff : store.Consistent ↔ store.Organised ∧ store.Closed := by
  constructor
  · intro consistent
    refine ⟨⟨fun link mem => (consistent.managers link mem).2, fun user mem => ?_⟩, ?_, ?_⟩
    · cases place : user.teamId with
      | none => exact Or.inr rfl
      | some team => exact Or.inl (consistent.members user mem team place).1
    · rintro id (⟨user, mem, named⟩ | ⟨team, mem, rfl⟩)
      · exact consistent.creators user mem id named
      · exact consistent.founders team mem
    · rintro id (⟨user, mem, named⟩ | ⟨link, mem, rfl⟩)
      · exact (consistent.members user mem id named).2
      · exact (consistent.managers link mem).1
  · rintro ⟨organised, closed⟩
    refine ⟨fun user mem team named => ?_, fun link mem => ?_, fun user mem creator named => ?_, ?_⟩
    · have isEmployee := (organised.employees user mem).resolve_right (by simp [named])
      exact ⟨isEmployee, closed.teams team (Or.inl ⟨user, mem, named⟩)⟩
    · exact ⟨closed.teams _ (Or.inr ⟨link, mem, rfl⟩), organised.managers link mem⟩
    · exact closed.users creator (Or.inl ⟨user, mem, named⟩)
    · intro team mem
      exact closed.users _ (Or.inr ⟨team, mem, rfl⟩)

@[simp]
theorem consistent_empty : ({} : Store).Consistent :=
  ⟨by simp, by simp, by simp, by simp⟩

end Store

/-! ## What an operation refers to -/

namespace Operation

variable {operation : Operation} {history : History} {call : StoreCall} {id : Uuid}

theorem Justifies.sawUser (because : operation.Justifies history call)
    (refers : call.RefersToUser id) : history.SawUser id := by
  cases call with
  | createUser data =>
      cases operation with
      | register createdBy input =>
          rcases because with ⟨_, _, same, _, admits, _⟩
          cases same
          exact admits.creator id refers
      | _ => simp [Justifies] at because
  | createTeam stamp data =>
      cases operation with
      | createTeam caller draft =>
          rcases because with ⟨⟨_, _, same, saw⟩, _⟩
          cases same
          obtain rfl : data.createdBy = id := refers
          exact saw
      | _ => simp [Justifies] at because
  | _ => exact refers.elim

theorem Justifies.sawTeam (because : operation.Justifies history call)
    (refers : call.RefersToTeam id) : history.SawTeam id := by
  cases call with
  | createUser data =>
      cases operation with
      | register createdBy input =>
          rcases because with ⟨_, _, same, _, admits, _⟩
          cases same
          exact admits.team id refers
      | _ => simp [Justifies] at because
  | updateUser target changes =>
      cases operation with
      | updateUser caller target patch =>
          rcases because with ⟨_, _, same, _, _, _, seen⟩
          cases same
          exact seen id refers
      | _ => simp [Justifies] at because
  | addManager team manager =>
      cases operation with
      | addManager caller team manager =>
          rcases because with ⟨same, _, saw, _⟩
          cases same
          obtain rfl : team = id := refers
          exact saw
      | _ => simp [Justifies] at because
  | _ => exact refers.elim

end Operation

/-! ## Operations one after the other -/

section Sequence

variable {hasher : Hasher} {tokens : TokenService} {moments : Nat → Moment} {world : World}
  {history : History} {operation : Operation} {call : StoreCall}

theorem History.AnsweredFrom.hasUser
    (answered : history.AnsweredFrom ((System.inMemory hasher tokens).handler moments) world)
    {id : Uuid} (saw : history.SawUser id) : world.store.HasUser id := by
  rcases saw with ⟨asked, user, saw, rfl⟩
  exact ⟨user, Store.mem_of_liveUser? (answered.liveUser?_of_saw saw), rfl⟩

theorem History.AnsweredFrom.hasTeam
    (answered : history.AnsweredFrom ((System.inMemory hasher tokens).handler moments) world)
    {id : Uuid} (saw : history.SawTeam id) : world.store.HasTeam id := by
  rcases saw with ⟨team, saw⟩
  have found := answered.liveTeam?_of_saw saw
  exact ⟨team, Store.mem_of_liveTeam? found, Store.id_of_liveTeam? found⟩

/-- A write for reasons that hold of the store still is not overtaken. -/
theorem Operation.Justifies.in_time (because : operation.Justifies history call)
    (answered : history.AnsweredFrom ((System.inMemory hasher tokens).handler moments) world)
    (position tick : Nat) (answer : Except StoreError call.Answer) :
    ¬(Turn.mk position ⟨world.store, tick⟩ ⟨.store call, answer⟩).IsOvertaken := by
  cases call with
  | addManager team manager =>
      rcases because.of_addManager with ⟨user, saw, isManager⟩
      have found := answered.liveUser?_of_saw saw
      refine not_not_intro ?_
      exact ⟨user, Store.mem_of_liveUser? found, Store.id_of_liveUser? found, isManager⟩
  | updateUser id changes =>
      rcases because.of_updateUser with ⟨user, saw, place⟩
      rw [Turn.isOvertaken_updateUser]
      rintro ⟨_, other, found, misplaced⟩
      obtain rfl : user = other :=
        Option.some.inj ((answered.liveUser?_of_saw saw).symm.trans found)
      exact misplaced place
  | _ => simp [Turn.IsOvertaken]

theorem Operation.run_consistent (operation : Operation) (world : World)
    (consistent : world.store.Consistent) :
    (operation.outcome.run ((System.inMemory hasher tokens).handler moments)
      world).2.store.Consistent := by
  have honest := System.inMemory_honest hasher tokens moments
  -- Nothing comes between the reads and the write, so what the operation has found is there still.
  rcases Program.run_commits honest world operation.outcome_obeys with
    unchanged | ⟨history, call, answered, because, made⟩
  · rwa [unchanged]
  · rw [Store.consistent_iff] at consistent
    rcases consistent with ⟨organised, closed⟩
    rw [made, Store.consistent_iff]
    constructor
    · have placed (data : NewUser) (same : call = .createUser data) :
          data.role = .employee ∨ data.teamId = none := by
        subst same
        exact because.of_createUser
      exact (Store.organised_perform_iff organised placed).mpr (because.in_time answered 0 world.tick _)
    · refine closed.perform (fun id refers => ?_) fun id refers => ?_
      · exact answered.hasUser (because.sawUser refers)
      · exact answered.hasTeam (because.sawTeam refers)

end Sequence

/--
Whatever operations run one after the other, beginning with an empty store, every reference leads
to a row, linked users are managers and users with a team are employees.
-/
theorem sequential_runs_consistent (hasher : Hasher) (tokens : TokenService)
    (moments : Nat → Moment) (operations : List Operation) :
    (Program.runEach ((System.inMemory hasher tokens).handler moments)
      (operations.map Operation.outcome) {}).2.store.Consistent := by
  refine Program.runEach_keeps (fun program mem world consistent => ?_) Store.consistent_empty
  rcases List.mem_map.mp mem with ⟨operation, _, rfl⟩
  exact operation.run_consistent world consistent

end OrgAccess
