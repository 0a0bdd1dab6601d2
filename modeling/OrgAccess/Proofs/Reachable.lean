import Mathlib.Data.List.Nodup
import OrgAccess.Proofs.References

/-!
# Reachable stores

Whoever uses the store and in whatever turns, what is stored at any time is what a sequence of calls
has left of the empty store. A call that creates a record gives it an identifier, which is to be one
that no record of its kind has had before; `Store.Reachable` holds of the stores that come about
so.

Main statement: in a reachable store no two users and no two teams share an identifier, deleted ones
included. A look-up by identifier then finds the one live record that there is.
-/

namespace OrgAccess

/-- A call on the store with the moment at which it is made. -/
structure TimedCall where
  moment : Moment
  call : StoreCall

namespace TimedCall

/-- The identifier that a call gives to the user whom it creates. -/
def userId? (timed : TimedCall) : Option Uuid :=
  match timed.call with
  | .createUser _ => some timed.moment.freshId
  | _ => none

/-- The identifier that a call gives to the team that it creates. -/
def teamId? (timed : TimedCall) : Option Uuid :=
  match timed.call with
  | .createTeam stamp _ => some stamp.freshId
  | _ => none

/-- Whether what a call creates gets an identifier that no row of its kind has. -/
structure IsFresh (timed : TimedCall) (store : Store) : Prop where
  user : ∀ id ∈ timed.userId?, ¬store.HasUser id
  team : ∀ id ∈ timed.teamId?, ¬store.HasTeam id

end TimedCall

namespace Store

/-- The store after a call. -/
def after (store : Store) (timed : TimedCall) : Store :=
  (store.perform timed.moment timed.call).2

/-- A call with the answer of the store. -/
def exchange (store : Store) (timed : TimedCall) : Exchange :=
  ⟨.store timed.call, (store.perform timed.moment timed.call).1⟩

/-- The store after calls in a row. -/
def afterAll : Store → List TimedCall → Store
  | store, [] => store
  | store, timed :: calls => (store.after timed).afterAll calls

/-- Calls in a row with the answers of the store. -/
def exchanges : Store → List TimedCall → History
  | _, [] => []
  | store, timed :: calls => store.exchange timed :: (store.after timed).exchanges calls

/-- Whether each of the calls in a row is fresh when its turn comes. -/
def AllFresh : Store → List TimedCall → Prop
  | _, [] => True
  | store, timed :: calls => timed.IsFresh store ∧ (store.after timed).AllFresh calls

instance (store : Store) (id : Uuid) : Decidable (store.HasUser id) :=
  inferInstanceAs (Decidable (∃ user ∈ store.users, user.id = id))

instance (store : Store) (id : Uuid) : Decidable (store.HasTeam id) :=
  inferInstanceAs (Decidable (∃ team ∈ store.teams, team.id = id))

instance (timed : TimedCall) (store : Store) : Decidable (timed.IsFresh store) :=
  decidable_of_iff
    ((∀ id ∈ timed.userId?, ¬store.HasUser id) ∧ ∀ id ∈ timed.teamId?, ¬store.HasTeam id)
    ⟨fun ⟨user, team⟩ => ⟨user, team⟩, fun fresh => ⟨fresh.user, fresh.team⟩⟩

instance decidableAllFresh : (store : Store) → (calls : List TimedCall) →
    Decidable (store.AllFresh calls)
  | _, [] => inferInstanceAs (Decidable True)
  | store, timed :: calls =>
    have := decidableAllFresh (store.after timed) calls
    inferInstanceAs (Decidable (timed.IsFresh store ∧ (store.after timed).AllFresh calls))

/-- A store that fresh calls have made of the empty one. -/
inductive Reachable : Store → Prop where
  | empty : Reachable {}
  | after {store : Store} {timed : TimedCall} (reachable : store.Reachable)
      (fresh : timed.IsFresh store) : Reachable (store.after timed)

/-- No two users share an identifier, deleted ones included, and no two teams. -/
structure Distinct (store : Store) : Prop where
  users : (store.users.map User.id).Nodup
  teams : (store.teams.map Team.id).Nodup

variable {store : Store} {timed : TimedCall} {calls : List TimedCall} {id : Uuid}

theorem afterAll_append (store : Store) (first second : List TimedCall) :
    store.afterAll (first ++ second) = (store.afterAll first).afterAll second := by
  induction first generalizing store with
  | nil => rfl
  | cons timed first ih => exact ih (store.after timed)

theorem allFresh_append {first second : List TimedCall} :
    store.AllFresh (first ++ second) ↔
      store.AllFresh first ∧ (store.afterAll first).AllFresh second := by
  induction first generalizing store with
  | nil => simp [AllFresh, Store.afterAll]
  | cons timed first ih => simp only [List.cons_append, AllFresh, Store.afterAll, ih, and_assoc]

theorem Reachable.afterAll (reachable : store.Reachable) (fresh : store.AllFresh calls) :
    (store.afterAll calls).Reachable := by
  induction calls generalizing store with
  | nil => exact reachable
  | cons timed calls ih => exact ih (reachable.after fresh.1) fresh.2

/-- Whatever was answered was answered by the store that the calls before had left. -/
theorem exists_of_saw {call : StoreCall} {value : call.Answer}
    (saw : (store.exchanges calls).Saw call value) :
    ∃ before moment later, calls = before ++ ⟨moment, call⟩ :: later ∧
      ((store.afterAll before).perform moment call).1 = .ok value := by
  induction calls generalizing store with
  | nil => cases saw
  | cons timed calls ih =>
      rcases List.mem_cons.mp saw with same | saw
      · rcases timed with ⟨moment, other⟩
        simp only [exchange, Exchange.mk.injEq, Effect.store.injEq] at same
        obtain ⟨rfl, same⟩ := same
        exact ⟨[], moment, calls, rfl, (eq_of_heq same).symm⟩
      · rcases ih saw with ⟨before, moment, later, rfl, answered⟩
        exact ⟨timed :: before, moment, later, rfl, answered⟩

/-! ## Identifiers -/

theorem userIds_after (store : Store) (timed : TimedCall) :
    (store.after timed).users.map User.id = store.users.map User.id ∨
      ∃ id ∈ timed.userId?,
        (store.after timed).users.map User.id = store.users.map User.id ++ [id] := by
  rcases timed with ⟨moment, call⟩
  have step := store.userStep moment call
  simp only [after]
  generalize (store.perform moment call).2.users = users at step
  generalize (store.perform moment call).1 = answer at step
  cases step with
  | keep leaves => exact Or.inl rfl
  | create => exact Or.inr ⟨moment.freshId, rfl, by simp [newUserRecord]⟩
  | update found => exact Or.inl (ids_modifyUser _ _ fun user => rfl)
  | delete found => exact Or.inl (ids_modifyUser _ _ fun user => rfl)
  | openSession found => exact Or.inl (ids_modifyUser _ _ fun user => rfl)
  | renewSession found current => exact Or.inl (ids_modifyUser _ _ fun user => rfl)
  | closeSession => exact Or.inl (ids_modifyUser _ _ fun user => rfl)

theorem ids_modifyTeam (store : Store) (id : Uuid) (change : Team → Team)
    (keeps : ∀ team, (change team).id = team.id) :
    (store.modifyTeam id change).teams.map Team.id = store.teams.map Team.id :=
  map_updateFirst keeps store.teams

theorem teamIds_after (store : Store) (timed : TimedCall) :
    (store.after timed).teams.map Team.id = store.teams.map Team.id ∨
      ∃ id ∈ timed.teamId?,
        (store.after timed).teams.map Team.id = store.teams.map Team.id ++ [id] := by
  rcases timed with ⟨moment, call⟩
  have step := store.teamStep moment call
  simp only [after]
  generalize (store.perform moment call).2.teams = teams at step
  cases step with
  | keep => exact Or.inl rfl
  | @create stamp data => exact Or.inr ⟨stamp.freshId, rfl, by simp [newTeamRecord]⟩
  | update found => exact Or.inl (store.ids_modifyTeam _ _ fun team => rfl)
  | delete found => exact Or.inl (store.ids_modifyTeam _ _ fun team => rfl)

theorem hasUser_iff : store.HasUser id ↔ id ∈ store.users.map User.id := by
  simp [HasUser]

theorem hasTeam_iff : store.HasTeam id ↔ id ∈ store.teams.map Team.id := by
  simp [HasTeam]

theorem nodup_of_drawn {ids later : List Uuid} {drawn : Option Uuid} (nodup : ids.Nodup)
    (step : later = ids ∨ ∃ id ∈ drawn, later = ids ++ [id]) (fresh : ∀ id ∈ drawn, id ∉ ids) :
    later.Nodup := by
  rcases step with rfl | ⟨id, isDrawn, rfl⟩
  · exact nodup
  · rw [← List.concat_eq_append, List.nodup_concat]
    exact ⟨fresh id isDrawn, nodup⟩

theorem Distinct.after (distinct : store.Distinct) (fresh : timed.IsFresh store) :
    (store.after timed).Distinct := by
  constructor
  · refine nodup_of_drawn distinct.users (store.userIds_after timed) fun id drawn => ?_
    rw [← hasUser_iff]
    exact fresh.user id drawn
  · refine nodup_of_drawn distinct.teams (store.teamIds_after timed) fun id drawn => ?_
    rw [← hasTeam_iff]
    exact fresh.team id drawn

theorem Reachable.distinct (reachable : store.Reachable) : store.Distinct := by
  induction reachable with
  | empty => exact ⟨List.nodup_nil, List.nodup_nil⟩
  | after reachable fresh ih => exact ih.after fresh

/-! ## Look-ups -/

variable {user : User} {team : Team}

theorem Distinct.user_eq {other : User} (distinct : store.Distinct) (mem : user ∈ store.users)
    (other_mem : other ∈ store.users) (same : user.id = other.id) : user = other :=
  List.inj_on_of_nodup_map distinct.users mem other_mem same

theorem Distinct.team_eq {other : Team} (distinct : store.Distinct) (mem : team ∈ store.teams)
    (other_mem : other ∈ store.teams) (same : team.id = other.id) : team = other :=
  List.inj_on_of_nodup_map distinct.teams mem other_mem same

/-- Where only one item passes a test, the first one to pass it is that one. -/
theorem find?_eq_some_iff_of_unique {α : Type} {items : List α} {test : α → Bool} {item : α}
    (unique : ∀ first ∈ items, ∀ second ∈ items, test first = true → test second = true →
      first = second) :
    items.find? test = some item ↔ item ∈ items ∧ test item = true := by
  constructor
  · intro found
    exact ⟨List.mem_of_find?_eq_some found, List.find?_some found⟩
  · rintro ⟨mem, passes⟩
    have some_found : (items.find? test).isSome = true := List.find?_isSome.mpr ⟨item, mem, passes⟩
    rcases Option.isSome_iff_exists.mp some_found with ⟨first, found⟩
    rw [found, unique first (List.mem_of_find?_eq_some found) item mem (List.find?_some found) passes]

theorem isLiveUser_iff : isLiveUser id user = true ↔ user.isLive = true ∧ user.id = id := by
  simp [isLiveUser, and_comm]

theorem isLiveTeam_iff : isLiveTeam id team = true ↔ team.isLive = true ∧ team.id = id := by
  simp [isLiveTeam, and_comm]

theorem isLive_of_liveTeam? (found : store.liveTeam? id = some team) : team.isLive = true :=
  (isLiveTeam_iff.mp (List.find?_some found)).1

theorem Distinct.liveUser?_eq_some_iff (distinct : store.Distinct) :
    store.liveUser? id = some user ↔ user ∈ store.users ∧ user.isLive = true ∧ user.id = id := by
  rw [← isLiveUser_iff, liveUser?]
  refine find?_eq_some_iff_of_unique fun first mem second other_mem passes other_passes => ?_
  rw [isLiveUser_iff] at passes other_passes
  exact distinct.user_eq mem other_mem (passes.2.trans other_passes.2.symm)

theorem Distinct.liveTeam?_eq_some_iff (distinct : store.Distinct) :
    store.liveTeam? id = some team ↔ team ∈ store.teams ∧ team.isLive = true ∧ team.id = id := by
  rw [← isLiveTeam_iff, liveTeam?]
  refine find?_eq_some_iff_of_unique fun first mem second other_mem passes other_passes => ?_
  rw [isLiveTeam_iff] at passes other_passes
  exact distinct.team_eq mem other_mem (passes.2.trans other_passes.2.symm)

end Store

end OrgAccess
