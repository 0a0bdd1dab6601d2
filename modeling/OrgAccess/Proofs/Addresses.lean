import OrgAccess.Proofs.Purge

/-!
# Addresses

A user is known by an address as well as by an identifier. Identifiers are never given twice, but an
address may be: it can be changed, and deleting its holder frees it. What the store ensures is that
no two live users have the same one, and both calls that write an address see to it themselves: they
fail if a live user other than the one to be changed holds it.

Main statement: whatever calls have been made on an empty store and in whatever order, no two users
and no two teams share an identifier, no two live users share an address, looking an address up
finds the one live user who has it, and a call that asks for the address of another live user is
refused and changes nothing.
-/

namespace OrgAccess

/-- The user who may already have the address that a call asks for. -/
def StoreCall.holder? : StoreCall → Option Uuid
  | updateUser id _ => some id
  | _ => none

namespace Store

/-- What identifies the rows of a store, and how the store answers to it. -/
structure Identifies (store : Store) : Prop where
  /-- No two users share an identifier, deleted ones included. -/
  users : (store.users.map User.id).Nodup
  /-- No two teams share an identifier, deleted ones included. -/
  teams : (store.teams.map Team.id).Nodup
  /-- No two live users share an address. -/
  addresses : (store.liveUsers.map User.email).Nodup
  /-- Looking an address up finds the live user who has it, if there is one. -/
  lookup : ∀ moment email, ∃ found,
    store.perform moment (.findUserByEmail email) = (.ok found, store) ∧
      ∀ user, found = some user ↔ user ∈ store.liveUsers ∧ user.email = email
  /-- A new user is refused exactly if a live one has the address. -/
  created : ∀ moment data,
    store.perform moment (.createUser data) = (.error .emailTaken, store) ↔
      ∃ holder ∈ store.liveUsers, holder.email = data.email
  /-- A change is refused exactly if it asks for the address of another live user. -/
  updated : ∀ moment id changes,
    store.perform moment (.updateUser id changes) = (.error .emailTaken, store) ↔
      ∃ holder ∈ store.liveUsers, changes.email = some holder.email ∧ holder.id ≠ id

variable {store : Store} {moment : Moment}

theorem mem_liveUsers {user : User} :
    user ∈ store.liveUsers ↔ user ∈ store.users ∧ user.isLive = true :=
  List.mem_filter

/-! ## Refusals -/

theorem emailTaken_iff {email : String} {exempt : Option Uuid} :
    store.emailTaken email exempt = true ↔
      ∃ holder ∈ store.liveUsers, holder.email = email ∧ some holder.id ≠ exempt := by
  simp only [emailTaken, List.any_eq_true, mem_liveUsers, Bool.and_eq_true, beq_iff_eq,
    bne_iff_ne, and_assoc]

/-- A call is refused exactly if another live user has the address that it asks for. -/
theorem perform_eq_refused_iff (store : Store) (moment : Moment) (call : StoreCall) :
    store.perform moment call = (.error .emailTaken, store) ↔
      call.email?.any (store.emailTaken · call.holder?) = true := by
  cases call with
  | createUser data =>
      simp only [perform, createUser, StoreCall.email?, StoreCall.holder?, Option.any_some]
      split <;> simp_all
  | updateUser id changes =>
      simp only [perform, updateUser, StoreCall.email?, StoreCall.holder?]
      split
      · simp_all
      · split <;> simp_all
  | _ => simp [perform, answered, StoreCall.email?]

/-- A call that is answered asks for no address of another live user. -/
theorem email_ne_of_perform {call : StoreCall} {value : call.Answer} {email : String} {other : User}
    (answered : (store.perform moment call).1 = .ok value) (asked : call.email? = some email)
    (live : other ∈ store.liveUsers) (apart : some other.id ≠ call.holder?) :
    other.email ≠ email := by
  intro same
  have taken : store.emailTaken email call.holder? = true :=
    emailTaken_iff.mpr ⟨other, live, same, apart⟩
  rw [(store.perform_eq_refused_iff moment call).mpr (by simpa [asked] using taken)] at answered
  cases answered

/-! ## One address a user -/

/-- No two live users among these have the same address. -/
def Separate (users : List User) : Prop :=
  ∀ user ∈ users, user.isLive = true → ∀ other ∈ users, other.isLive = true →
    user.email = other.email → user = other

theorem Separate.nodup (separate : Separate store.users) (distinct : store.Distinct) :
    (store.liveUsers.map User.email).Nodup := by
  refine (distinct.users.of_map.filter User.isLive).map_on fun user live other other_live same => ?_
  rw [mem_liveUsers] at live other_live
  exact separate user live.1 live.2 other other_live.1 other_live.2 same

/-- A row is written next to rows that are apart already; none of them has its address. -/
theorem Separate.write {users later : List User} (separate : Separate users) (written : User)
    (rows : ∀ user ∈ later, user.isLive = true →
      user = written ∨ user ∈ users ∧ user.email ≠ written.email) : Separate later := by
  intro user mem live other other_mem other_live same
  rcases rows user mem live with rfl | ⟨old, differs⟩
  · rcases rows other other_mem other_live with rfl | ⟨_, differs⟩
    · rfl
    · exact absurd same.symm differs
  · rcases rows other other_mem other_live with rfl | ⟨other_old, _⟩
    · exact absurd same differs
    · exact separate user old live other other_old other_live same

theorem Separate.modifyUser {id : Uuid} {change : User → User} (separate : Separate store.users)
    (distinct : store.Distinct) (keeps : ∀ user, (change user).id = user.id)
    (free : ∀ user, store.liveUser? id = some user →
      ∀ other ∈ store.liveUsers, other.id ≠ id → other.email ≠ (change user).email) :
    Separate (store.modifyUser id change).users := by
  cases found : store.liveUser? id with
  | none =>
      intro user mem live other other_mem other_live same
      rcases mem_updateFirst mem with old | ⟨_, some_found, _⟩
      · rcases mem_updateFirst other_mem with other_old | ⟨_, some_found, _⟩
        · exact separate user old live other other_old other_live same
        · exact nomatch found.symm.trans some_found
      · exact nomatch found.symm.trans some_found
  | some user =>
      have nodup : ((store.modifyUser id change).users.map User.id).Nodup := by
        rw [ids_modifyUser id change keeps]
        exact distinct.users
      refine separate.write (change user) fun other mem live => ?_
      by_cases same : other.id = id
      · -- The identifiers are the same as before, so this row is the one that was written.
        left
        refine List.inj_on_of_nodup_map nodup mem (changed_mem_updateFirst found) ?_
        rw [keeps, id_of_liveUser? found, same]
      · right
        rcases mem_updateFirst mem with old | ⟨changed, some_found, rfl⟩
        · exact ⟨old, free user found other (mem_liveUsers.mpr ⟨old, live⟩) same⟩
        · exact absurd ((keeps changed).trans (id_of_liveUser? some_found)) same

/-- A change that writes no address cannot bring two of them together. -/
theorem Separate.modifyUser_of_same {id : Uuid} {change : User → User}
    (separate : Separate store.users) (distinct : store.Distinct)
    (keeps : ∀ user, (change user).id = user.id)
    (same : ∀ user, (change user).email = user.email) :
    Separate (store.modifyUser id change).users := by
  refine separate.modifyUser distinct keeps fun user found other live apart equal => ?_
  rw [mem_liveUsers] at live
  rw [same] at equal
  rw [separate other live.1 live.2 user (mem_of_liveUser? found) (isLive_of_liveUser? found) equal]
    at apart
  exact apart (id_of_liveUser? found)

/-- Whatever a call writes, no two live users have the same address after it. -/
theorem Separate.after {timed : TimedCall} (separate : Separate store.users)
    (distinct : store.Distinct) : Separate (store.after timed).users := by
  rcases timed with ⟨moment, call⟩
  have step := store.userStep moment call
  simp only [Store.after]
  generalize answer_eq : (store.perform moment call).1 = answer at step
  generalize (store.perform moment call).2.users = users at step
  cases step with
  | keep leaves => exact separate
  | @create data =>
      refine separate.write (newUserRecord moment data) fun user mem live => ?_
      rcases List.mem_append.mp mem with old | new
      · right
        refine ⟨old, email_ne_of_perform answer_eq rfl (mem_liveUsers.mpr ⟨old, live⟩) ?_⟩
        simp [StoreCall.holder?]
      · exact Or.inl (List.mem_singleton.mp new)
  | @update id changes user found =>
      refine separate.modifyUser distinct (fun user => rfl) fun old old_found other live apart => ?_
      cases asked : changes.email with
      | none =>
          simp only [UserChanges.apply, asked, Option.getD_none]
          intro same
          rw [mem_liveUsers] at live
          rw [separate other live.1 live.2 old (mem_of_liveUser? old_found)
            (isLive_of_liveUser? old_found) same] at apart
          exact apart (id_of_liveUser? old_found)
      | some email =>
          simp only [UserChanges.apply, asked, Option.getD_some]
          exact email_ne_of_perform answer_eq asked live (by simpa [StoreCall.holder?] using apart)
  | delete found | openSession found | renewSession found current | closeSession =>
      exact separate.modifyUser_of_same distinct (fun user => rfl) fun user => rfl

theorem Reachable.separate (reachable : store.Reachable) : Separate store.users := by
  induction reachable with
  | empty => exact fun user mem => nomatch mem
  | after reachable fresh ih => exact ih.after reachable.distinct

theorem Reachable.liveUserByEmail?_eq_some_iff {email : String} {user : User}
    (reachable : store.Reachable) :
    store.liveUserByEmail? email = some user ↔ user ∈ store.liveUsers ∧ user.email = email := by
  rw [mem_liveUsers, liveUserByEmail?, find?_eq_some_iff_of_unique]
  · simp only [Bool.and_eq_true, beq_iff_eq, and_assoc]
  · intro first mem second other_mem passes other_passes
    simp only [Bool.and_eq_true, beq_iff_eq] at passes other_passes
    exact reachable.separate first mem passes.1 second other_mem other_passes.1
      (passes.2.trans other_passes.2.symm)

theorem Reachable.identifies (reachable : store.Reachable) : store.Identifies where
  users := reachable.distinct.users
  teams := reachable.distinct.teams
  addresses := reachable.separate.nodup reachable.distinct
  lookup moment email :=
    ⟨store.liveUserByEmail? email, rfl, fun user => reachable.liveUserByEmail?_eq_some_iff⟩
  created moment data := by
    rw [perform_eq_refused_iff]
    simp [StoreCall.email?, StoreCall.holder?, emailTaken_iff]
  updated moment id changes := by
    rw [perform_eq_refused_iff]
    simp only [StoreCall.email?, StoreCall.holder?, Option.any_eq_true, emailTaken_iff]
    constructor
    · rintro ⟨email, asked, holder, live, rfl, apart⟩
      exact ⟨holder, live, asked, by simpa using apart⟩
    · rintro ⟨holder, live, asked, apart⟩
      exact ⟨holder.email, asked, holder, live, rfl, by simpa using apart⟩

end Store

/--
Whatever calls with fresh identifiers have been made on an empty store, users and teams are
identified by their identifiers and live users by their addresses, and the store sees to it.
-/
theorem afterAll_identifies {calls : List TimedCall} (fresh : ({} : Store).AllFresh calls) :
    (({} : Store).afterAll calls).Identifies :=
  (Store.Reachable.empty.afterAll fresh).identifies

/--
An address is asked for twice, freed by a deletion, taken over by another user and asked for once
more by a third one.
-/
def wantedAddress : List TimedCall :=
  [⟨.numbered 1, .createUser newcomer⟩,
    ⟨.numbered 2, .createUser newcomer⟩,
    ⟨.numbered 3, .createUser { newcomer with email := "grace@example.org" }⟩,
    ⟨.numbered 4, .updateUser ⟨3⟩ { email := some newcomer.email }⟩,
    ⟨.numbered 5, .deleteUser ⟨1⟩⟩,
    ⟨.numbered 6, .updateUser ⟨3⟩ { email := some newcomer.email }⟩,
    ⟨.numbered 7, .createUser newcomer⟩]

theorem wantedAddress_identifies :
    ({} : Store).AllFresh wantedAddress ∧ (({} : Store).afterAll wantedAddress).Identifies := by
  have fresh : ({} : Store).AllFresh wantedAddress := by decide +kernel
  exact ⟨fresh, afterAll_identifies fresh⟩

end OrgAccess
