import OrgAccess.Proofs.Frames
import OrgAccess.Proofs.StoredTexts

/-!
# What a patch does to a user

Whether a patch of a user succeeds is decided by the tables and the patch alone
(`UserPatch.Admissible`), and what becomes of the user is told field by field
(`UserPatch.Amends`). `Workflow.Settles` puts both together: a workflow succeeds exactly under a
condition and then ends in a certain way, or it fails and leaves the store as it was. Each check
that a workflow makes adds a part to the condition.
-/

namespace OrgAccess

namespace UserPatch

/-- The role after a patch: the named one, if there is a role of that name, or else the old one. -/
def finalRole? (patch : UserPatch) (current : Role) : Option Role :=
  match patch.role with
  | none => some current
  | some name => Role.ofName? name

/-- Nothing that is stored and nothing in a patch stands against it. -/
@[mk_iff]
structure Admissible (patch : UserPatch) (store : Store) (target : User) : Prop where
  role : ∀ name, patch.role = some name → ∃ role : Role, role.name = name
  team : ∀ team, patch.teamId = some (some team) →
    patch.finalRole? target.role = some .employee ∧ ∃ found, store.liveTeam? team = some found
  password : ∀ text, patch.password = some text → Text.IsFilled text
  email : ∀ text, patch.email = some text → Text.IsFilled text
  firstName : ∀ text, patch.firstName = some text → Text.IsFilled text
  lastName : ∀ text, patch.lastName = some text → Text.IsFilled text
  free : ∀ text, patch.email = some text →
    ∀ other ∈ store.users, other.isLive = true → other.email = text → other.id = target.id

/-- What a patch makes of the row of a user. -/
structure Amends (patch : UserPatch) (hasher : Hasher) (now : Instant) (old new : User) : Prop where
  origin : old.SameOrigin new
  email : new.email = patch.email.getD old.email
  firstName : new.firstName = patch.firstName.getD old.firstName
  lastName : new.lastName = patch.lastName.getD old.lastName
  password :
    match patch.password with
    | none => new.passwordHash = old.passwordHash
    | some text => hasher.verify new.passwordHash text = .ok true
  phoneNumber : new.phoneNumber =
    match patch.phoneNumber with
    | none => old.phoneNumber
    | some text => if Text.IsFilled text then some text else none
  role : some new.role = patch.finalRole? old.role
  teamId : new.teamId = if new.role = .employee then patch.teamId.getD old.teamId else none
  updatedAt : new.updatedAt = now

/-- A patch amends one row, and takes its links away if it names a role other than manager. -/
def Changes (patch : UserPatch) (hasher : Hasher) (now : Instant) (id : Uuid)
    (before after : Store) : Prop :=
  ∃ users, ChangesRow User.id id (patch.Amends hasher now) before.users users ∧
    after = { before with
      users
      links :=
        if patch.role.any (· != Role.manager.name) then
          before.links.filter fun link => link.manager != id
        else before.links }

end UserPatch

namespace Workflow

variable {α β : Type} {hasher : Hasher} {tokens : TokenService} {moments : Nat → Moment}
  {store : Store} {condition : Prop} {ends : World → Prop}

/-- A workflow succeeds exactly under a condition and then ends so, or fails and changes nothing. -/
def Settles (hasher : Hasher) (tokens : TokenService) (moments : Nat → Moment) (store : Store)
    (workflow : Workflow α) (condition : Prop) (ends : World → Prop) : Prop :=
  ∀ tick,
    let run := (ExceptT.run workflow).run ((System.inMemory hasher tokens).handler moments)
      ⟨store, tick⟩
    (condition ∧ ∃ value later, run = (.ok value, later) ∧ ends later) ∨
      (¬condition ∧ ∃ failure later, run = (.error failure, ⟨store, later⟩))

/-! ## Rules -/

section Rules

variable {workflow : Workflow α} {rest : α → Workflow β}

theorem Settles.of_iff {condition' : Prop}
    (settles : Settles hasher tokens moments store workflow condition ends)
    (same : condition' ↔ condition) :
    Settles hasher tokens moments store workflow condition' ends :=
  propext same ▸ settles

theorem Yields.settles_bind {value : α} (yields : Yields store workflow (.ok value))
    (next : Settles hasher tokens moments store (rest value) condition ends) :
    Settles hasher tokens moments store (workflow >>= rest) condition ends := by
  intro tick
  obtain ⟨middle, ran⟩ := yields hasher tokens moments tick
  rw [ExceptT.run_bind, Program.run_bind, ran]
  exact next middle

/-- A check adds what it asks for to the condition. -/
theorem settles_and {ok : Prop} (refuses : ¬ok → ∃ failure, Yields store workflow (.error failure))
    (next : ok → Settles hasher tokens moments store workflow condition ends) :
    Settles hasher tokens moments store workflow (ok ∧ condition) ends := by
  by_cases isOk : ok
  · exact (next isOk).of_iff (and_iff_right isOk)
  · intro tick
    obtain ⟨failure, yields⟩ := refuses isOk
    obtain ⟨later, ran⟩ := yields hasher tokens moments tick
    exact Or.inr ⟨fun both => isOk both.1, failure, later, ran⟩

theorem settles_requiredText_bind {field : String} {given : Option String}
    {rest : Option String → Workflow β}
    (next : Settles hasher tokens moments store (rest given) condition ends) :
    Settles hasher tokens moments store (requiredText field given >>= rest)
      ((∀ text, given = some text → Text.IsFilled text) ∧ condition) ends := by
  have blank_iff : given.any Text.isBlankText = true ↔
      ¬∀ text, given = some text → Text.IsFilled text := by
    cases given <;> simp [Text.isFilled_iff]
  rw [requiredText, ite_bind]
  apply settles_and
  · intro isBlank
    rw [if_pos (blank_iff.mpr isBlank)]
    exact ⟨_, yields_throw_bind _⟩
  · intro filled
    rw [if_neg fun isBlank => blank_iff.mp isBlank filled]
    exact (yields_pure given).settles_bind next

theorem settles_patchedRole_bind {name : Option String} {rest : Option Role → Workflow β}
    (next : ∀ role : Option Role, role.map some = name.map Role.ofName? →
      Settles hasher tokens moments store (rest role) condition ends) :
    Settles hasher tokens moments store (patchedRole name >>= rest)
      ((∀ text, name = some text → ∃ role : Role, role.name = text) ∧ condition) ends := by
  cases name with
  | none =>
      refine Settles.of_iff ?_ (and_iff_right (by simp))
      exact (yields_pure none).settles_bind (next none rfl)
  | some name =>
      rw [patchedRole, bind_map_left]
      cases found : Role.ofName? name with
      | none =>
          apply settles_and
          · exact fun _ => ⟨_, yields_throw_bind _⟩
          · intro known
            obtain ⟨role, rfl⟩ := known name rfl
            cases (Role.ofName?_name role).symm.trans found
      | some role =>
          refine Settles.of_iff ?_ (and_iff_right fun text same => ?_)
          · exact (yields_pure role).settles_bind (next (some role) (by simp [found]))
          · cases same
            exact ⟨role, Role.name_of_ofName? found⟩

theorem settles_placement_bind {role : Role} {teamId : Option Uuid} {rest : Unit → Workflow β}
    (next : (∀ team, teamId = some team → role = .employee) →
      Settles hasher tokens moments store (rest ()) condition ends) :
    Settles hasher tokens moments store (placement role teamId >>= rest)
      ((∀ team, teamId = some team →
        role = .employee ∧ ∃ found, store.liveTeam? team = some found) ∧ condition) ends := by
  cases teamId with
  | none =>
      refine Settles.of_iff ?_ (and_iff_right (by simp))
      exact (yields_pure ()).settles_bind (next (by simp))
  | some team =>
      by_cases isEmployee : role = .employee
      · subst isEmployee
        have asks : placement .employee (some team) = liveTeam team >>= fun _ => pure () := rfl
        rw [asks, bind_assoc, liveTeam, bind_assoc]
        refine Yields.settles_bind (yields_store fun _ => rfl) ?_
        cases found : store.liveTeam? team with
        | none =>
            apply settles_and
            · exact fun _ => ⟨_, yields_throw_bind _⟩
            · intro placed
              obtain ⟨_, live, isLive⟩ := placed team rfl
              cases isLive.symm.trans found
        | some live =>
            refine Settles.of_iff ?_ (and_iff_right fun other same => ?_)
            · have next := next fun _ _ => rfl
              exact (yields_pure live).settles_bind ((yields_pure ()).settles_bind next)
            · cases same
              exact ⟨rfl, live, found⟩
      · apply settles_and
        · intro _
          rw [placement, if_pos isEmployee]
          exact ⟨_, yields_throw_bind _⟩
        · exact fun placed => absurd (placed team rfl).1 isEmployee

/-- Whenever a password is hashed, the hash is one that the password fits. -/
def HashesFit (hasher : Hasher) (moments : Nat → Moment) : Prop :=
  ∀ tick password, ∃ hash, hasher.hash (moments tick).salt password = .ok hash ∧
    hasher.verify hash password = .ok true

theorem settles_hashPassword_bind (fit : HashesFit hasher moments) {password : String}
    {rest : String → Workflow β}
    (next : ∀ hash, hasher.verify hash password = .ok true →
      Settles hasher tokens moments store (rest hash) condition ends) :
    Settles hasher tokens moments store (hashPassword password >>= rest) condition ends := by
  intro tick
  obtain ⟨hash, hashed, fits⟩ := fit tick password
  have ran : (Program.effect (.hashPassword password)).run
      ((System.inMemory hasher tokens).handler moments) ⟨store, tick⟩ =
        (.ok hash, ⟨store, tick + 1⟩) :=
    congrArg (fun answer => (answer, World.mk store (tick + 1))) hashed
  rw [hashPassword, run_lift_bind, ran]
  exact next hash fits (tick + 1)

theorem settles_patchedPassword_bind (fit : HashesFit hasher moments) {given : Option String}
    (long : ∀ text, given = some text → leastPasswordLength ≤ text.length)
    {rest : Option String → Workflow β}
    (next : ∀ hash, Option.Rel (fun hash text => hasher.verify hash text = .ok true) hash given →
      Settles hasher tokens moments store (rest hash) condition ends) :
    Settles hasher tokens moments store (patchedPassword given >>= rest)
      ((∀ text, given = some text → Text.IsFilled text) ∧ condition) ends := by
  rw [patchedPassword, bind_assoc]
  apply settles_requiredText_bind
  cases given with
  | none => exact (yields_pure none).settles_bind (next none .none)
  | some password =>
      have isLong : ¬password.length < leastPasswordLength := Nat.not_lt.mpr (long password rfl)
      simp only [if_neg isLong, bind_map_left]
      exact settles_hashPassword_bind fit fun hash fits => next (some hash) (.some fits)

end Rules

/-! ## The changes of a patch -/

/-- The changes that are asked of the store for a patch once it is checked. -/
def patchChanges (patch : UserPatch) (target : User) (role : Option Role) (hash : Option String) :
    UserChanges where
  email := patch.email
  passwordHash := hash
  firstName := patch.firstName
  lastName := patch.lastName
  phoneNumber := clearableText patch.phoneNumber
  role := role
  teamId := settledTeam target (role.getD target.role) patch.teamId

end Workflow

namespace UserPatch

variable {patch : UserPatch} {hasher : Hasher} {target : User} {role : Option Role}
  {hash : Option String}

theorem finalRole?_of_named (named : role.map some = patch.role.map Role.ofName?) :
    patch.finalRole? target.role = some (role.getD target.role) := by
  unfold finalRole?
  cases given : patch.role with
  | none =>
      obtain rfl : role = none := by simpa [given] using named
      rfl
  | some name =>
      obtain ⟨role, rfl⟩ : ∃ found, role = some found := by
        cases role with
        | none => simp [given] at named
        | some found => exact ⟨found, rfl⟩
      simpa [given, eq_comm] using named

theorem settledTeam_none_iff {requested : Option (Option Uuid)} :
    Workflow.settledTeam target target.role requested = none ↔
      requested = none ∧ (target.role = .employee ∨ target.teamId = none) := by
  unfold Workflow.settledTeam
  by_cases isEmployee : target.role = .employee
  · simp [isEmployee]
  · cases target.teamId <;> simp [isEmployee]

/-- Nothing is asked of the store for the empty patch, unless it takes a stray team away. -/
theorem isEmpty_patchChanges_iff (named : role.map some = patch.role.map Role.ofName?)
    (fits : Option.Rel (fun hash text => hasher.verify hash text = .ok true) hash patch.password) :
    (Workflow.patchChanges patch target role hash).isEmpty = true ↔
      patch = {} ∧ (target.role = .employee ∨ target.teamId = none) := by
  have hash_iff : hash = none ↔ patch.password = none := by
    generalize patch.password = given at fits
    cases fits <;> simp
  have role_iff : role = none ↔ patch.role = none := by
    rw [← Option.map_eq_none_iff (f := some), named, Option.map_eq_none_iff]
  rw [UserChanges.isEmpty_iff]
  cases patch
  simp only [Workflow.patchChanges, UserChanges.mk.injEq, UserPatch.mk.injEq] at hash_iff role_iff ⊢
  rw [hash_iff, Workflow.clearableText, Option.map_eq_none_iff]
  simp only [and_assoc]
  refine and_congr_right fun _ => and_congr_right fun _ => and_congr_right fun _ =>
    and_congr_right fun _ => and_congr_right fun _ => ?_
  rw [← role_iff]
  refine and_congr_right fun isNone => ?_
  subst isNone
  exact settledTeam_none_iff

theorem amends_apply (now : Instant) (named : role.map some = patch.role.map Role.ofName?)
    (fits : Option.Rel (fun hash text => hasher.verify hash text = .ok true) hash patch.password)
    (placed : ∀ team, patch.teamId = some (some team) → role.getD target.role = .employee) :
    patch.Amends hasher now target
      ((Workflow.patchChanges patch target role hash).apply now target) where
  origin := ⟨rfl, rfl, rfl, rfl, rfl, rfl⟩
  email := rfl
  firstName := rfl
  lastName := rfl
  password := by
    change match patch.password with
      | none => hash.getD target.passwordHash = target.passwordHash
      | some text => hasher.verify (hash.getD target.passwordHash) text = .ok true
    generalize patch.password = given at fits
    cases fits with
    | none => rfl
    | some fits => exact fits
  phoneNumber := by
    change (Workflow.clearableText patch.phoneNumber).getD target.phoneNumber = _
    cases patch.phoneNumber with
    | none => rfl
    | some text =>
        simp only [Workflow.clearableText, Option.map_some, Option.getD_some, Text.isFilled_iff]
        cases Text.isBlankText text <;> rfl
  role := (finalRole?_of_named named).symm
  teamId := by
    change (Workflow.settledTeam target (role.getD target.role) patch.teamId).getD target.teamId =
      if role.getD target.role = .employee then patch.teamId.getD target.teamId else none
    by_cases isEmployee : role.getD target.role = .employee
    · simp [Workflow.settledTeam, isEmployee]
    · have noTeam : patch.teamId.join = none := by
        rw [Option.eq_none_iff_forall_ne_some]
        intro team asked
        exact isEmployee (placed team (Option.join_eq_some_iff.mp asked))
      rw [if_neg isEmployee]
      exact (Workflow.settledTeam_placed (Or.inr noTeam)).resolve_left isEmployee
  updatedAt := rfl

theorem free_iff {store : Store} {id : Uuid} (patch : UserPatch) (named : target.id = id) :
    patch.email.any (store.emailTaken · (some id)) = false ↔
      ∀ text, patch.email = some text →
        ∀ other ∈ store.users, other.isLive = true → other.email = text → other.id = target.id := by
  subst named
  cases patch.email <;> simp [Store.emailTaken]

end UserPatch

namespace Workflow

variable {hasher : Hasher} {tokens : TokenService} {moments : Nat → Moment} {store : Store}
  {ends : World → Prop} {caller id : Uuid} {viewer target : User} {patch : UserPatch}

theorem yields_resolveAdmin (found : store.liveUser? caller = some viewer)
    (isAdmin : viewer.role = .admin) (action : AdminAction) :
    Yields store (resolveAdmin caller action) (.ok (store.actor viewer)) := by
  have may : (store.actor viewer).checkAdmin action = .ok () :=
    if_pos (store.isAdmin_actor viewer |>.mpr isAdmin)
  unfold resolveAdmin
  refine (yields_resolveActor found).bind ?_
  rw [may]
  exact (yields_pure ()).bind (yields_pure _)

theorem settles_updateCall_bind (found : store.liveUser? id = some target) (changes : UserChanges)
    (made : ∀ tick, ends ⟨{ store.modifyUser id (changes.apply (moments tick).now) with
      links :=
        if changes.leavesManagerRole then store.links.filter fun link => link.manager != id
        else store.links }, tick + 1⟩) :
    Settles hasher tokens moments store
      (Workflow.store (.updateUser id changes) >>= fun updated =>
        require .userNotFound updated >>= fun user => pure user.toPublic)
      (changes.email.any (store.emailTaken · (some id)) = false) ends := by
  intro tick
  have called : (Program.effect (.store (.updateUser id changes))).run
      ((System.inMemory hasher tokens).handler moments) ⟨store, tick⟩ =
        ((store.updateUser (moments tick) id changes).1,
          ⟨(store.updateUser (moments tick) id changes).2, tick + 1⟩) := rfl
  rw [Workflow.store, run_lift_bind, called, Store.updateUser, found]
  by_cases taken : changes.email.any (store.emailTaken · (some id)) = true
  · rw [if_pos taken]
    exact Or.inr ⟨by simp [taken], _, _, rfl⟩
  · rw [if_neg taken]
    exact Or.inl ⟨by simpa using taken, _, _, rfl, made tick⟩

/--
A patch of a live user on behalf of an admin succeeds exactly if nothing stands against it. A patch
of some field then amends the row of the user; the empty one leaves a user alone whose team is in
order.
-/
theorem settles_updateUser (distinct : store.Distinct)
    (known : store.liveUser? caller = some viewer) (isAdmin : viewer.role = .admin)
    (found : store.liveUser? id = some target) (fit : HashesFit hasher moments)
    (long : ∀ text, patch.password = some text → leastPasswordLength ≤ text.length) :
    Settles hasher tokens moments store (updateUser caller id patch) (patch.Admissible store target)
      fun later =>
        (patch ≠ {} → patch.Changes hasher (moments (later.tick - 1)).now id store later.store) ∧
        (patch = {} → target.role = .employee ∨ target.teamId = none → later.store = store) := by
  have same_id := Store.id_of_liveUser? found
  have asked : Yields store (Workflow.store (.findUser id)) (.ok (some target)) :=
    found ▸ yields_store fun _ => rfl
  rw [UserPatch.admissible_iff, ← patch.free_iff same_id]
  unfold updateUser
  refine (yields_resolveAdmin known isAdmin _).settles_bind ?_
  refine asked.settles_bind ((yields_pure target).settles_bind ?_)
  refine settles_patchedRole_bind fun role named => ?_
  rw [patch.finalRole?_of_named named, patchedTeam_eq, bind_assoc]
  simp only [← Option.join_eq_some_iff, Option.some.injEq]
  refine settles_placement_bind fun employed => ?_
  rw [pure_bind]
  refine settles_patchedPassword_bind fit long fun hash fits => ?_
  refine settles_requiredText_bind (settles_requiredText_bind (settles_requiredText_bind ?_))
  have isEmpty_iff : (patchChanges patch target role hash).isEmpty = true ↔
      patch = {} ∧ (target.role = .employee ∨ target.teamId = none) :=
    UserPatch.isEmpty_patchChanges_iff named fits
  change Settles hasher tokens moments store
    (if (patchChanges patch target role hash).isEmpty = true then pure target.toPublic
      else Workflow.store (.updateUser id (patchChanges patch target role hash)) >>= fun updated =>
        require .userNotFound updated >>= fun user => pure user.toPublic) _ _
  by_cases isEmpty : (patchChanges patch target role hash).isEmpty = true
  · obtain ⟨rfl, _⟩ := isEmpty_iff.mp isEmpty
    rw [if_pos isEmpty]
    intro tick
    exact Or.inl ⟨rfl, _, _, rfl, absurd rfl, fun _ _ => rfl⟩
  · rw [if_neg isEmpty]
    refine settles_updateCall_bind found _ fun tick => ⟨fun _ => ?_, fun nothing placed => ?_⟩
    · have amends := UserPatch.amends_apply (moments tick).now named fits
        fun team given => employed team (Option.join_eq_some_iff.mpr given)
      refine ⟨_, ChangesRow.of_updateFirst distinct.users found same_id amends, ?_⟩
      rw [UserChanges.leavesManagerRole_eq named]
      rfl
    · exact absurd (isEmpty_iff.mpr ⟨nothing, placed⟩) isEmpty

end Workflow

end OrgAccess
