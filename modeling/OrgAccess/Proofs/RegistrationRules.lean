import OrgAccess.Proofs.LoginHistory
import OrgAccess.Proofs.Visibility

/-!
# Who may be registered by whom

`Store.refusal?` lists what stands against a registration, in the order in which it counts. The
rules read the tables and the arguments alone. A registration follows them in two parts: it decides
by looking things up (`Workflow.admission`), which changes nothing, and then hashes the password and
creates the account, against which only the address may stand.

Main statement: a registration is refused for the first of the rules that applies, and if none does
it adds one row as it was asked for, whatever else is stored.
-/

namespace OrgAccess

/-- The role that a registration asks for, if there is one of that name. -/
def Registration.askedRole? (input : Registration) : Option Role :=
  match input.role with
  | none => some .employee
  | some name => if name = "" then some .employee else Role.ofName? name

/-- The role of the new account: what no one creates is an admin, whatever is asked for. -/
def Registration.finalRole? (input : Registration) (createdBy : Option Uuid) : Option Role :=
  if createdBy = none then some .admin else input.askedRole?

namespace Store

/-- Why no account may be created on behalf of someone or of no one, whatever its address. -/
def admissionRefusal? (store : Store) (createdBy : Option Uuid) (input : Registration) :
    Option Failure :=
  let adminExists := store.liveUsers.any User.isAdmin
  let creator := createdBy.bind store.liveUser?
  if adminExists ∧ createdBy = none then
    some (.ofDenial (.adminRequired .createUser))
  else if createdBy ≠ none ∧ creator = none then
    some .creatorNotFound
  else if adminExists ∧ ¬creator.any User.isAdmin then
    some (.ofDenial (.adminRequired .createUser))
  else if input.askedRole? = none then
    some .unknownRole
  else if creator.any (!·.isAdmin) ∧ input.askedRole?.any Role.isPrivileged then
    some (.ofDenial (.adminRequired .assignPrivilegedRole))
  else if input.teamId ≠ none ∧ input.finalRole? createdBy ≠ some .employee then
    some .teamNeedsEmployee
  else if input.teamId ≠ none ∧ input.teamId.bind store.liveTeam? = none then
    some .teamNotFound
  else none

/-- Why a registration is refused: the first of the rules that applies. -/
def refusal? (store : Store) (createdBy : Option Uuid) (input : Registration) : Option Failure :=
  (store.admissionRefusal? createdBy input).or
    (if store.liveUsers.any (·.email == input.email) then some (.ofStore .emailTaken) else none)

theorem adminExists_eq (store : Store) : store.adminExists = store.liveUsers.any User.isAdmin := by
  rw [adminExists, liveUsers, List.any_filter]

theorem emailTaken_none (store : Store) (email : String) :
    store.emailTaken email none = store.liveUsers.any (·.email == email) := by
  have other (user : User) : (some user.id != none) = true := rfl
  simp only [emailTaken, liveUsers, List.any_filter, other, Bool.and_true]

end Store

/-- An account as a registration asks for it: a live one that nobody has logged in to. -/
structure Registration.Opens (input : Registration) (createdBy : Option Uuid) (hasher : Hasher)
    (user : User) : Prop where
  email : user.email = input.email
  password : hasher.Hashes user.passwordHash input.password
  firstName : user.firstName = input.firstName
  lastName : user.lastName = input.lastName
  phoneNumber : user.phoneNumber = Workflow.optionalText input.phoneNumber
  role : some user.role = input.finalRole? createdBy
  creator : user.createdBy = createdBy
  team : user.teamId = input.teamId
  session : user.refreshToken = none ∧ user.refreshExpiresAt = none
  live : user.deletedAt = none

namespace Workflow

variable {store : Store} {createdBy : Option Uuid} {input : Registration}

/-! ## What is looked up -/

/-- A registration up to the point where it writes: the creator and the role of the new account. -/
def admission (createdBy : Option Uuid) (input : Registration) :
    Workflow (Option User × Role) := do
  let adminExists ← Workflow.store .adminExists
  if adminExists && createdBy.isNone then
    throw (.ofDenial (.adminRequired .createUser))
  let creator ← registrant createdBy
  if adminExists && !creator.any User.isAdmin then
    throw (.ofDenial (.adminRequired .createUser))
  let role ← permitted (grantedRole adminExists creator input.role)
  placement role input.teamId
  return (creator, role)

/-- The account that a registration asks the store for. -/
def account (input : Registration) (creator : Option User) (role : Role) (passwordHash : String) :
    NewUser where
  email := input.email
  passwordHash
  firstName := input.firstName
  lastName := input.lastName
  phoneNumber := optionalText input.phoneNumber
  role
  createdBy := creator.map User.id
  teamId := input.teamId

theorem register_eq_admission (createdBy : Option Uuid) (input : Registration) :
    Workflow.register createdBy input = do
      let (creator, role) ← admission createdBy input
      let passwordHash ← hashPassword input.password
      let user ← Workflow.store (.createUser (account input creator role passwordHash))
      return user.toPublic := by
  rw [register_eq]
  simp only [admission, account, bind_assoc, pure_bind, ite_bind]

theorem requestedRole_eq (input : Registration) :
    requestedRole input.role =
      match input.askedRole? with
      | some role => .ok role
      | none => .error .unknownRole := by
  unfold requestedRole Registration.askedRole?
  cases input.role with
  | none => rfl
  | some name =>
      dsimp only
      split
      · rfl
      · cases Role.ofName? name <;> rfl

theorem grantedRole_of_unknown (unknown : input.askedRole? = none) (adminExists : Bool)
    (creator : Option User) :
    grantedRole adminExists creator input.role = .error .unknownRole := by
  rw [grantedRole, requestedRole_eq, unknown]
  rfl

theorem grantedRole_anonymous {role : Role} (asked : input.askedRole? = some role) :
    grantedRole false none input.role = .ok .admin := by
  rw [grantedRole, requestedRole_eq, asked]
  rfl

theorem grantedRole_of_creator {role : Role} (asked : input.askedRole? = some role)
    (adminExists : Bool) (creator : User) :
    grantedRole adminExists (some creator) input.role =
      if creator.isAdmin = false ∧ role.isPrivileged = true then
        .error (.adminRequired .assignPrivilegedRole)
      else .ok role := by
  have both : (role.isPrivileged = true ∧ some creator.role ≠ some .admin) ↔
      (creator.isAdmin = false ∧ role.isPrivileged = true) := by
    simp [User.isAdmin, and_comm]
  have checked : grantedRole adminExists (some creator) input.role =
      checkRoleAssignment (some creator.role) role >>= fun _ => .ok role := by
    rw [grantedRole, requestedRole_eq, asked]
    cases adminExists <;> rfl
  simp only [checked, checkRoleAssignment, both]
  split <;> rfl

/-- A workflow fails for this reason if there is one, and else yields a value of this kind. -/
def Decides {α : Type} (store : Store) (workflow : Workflow α) (ends : α → Prop) :
    Option Failure → Prop
  | some failure => Yields store workflow (.error failure)
  | none => ∃ value, ends value ∧ Yields store workflow (.ok value)

section Rules

variable {α β : Type} {ends : β → Prop} {refusal : Option Failure}

theorem Yields.decides_bind {workflow : Workflow α} {rest : α → Workflow β} {value : α}
    (first : Yields store workflow (.ok value)) (second : Decides store (rest value) ends refusal) :
    Decides store (workflow >>= rest) ends refusal := by
  cases refusal with
  | some failure => exact first.bind second
  | none =>
      rcases second with ⟨value, isEnd, second⟩
      exact ⟨value, isEnd, first.bind second⟩

/-- A check that fails exactly if a rule applies comes to that rule before all others. -/
theorem decides_guard {check : Bool} {applies : Prop} [Decidable applies]
    (same : check = true ↔ applies) {failure : Failure} {blocked : PUnit → Workflow β}
    {rest : Workflow β} (next : ¬applies → Decides store rest ends refusal) :
    Decides store (if check then throw failure >>= blocked else rest) ends
      (if applies then some failure else refusal) := by
  by_cases rule : applies
  · rw [if_pos rule, if_pos (same.mpr rule)]
    exact yields_throw_bind failure
  · rw [if_neg rule, if_neg (mt same.mp rule)]
    exact next rule

theorem map_id_creator (found : ¬(createdBy ≠ none ∧ createdBy.bind store.liveUser? = none)) :
    (createdBy.bind store.liveUser?).map User.id = createdBy := by
  cases createdBy with
  | none => rfl
  | some id =>
      cases look_up : store.liveUser? id with
      | none => exact absurd ⟨Option.some_ne_none id, look_up⟩ found
      | some user => simp [look_up, Store.id_of_liveUser? look_up]

theorem decides_registrant_bind {rest : Option User → Workflow β}
    (next : (createdBy.bind store.liveUser?).map User.id = createdBy →
      Decides store (rest (createdBy.bind store.liveUser?)) ends refusal) :
    Decides store (registrant createdBy >>= rest) ends
      (if createdBy ≠ none ∧ createdBy.bind store.liveUser? = none then some .creatorNotFound
        else refusal) := by
  have next := next ∘ map_id_creator
  cases createdBy with
  | none => exact (yields_pure none).decides_bind (next (by simp))
  | some id =>
      simp only [registrant, bind_assoc, bind_map_left]
      refine Yields.decides_bind (yields_store fun _ => rfl) ?_
      rw [Option.bind_some] at next ⊢
      cases found : store.liveUser? id with
      | none => exact yields_throw_bind _
      | some user =>
          rw [found] at next
          rw [if_neg (by simp)]
          refine Yields.decides_bind (yields_pure user) ?_
          exact next (by simp)

/-- The role is read and granted unless it has no such name or the creator may not grant it. -/
theorem decides_grantedRole_bind (createdBy : Option Uuid) {adminExists : Bool} {creator : Option User}
    {rest : Role → Workflow β} (anonymous : creator = none ↔ createdBy = none)
    (first : createdBy = none → adminExists = false)
    (next : ∀ role, some role = input.finalRole? createdBy →
      Decides store (rest role) ends refusal) :
    Decides store (permitted (grantedRole adminExists creator input.role) >>= rest) ends
      (if input.askedRole? = none then some .unknownRole
        else if creator.any (!·.isAdmin) ∧ input.askedRole?.any Role.isPrivileged then
          some (.ofDenial (.adminRequired .assignPrivilegedRole))
        else refusal) := by
  unfold Registration.finalRole? at next
  cases asked : input.askedRole? with
  | none =>
      rw [grantedRole_of_unknown asked]
      exact yields_throw_bind _
  | some role =>
      rw [asked] at next
      cases creator with
      | none =>
          have nobody := anonymous.mp rfl
          rw [first nobody, grantedRole_anonymous asked]
          exact (yields_pure Role.admin).decides_bind (next _ (by rw [if_pos nobody]))
      | some user =>
          have someone : createdBy ≠ none := by simpa using anonymous
          rw [grantedRole_of_creator asked, if_neg (Option.some_ne_none role)]
          by_cases rule : user.isAdmin = false ∧ role.isPrivileged = true
          · rw [if_pos rule, if_pos (by simpa using rule)]
            exact yields_throw_bind _
          · rw [if_neg rule, if_neg (by simpa using rule)]
            exact Yields.decides_bind (yields_pure role) (next _ (by rw [if_neg someone]))

/-- The team of a new account is checked after its role. -/
theorem decides_placement_bind {role : Role} {teamId : Option Uuid} {rest : PUnit → Workflow β}
    (next : Decides store (rest ⟨⟩) ends refusal) :
    Decides store (placement role teamId >>= rest) ends
      (if teamId ≠ none ∧ some role ≠ some .employee then some .teamNeedsEmployee
        else if teamId ≠ none ∧ teamId.bind store.liveTeam? = none then some .teamNotFound
        else refusal) := by
  cases teamId with
  | none => exact (yields_pure PUnit.unit).decides_bind next
  | some team =>
      cases role with
      | employee =>
          change Decides store ((liveTeam team >>= fun _ => pure ⟨⟩) >>= rest) ends _
          simp only [liveTeam, bind_assoc]
          refine Yields.decides_bind (yields_store fun _ => rfl) ?_
          rw [if_neg (by simp)]
          cases found : store.liveTeam? team with
          | none =>
              rw [if_pos ⟨by simp, found⟩]
              exact yields_throw_bind _
          | some live =>
              rw [if_neg (by simp [found])]
              exact (yields_pure live).decides_bind next
      | _ => exact yields_throw_bind _

end Rules

/-- What a registration decides before it writes is what the rules on admission say. -/
theorem decides_admission (store : Store) (createdBy : Option Uuid) (input : Registration) :
    Decides store (admission createdBy input)
      (fun admitted => admitted.1.map User.id = createdBy ∧
        some admitted.2 = input.finalRole? createdBy)
      (store.admissionRefusal? createdBy input) := by
  have asked : Yields store (Workflow.store .adminExists)
      (.ok (store.liveUsers.any User.isAdmin)) :=
    yields_store fun _ => by rw [Store.perform, store.adminExists_eq]
  refine asked.decides_bind (decides_guard (by simp) fun open_to_all => ?_)
  refine decides_registrant_bind fun named => ?_
  refine decides_guard (by simp) fun _ => ?_
  refine decides_grantedRole_bind createdBy ?_ ?_ fun role granted => ?_
  · rw [← Option.map_eq_none_iff, named]
  · intro nobody
    simpa [nobody] using open_to_all
  · rw [← granted]
    exact decides_placement_bind ⟨_, ⟨named, rfl⟩, yields_pure _⟩

end Workflow

theorem Registration.opens_newUserRecord (input : Registration) {createdBy : Option Uuid}
    {hasher : Hasher} {creator : Option User} {role : Role} {hash : String} (moment : Moment)
    (hashes : hasher.Hashes hash input.password) (named : creator.map User.id = createdBy)
    (granted : some role = input.finalRole? createdBy) :
    input.Opens createdBy hasher
      (Store.newUserRecord moment (Workflow.account input creator role hash)) where
  email := rfl
  password := hashes
  firstName := rfl
  lastName := rfl
  phoneNumber := rfl
  role := granted
  creator := named
  team := rfl
  session := ⟨rfl, rfl⟩
  live := rfl

/-- The password is hashed and the account created, unless its address is taken. -/
theorem run_createAccount {input : Registration} {hasher : Hasher} {moments : Nat → Moment}
    {tick : Nat} {hash : String}
    (hashed : hasher.hash (moments tick).salt input.password = .ok hash) (store : Store)
    (tokens : TokenService) (creator : Option User) (role : Role) :
    let user := Store.newUserRecord (moments (tick + 1))
      (Workflow.account input creator role hash)
    (ExceptT.run (do
      let passwordHash ← Workflow.hashPassword input.password
      let user ← Workflow.store (.createUser (Workflow.account input creator role passwordHash))
      return user.toPublic)).run ((System.inMemory hasher tokens).handler moments) ⟨store, tick⟩ =
        if store.liveUsers.any (·.email == input.email) then
          (.error (.ofStore .emailTaken), ⟨store, tick + 2⟩)
        else (.ok user.toPublic, ⟨{ store with users := store.users ++ [user] }, tick + 2⟩) := by
  intro user
  have hashing : (Program.effect (.hashPassword input.password)).run
      ((System.inMemory hasher tokens).handler moments) ⟨store, tick⟩ =
        (.ok hash, ⟨store, tick + 1⟩) :=
    congrArg (fun answer => (answer, World.mk store (tick + 1))) hashed
  let call := StoreCall.createUser (Workflow.account input creator role hash)
  have creating : (Program.effect (.store call)).run
      ((System.inMemory hasher tokens).handler moments) ⟨store, tick + 1⟩ =
        ((store.perform (moments (tick + 1)) call).1,
          ⟨(store.perform (moments (tick + 1)) call).2, tick + 2⟩) := rfl
  rw [Workflow.hashPassword, Workflow.run_lift_bind, hashing]
  dsimp only
  rw [Workflow.store, Workflow.run_lift_bind, creating]
  have asked : (Workflow.account input creator role hash).email = input.email := rfl
  simp only [call, Store.perform, Store.createUser, asked, ← store.emailTaken_none]
  cases store.emailTaken input.email none with
  | true => rfl
  | false => rfl

/--
A registration is refused for the first of the rules that applies and then leaves the store as it
was. If none applies and the password can be hashed, it adds the account that it asks for, made by
its creator, and leaves everything else as it was.
-/
theorem registration_follows_rules (store : Store) (createdBy : Option Uuid) (input : Registration)
    (hasher : Hasher) (tokens : TokenService) (moments : Nat → Moment) (tick : Nat)
    (hashes : ∀ later, ∃ hash, hasher.hash (moments later).salt input.password = .ok hash) :
    let run := (Operation.register createdBy input).program.run
      ((System.inMemory hasher tokens).handler moments) ⟨store, tick⟩
    match store.refusal? createdBy input with
    | some failure => ∃ later, run = (.error failure, ⟨store, later⟩)
    | none => ∃ user later, input.Opens createdBy hasher user ∧
        run = (.ok user.toPublic, ⟨{ store with users := store.users ++ [user] }, later⟩) := by
  have decides := Workflow.decides_admission store createdBy input
  have parts : (Operation.register createdBy input).program = _ :=
    (congrArg ExceptT.run (Workflow.register_eq_admission createdBy input)).trans
      (ExceptT.run_bind ..)
  rw [parts, Store.refusal?, Program.run_bind]
  cases refused : store.admissionRefusal? createdBy input with
  | some failure =>
      rw [refused] at decides
      rcases decides hasher tokens moments tick with ⟨later, run⟩
      rw [run]
      exact ⟨later, rfl⟩
  | none =>
      rw [refused] at decides
      rcases decides with ⟨⟨creator, role⟩, ⟨named, granted⟩, admitted⟩
      rcases admitted hasher tokens moments tick with ⟨later, run⟩
      rcases hashes later with ⟨hash, hashed⟩
      have creates := run_createAccount hashed store tokens creator role
      dsimp only at creates
      rw [run]
      dsimp only
      by_cases taken : store.liveUsers.any (·.email == input.email) = true
      · rw [if_pos taken] at creates ⊢
        exact ⟨_, creates⟩
      · rw [if_neg taken] at creates ⊢
        exact ⟨_, _, input.opens_newUserRecord _ ⟨_, hashed⟩ named granted, creates⟩

/-- Someone who asks to found an organisation as a manager. -/
def ambition : Registration :=
  { founding with role := some "manager" }

/-- The founder becomes an admin whatever it asks for, and later no manager makes another one. -/
theorem ambition_follows_rules :
    let register (store : Store) (createdBy : Option Uuid) :=
      (Operation.register createdBy ambition).program.run
        ((System.inMemory .plain .unsigned).handler .numbered) ⟨store, 8⟩
    let leaderless := staff.after ⟨.numbered 7, .deleteUser ⟨1⟩⟩
    (∀ later, ∃ hash,
      Hasher.plain.hash (Moment.numbered later).salt ambition.password = .ok hash) ∧
      (∃ user later, user.role = .admin ∧
        register {} none = (.ok user.toPublic, ⟨{ users := [user] }, later⟩)) ∧
      ∃ later, register leaderless (some ⟨3⟩) =
        (.error (.forbidden "seul un admin peut créer des admins ou managers"),
          ⟨leaderless, later⟩) := by
  intro register leaderless
  have hashes : ∀ later, ∃ hash,
      Hasher.plain.hash (Moment.numbered later).salt ambition.password = .ok hash :=
    fun _ => ⟨_, rfl⟩
  have founds := registration_follows_rules {} none ambition .plain .unsigned .numbered 8 hashes
  have refused := registration_follows_rules leaderless (some ⟨3⟩) ambition .plain .unsigned
    .numbered 8 hashes
  have unopposed : Store.refusal? {} none ambition = none := by decide +kernel
  have opposed : leaderless.refusal? (some ⟨3⟩) ambition =
      some (.forbidden "seul un admin peut créer des admins ou managers") := by decide +kernel
  rw [unopposed] at founds
  rw [opposed] at refused
  rcases founds with ⟨user, later, opens, run⟩
  exact ⟨hashes, ⟨user, later, Option.some.inj opens.role, run⟩, refused⟩

end OrgAccess
