import OrgAccess.Proofs.Commit
import OrgAccess.Workflow.Registration
import OrgAccess.Workflow.Session
import OrgAccess.Workflow.Teams
import OrgAccess.Workflow.Users

/-!
# What the operations write

Every operation first reads and decides, and writes once at the very end or not at all. This file
states that as a single judgement for each operation, `Operation.commits`: its one write comes
after a history of mere reads, that history bears the write out (`Operation.Justifies`), and a
failure leaves nothing written.

What is proved elsewhere about writes, be it of single requests or of operations whose calls
interleave, starts from this judgement and does not open the operations again.
-/

namespace OrgAccess

/-- What can be asked for, with its arguments. -/
inductive Operation where
  | register (createdBy : Option Uuid) (input : Registration)
  | login (email password : String)
  | refresh (token : String)
  | checkRefreshToken (user : Uuid) (token : String)
  | logout (user : Uuid)
  | profile (caller : Uuid)
  | listUsers (caller : Uuid)
  | getUser (caller id : Uuid)
  | updateUser (caller id : Uuid) (patch : UserPatch)
  | deleteUser (caller id : Uuid)
  | listTeams (caller : Uuid)
  | getTeam (caller team : Uuid)
  | createTeam (caller : Uuid) (draft : TeamDraft)
  | updateTeam (caller team : Uuid) (patch : TeamPatch)
  | deleteTeam (caller team : Uuid)
  | addManager (caller team manager : Uuid)
  | removeManager (caller team manager : Uuid)

namespace Operation

/-- What an operation gives when it succeeds. -/
abbrev Value : Operation → Type
  | register _ _ | getUser _ _ | updateUser _ _ _ => PublicUser
  | login _ _ => Login
  | refresh _ => Renewal
  | checkRefreshToken _ _ => Bool
  | profile _ => Profile
  | listUsers _ => List PublicUser
  | listTeams _ => List TeamDetails
  | getTeam _ _ => TeamDetails
  | createTeam _ _ | updateTeam _ _ _ => Team
  | logout _ | deleteUser _ _ | deleteTeam _ _ | addManager _ _ _ | removeManager _ _ _ => Unit

/-- The user on whose behalf an operation reads or writes. -/
def caller? : Operation → Option Uuid
  | register createdBy _ => createdBy
  | login _ _ | refresh _ | checkRefreshToken _ _ => none
  | logout caller | profile caller | listUsers caller | getUser caller _ | updateUser caller _ _
  | deleteUser caller _ | listTeams caller | getTeam caller _ | createTeam caller _
  | updateTeam caller _ _ | deleteTeam caller _ | addManager caller _ _
  | removeManager caller _ _ => some caller

/-- Whether an operation creates an account. -/
def registers : Operation → Bool
  | register _ _ => true
  | _ => false

/-- The workflow that carries an operation out. -/
def workflow : (operation : Operation) → Workflow operation.Value
  | register createdBy input => Workflow.register createdBy input
  | login email password => Workflow.login email password
  | refresh token => Workflow.refresh token
  | checkRefreshToken user token => Workflow.isCurrentRefreshToken user token
  | logout user => Workflow.logout user
  | profile caller => Workflow.profile caller
  | listUsers caller => Workflow.listUsers caller
  | getUser caller id => Workflow.getUser caller id
  | updateUser caller id patch => Workflow.updateUser caller id patch
  | deleteUser caller id => Workflow.deleteUser caller id
  | listTeams caller => Workflow.listTeams caller
  | getTeam caller team => Workflow.getTeam caller team
  | createTeam caller draft => Workflow.createTeam caller draft
  | updateTeam caller team patch => Workflow.updateTeam caller team patch
  | deleteTeam caller team => Workflow.deleteTeam caller team
  | addManager caller team manager => Workflow.addManager caller team manager
  | removeManager caller team manager => Workflow.removeManager caller team manager

end Operation

/-- Whether a user whom the changes reach belongs to a team only as an employee. -/
def UserChanges.KeepsPlace (changes : UserChanges) (user : User) : Prop :=
  changes.role.getD user.role = .employee ∨ changes.teamId.getD user.teamId = none

/-- What has been seen of a new account when it is created on behalf of someone or of no one. -/
structure History.Admits (history : History) (createdBy : Option Uuid) (data : NewUser) : Prop where
  /-- Only an employee is put into a team. -/
  placed : data.role = .employee ∨ data.teamId = none
  /-- The team was found. -/
  team : ∀ team, data.teamId = some team → history.SawTeam team
  /-- The creator was found. -/
  creator : ∀ creator, data.createdBy = some creator → history.SawUser creator
  /-- What no one creates is an admin. -/
  anonymous : createdBy = none → data.role = .admin ∧ data.createdBy = none

/-- What an operation has seen when it asks for a write. -/
def Operation.Justifies : Operation → History → StoreCall → Prop
  | register createdBy _, history, call =>
    ∃ adminExists data, call = .createUser data ∧ history.Saw .adminExists adminExists ∧
      history.Admits createdBy data ∧
      (adminExists = true → ∃ creator, createdBy = some creator ∧ history.SawAdmin creator)
  | login _ _, history, call =>
    ∃ user pair, history.Issued user pair ∧
      call = .storeRefreshToken user pair.refreshToken pair.refreshExpiresAt
  | refresh token, history, call =>
    ∃ user pair, history.Issued user pair ∧
      call = .rotateRefreshToken user token pair.refreshToken pair.refreshExpiresAt
  | logout user, _, call => call = .revokeRefreshToken user
  | updateUser caller id _, history, call =>
    ∃ changes target, call = .updateUser id changes ∧ history.SawAdmin caller ∧
      history.Saw (.findUser id) (some target) ∧ changes.KeepsPlace target ∧
      ∀ team, changes.teamId = some (some team) → history.SawTeam team
  | deleteUser caller id, history, call => call = .deleteUser id ∧ history.SawAdmin caller
  | createTeam caller _, history, call =>
    (∃ stamp data, call = .createTeam stamp data ∧ history.SawUser data.createdBy) ∧
      history.SawAdmin caller
  | updateTeam caller team _, history, call =>
    (∃ changes, call = .updateTeam team changes) ∧ history.SawAdmin caller
  | deleteTeam caller team, history, call => call = .deleteTeam team ∧ history.SawAdmin caller
  | addManager caller team manager, history, call =>
    call = .addManager team manager ∧ history.SawAdmin caller ∧ history.SawTeam team ∧
      ∃ user, history.Saw (.findUser manager) (some user) ∧ user.role = .manager
  | removeManager caller team manager, history, call =>
    call = .removeManager team manager ∧ history.SawAdmin caller
  | _, _, _ => False

/-- An account was created. -/
def History.SawCreated (history : History) : Prop :=
  ∃ data user, history.Saw (.createUser data) user

/-- A refresh token was presented and replaced by a new one. -/
def History.SawRotated (history : History) (token : String) : Prop :=
  ∃ user new expiresAt, history.Saw (.rotateRefreshToken user token new expiresAt) true

namespace Operation.Justifies

variable {operation : Operation} {history : History}

theorem of_createUser {data : NewUser} (because : operation.Justifies history (.createUser data)) :
    data.role = .employee ∨ data.teamId = none := by
  cases operation with
  | register createdBy input =>
      rcases because with ⟨_, _, same, _, admits, _⟩
      cases same
      exact admits.placed
  | _ => simp [Justifies] at because

theorem of_updateUser {id : Uuid} {changes : UserChanges}
    (because : operation.Justifies history (.updateUser id changes)) :
    ∃ user, history.Saw (.findUser id) (some user) ∧ changes.KeepsPlace user := by
  cases operation with
  | updateUser caller id patch =>
      rcases because with ⟨_, user, same, _, saw, place, _⟩
      cases same
      exact ⟨user, saw, place⟩
  | _ => simp [Justifies] at because

theorem of_addManager {team manager : Uuid}
    (because : operation.Justifies history (.addManager team manager)) :
    ∃ user, history.Saw (.findUser manager) (some user) ∧ user.role = .manager := by
  cases operation with
  | addManager caller team manager =>
      rcases because with ⟨same, _, _, seen⟩
      cases same
      exact seen
  | _ => simp [Justifies] at because

theorem of_storeRefreshToken {user : Uuid} {token : String} {expiresAt : Instant}
    (because : operation.Justifies history (.storeRefreshToken user token expiresAt)) :
    ∃ pair, history.Issued user pair ∧ pair.refreshToken = token := by
  cases operation with
  | login email password =>
      rcases because with ⟨user, pair, issued, same⟩
      cases same
      exact ⟨pair, issued, rfl⟩
  | _ => simp [Justifies] at because

theorem of_rotateRefreshToken {user : Uuid} {old new : String} {expiresAt : Instant}
    (because : operation.Justifies history (.rotateRefreshToken user old new expiresAt)) :
    operation = .refresh old ∧ ∃ pair, history.Issued user pair ∧ pair.refreshToken = new := by
  cases operation with
  | refresh token =>
      rcases because with ⟨user, pair, issued, same⟩
      cases same
      exact ⟨rfl, pair, issued, rfl⟩
  | _ => simp [Justifies] at because

end Operation.Justifies

namespace Workflow

variable {history : History}

/-! ## Registration in parts -/

/-- The live user on whose behalf an account is created. -/
def registrant : Option Uuid → Workflow (Option User)
  | some id => do
    let found ← store (.findUser id)
    some <$> require .creatorNotFound found
  | none => pure none

/-- Checks the team of a new account. -/
def placement (role : Role) : Option Uuid → Workflow Unit
  | some team => do
    if role ≠ .employee then throw .teamNeedsEmployee
    let _ ← liveTeam team
    return
  | none => pure ()

theorem ite_bind {α β : Type} {condition : Prop} [Decidable condition] {first second : Workflow α}
    {rest : α → Workflow β} :
    ((if condition then first else second) >>= rest) =
      if condition then first >>= rest else second >>= rest := by
  split <;> rfl

theorem register_eq (createdBy : Option Uuid) (input : Registration) :
    Workflow.register createdBy input = do
      let adminExists ← store .adminExists
      if adminExists && createdBy.isNone then
        throw (.ofDenial (.adminRequired .createUser))
      let creator ← registrant createdBy
      if adminExists && !creator.any User.isAdmin then
        throw (.ofDenial (.adminRequired .createUser))
      let role ← permitted (grantedRole adminExists creator input.role)
      placement role input.teamId
      let passwordHash ← hashPassword input.password
      let user ← store (.createUser {
        email := input.email
        passwordHash
        firstName := input.firstName
        lastName := input.lastName
        phoneNumber := optionalText input.phoneNumber
        role
        createdBy := creator.map User.id
        teamId := input.teamId })
      return user.toPublic := by
  unfold Workflow.register
  cases createdBy <;> cases input.teamId <;> simp [registrant, placement, ite_bind]

theorem commits_registrant_bind {β : Type} {justified : History → StoreCall → Prop}
    {ends : History → β → Prop} {createdBy : Option Uuid} {rest : Option User → Workflow β}
    (reads : history.ReadsOnly)
    (next : ∀ (later : History) creator, history <+: later → later.ReadsOnly →
      (createdBy = none → creator = none) →
        (∀ user, creator = some user →
          ∃ id, createdBy = some id ∧ later.Saw (.findUser id) (some user)) →
            Commits justified ends later (rest creator)) :
    Commits justified ends history (registrant createdBy >>= rest) := by
  cases createdBy with
  | none => exact next history none (List.prefix_refl history) reads (fun _ => rfl) (by simp)
  | some id =>
      simp only [registrant, bind_assoc, bind_map_left]
      refine commits_store_bind reads rfl fun later found longer reads saw => ?_
      refine commits_require_bind reads fun user same => ?_
      subst same
      refine next later (some user) longer reads (by simp) ?_
      rintro _ ⟨rfl⟩
      exact ⟨id, rfl, saw⟩

theorem commits_placement_bind {β : Type} {justified : History → StoreCall → Prop}
    {ends : History → β → Prop} {role : Role} {teamId : Option Uuid} {rest : Unit → Workflow β}
    (reads : history.ReadsOnly)
    (next : ∀ later : History, history <+: later → later.ReadsOnly →
      (role = .employee ∨ teamId = none) → (∀ team, teamId = some team → later.SawTeam team) →
        Commits justified ends later (rest ())) :
    Commits justified ends history (placement role teamId >>= rest) := by
  cases teamId with
  | none => exact next history (List.prefix_refl history) reads (Or.inr rfl) (by simp)
  | some team =>
      simp only [placement, ite_bind, bind_assoc, pure_bind]
      refine commits_guard reads fun isEmployee => ?_
      refine commits_liveTeam_bind reads fun later _ longer reads seen => ?_
      refine next later longer reads (Or.inl (by simpa using isEmployee)) ?_
      rintro _ ⟨rfl⟩
      exact seen

/-- Where there is no admin, what no one creates is an admin, whatever is asked for. -/
theorem admin_of_grantedRole {requested : Option String} {role : Role}
    (granted : grantedRole false none requested = .ok role) : role = .admin := by
  unfold grantedRole at granted
  cases asked : requestedRole requested with
  | error denial =>
      rw [asked] at granted
      cases granted
  | ok name =>
      rw [asked] at granted
      exact (Except.ok.inj granted).symm

/-- A registration succeeds only with an account that the store created. -/
theorem commits_register {createdBy : Option Uuid} {input : Registration}
    (reads : history.ReadsOnly) :
    Commits (Operation.register createdBy input).Justifies
      (fun later _ => later.WritesLast ∧ later.SawCreated) history (register createdBy input) := by
  rw [register_eq]
  refine commits_store_bind reads rfl fun _ adminExists _ reads asked => ?_
  refine commits_guard reads fun open_to_all => ?_
  refine commits_registrant_bind reads fun _ creator first reads absent named => ?_
  refine commits_guard reads fun admitted => ?_
  refine commits_permitted_bind reads fun role granted => ?_
  refine commits_placement_bind reads fun _ second reads placed teamSeen => ?_
  refine commits_reads_bind reads (reads_hashPassword _) fun later hash third reads _ => ?_
  have longer := second.trans third
  have admits : later.Admits createdBy
      { email := input.email, passwordHash := hash, firstName := input.firstName,
        lastName := input.lastName, phoneNumber := optionalText input.phoneNumber, role,
        createdBy := creator.map User.id, teamId := input.teamId } := by
    refine ⟨placed, fun team same => (teamSeen team same).mono third, ?_, ?_⟩
    · intro id same
      rcases Option.map_eq_some_iff.mp same with ⟨user, found, rfl⟩
      rcases named user found with ⟨asked, _, saw⟩
      exact ⟨asked, user, saw.mono longer, rfl⟩
    · intro nobody
      obtain rfl : creator = none := absent nobody
      obtain rfl : adminExists = false := by simpa [nobody] using open_to_all
      exact ⟨admin_of_grantedRole granted, rfl⟩
  refine commits_write_bind reads ⟨adminExists, _, rfl, ?_, admits, ?_⟩ fun user => ?_
  · exact asked.mono (first.trans longer)
  · intro exists_admin
    cases creator with
    | none => simp [exists_admin] at admitted
    | some user =>
        rcases named user rfl with ⟨id, same, saw⟩
        have isAdmin : user.isAdmin = true := by simpa [exists_admin] using admitted
        exact ⟨id, same, user, saw.mono longer, by simpa [User.isAdmin] using isAdmin⟩
  · exact ⟨reads.writesLast_append, _, user, History.saw_append_self later (.createUser _) user⟩

/-! ## Sessions -/

theorem commits_login {email password : String} (reads : history.ReadsOnly) :
    Commits (Operation.login email password).Justifies
      (fun later _ => later.WritesLast) history (login email password) := by
  unfold login
  refine commits_store_bind reads rfl fun _ found _ reads _ => ?_
  refine commits_require_bind reads fun user _ => ?_
  refine commits_reads_bind reads (reads_verifyPassword _ _) fun _ isRight _ reads _ => ?_
  refine commits_guard reads fun _ => ?_
  refine commits_issueTokens_bind reads fun _ pair _ reads issued => ?_
  refine commits_write_bind reads ⟨user.id, pair, issued, rfl⟩ fun isStored => ?_
  cases isStored with
  | true => exact reads.writesLast_append
  | false => exact commits_throw_refused _ reads rfl

/-- A refresh succeeds only with a rotation that the store accepted. -/
theorem commits_refresh {token : String} (reads : history.ReadsOnly) :
    Commits (Operation.refresh token).Justifies
      (fun later _ => later.WritesLast ∧ later.SawRotated token) history (refresh token) := by
  unfold refresh
  refine commits_reads_bind reads (reads_lift (reads_effect rfl)) fun _ claims _ reads _ => ?_
  refine commits_issueTokens_bind reads fun later pair _ reads issued => ?_
  refine commits_write_bind reads ⟨claims.userId, pair, issued, rfl⟩ fun isRotated => ?_
  cases isRotated with
  | true =>
      refine ⟨reads.writesLast_append, claims.userId, pair.refreshToken, pair.refreshExpiresAt, ?_⟩
      exact History.saw_append_self later (.rotateRefreshToken _ token _ _) true
  | false => exact commits_throw_refused _ reads rfl

theorem reads_isCurrentRefreshToken (user : Uuid) (token : String) :
    Reads (fun _ => True) (isCurrentRefreshToken user token) := by
  unfold isCurrentRefreshToken
  refine reads_bind (reads_store rfl) fun found _ => ?_
  refine reads_bind (reads_require _ found) fun user _ => ?_
  exact reads_bind reads_readMoment fun moment _ => reads_pure trivial

theorem reads_profile (caller : Uuid) : Reads (fun _ => True) (profile caller) := by
  unfold profile
  refine reads_bind (reads_store rfl) fun found _ => ?_
  refine reads_bind (reads_require _ found) fun user _ => ?_
  refine reads_bind (reads_resolveActor caller) fun actor _ => ?_
  have finishes (team : Option Team) :
      Reads (fun _ => True)
        (actor.managedTeamIds.mapM (fun team => store (.findTeam team)) >>= fun teams =>
          pure ({ user := user.toPublic, team, teams := teams.filterMap id } : Profile)) :=
    reads_bind (reads_mapM fun _ => reads_store rfl) fun teams _ => reads_pure trivial
  dsimp only
  split
  · exact reads_bind (reads_store rfl) fun team _ => finishes team
  · exact finishes none

/-! ## Users -/

theorem reads_listUsers (caller : Uuid) : Reads (fun _ => True) (listUsers caller) := by
  unfold listUsers
  refine reads_bind (reads_resolveActor caller) fun actor _ => ?_
  exact reads_bind (reads_store rfl) fun users _ => reads_pure trivial

theorem reads_getUser (caller id : Uuid) : Reads (fun _ => True) (getUser caller id) := by
  unfold getUser
  refine reads_bind (reads_resolveActor caller) fun actor _ => ?_
  refine reads_bind (reads_store rfl) fun found _ => ?_
  refine reads_bind (reads_require _ found) fun user _ => ?_
  exact reads_bind (reads_permitted _) fun _ _ => reads_pure trivial

theorem reads_patchedRole (name : Option String) : Reads (fun _ => True) (patchedRole name) := by
  cases name with
  | none => exact reads_pure trivial
  | some name =>
      refine reads_bind (reads_require _ (Role.ofName? name)) fun role _ => ?_
      exact reads_pure trivial

/-- The change of team once the requested team is checked. -/
def settledTeam (target : User) (role : Role) (requested : Option (Option Uuid)) :
    Option (Option Uuid) :=
  if role ≠ .employee ∧ target.teamId.isSome then some none else requested

theorem patchedTeam_eq (target : User) (role : Role) (requested : Option (Option Uuid)) :
    patchedTeam target role requested =
      placement role requested.join >>= fun _ => pure (settledTeam target role requested) := by
  have settle : (pure (settledTeam target role requested) : Workflow (Option (Option Uuid))) =
      if role ≠ .employee ∧ target.teamId.isSome then pure (some none) else pure requested :=
    apply_ite pure _ _ _
  rw [settle]
  rcases requested with _ | _ | team
  · rfl
  · rfl
  · simp [patchedTeam, placement, ite_bind]

/-- Only an employee is left in a team or put into one. -/
theorem settledTeam_placed {target : User} {role : Role} {requested : Option (Option Uuid)}
    (placed : role = .employee ∨ requested.join = none) :
    role = .employee ∨ (settledTeam target role requested).getD target.teamId = none := by
  by_cases isEmployee : role = .employee
  · exact Or.inl isEmployee
  · right
    unfold settledTeam
    split
    · rfl
    · rename_i stays
      have has_no_team : target.teamId = none := by simpa [isEmployee] using stays
      rcases requested with _ | teamId
      · exact has_no_team
      · exact placed.resolve_left isEmployee

theorem eq_of_settledTeam {target : User} {role : Role} {requested : Option (Option Uuid)}
    {team : Uuid} (settled : settledTeam target role requested = some (some team)) :
    requested.join = some team := by
  unfold settledTeam at settled
  split at settled
  · cases settled
  · rw [settled]
    rfl

theorem commits_patchedTeam_bind {β : Type} {justified : History → StoreCall → Prop}
    {ends : History → β → Prop} {target : User} {role : Role}
    {requested : Option (Option Uuid)} {rest : Option (Option Uuid) → Workflow β}
    (reads : history.ReadsOnly)
    (next : ∀ (later : History) teamId, history <+: later → later.ReadsOnly →
      (role = .employee ∨ teamId.getD target.teamId = none) →
        (∀ team, teamId = some (some team) → later.SawTeam team) →
          Commits justified ends later (rest teamId)) :
    Commits justified ends history (patchedTeam target role requested >>= rest) := by
  rw [patchedTeam_eq, bind_assoc]
  refine commits_placement_bind reads fun later longer reads placed seen => ?_
  rw [pure_bind]
  refine next later _ longer reads (settledTeam_placed placed) fun team settled => ?_
  exact seen team (eq_of_settledTeam settled)

theorem reads_patchedPassword (password : Option String) :
    Reads (fun _ => True) (patchedPassword password) := by
  unfold patchedPassword
  refine reads_bind (reads_requiredText _ _) fun checked _ => ?_
  cases checked with
  | none => exact reads_pure trivial
  | some password =>
      dsimp only
      split
      · exact reads_throw _
      · exact reads_bind (reads_hashPassword password) fun hash _ => reads_pure trivial

theorem commits_updateUser {caller id : Uuid} {patch : UserPatch} (reads : history.ReadsOnly) :
    Commits (Operation.updateUser caller id patch).Justifies
      (fun later _ => later.WritesLast) history (updateUser caller id patch) := by
  unfold updateUser
  refine commits_resolveAdmin_bind reads fun _ _ _ reads admin _ => ?_
  refine commits_store_bind reads rfl fun _ found first reads saw => ?_
  refine commits_require_bind reads fun target same => ?_
  subst same
  refine commits_reads_bind reads (reads_patchedRole _) fun _ role second reads _ => ?_
  refine commits_patchedTeam_bind reads fun _ teamId third reads placed teamSeen => ?_
  refine commits_reads_bind reads (reads_patchedPassword _) fun _ hash fourth reads _ => ?_
  refine commits_reads_bind reads (reads_requiredText _ _) fun _ email fifth reads _ => ?_
  refine commits_reads_bind reads (reads_requiredText _ _) fun _ firstName sixth reads _ => ?_
  refine commits_reads_bind reads (reads_requiredText _ _) fun _ lastName last reads _ => ?_
  have since_team := fourth.trans (fifth.trans (sixth.trans last))
  have longer := second.trans (third.trans since_team)
  dsimp only
  split
  · exact reads.writesLast
  · refine commits_write_bind reads ?_ fun updated => ?_
    · refine ⟨_, target, rfl, admin.mono (first.trans longer), saw.mono longer, placed, ?_⟩
      exact fun team same => (teamSeen team same).mono since_team
    · cases updated with
      | none => exact commits_throw_refused _ reads rfl
      | some user => exact reads.writesLast_append

theorem commits_deleteUser {caller id : Uuid} (reads : history.ReadsOnly) :
    Commits (Operation.deleteUser caller id).Justifies
      (fun later _ => later.WritesLast) history (deleteUser caller id) := by
  unfold deleteUser
  refine commits_resolveAdmin_bind reads fun _ _ _ reads admin _ => ?_
  refine commits_write_bind reads ⟨rfl, admin⟩ fun isDeleted => ?_
  cases isDeleted with
  | true => exact reads.writesLast_append
  | false => exact commits_throw_refused _ reads rfl

/-! ## Teams -/

theorem reads_teamDetails (actor : Actor) (team : Team) :
    Reads (fun _ => True) (teamDetails actor team) := by
  unfold teamDetails
  refine reads_bind (reads_store rfl) fun employees _ => ?_
  exact reads_bind (reads_store rfl) fun managers _ => reads_pure trivial

theorem reads_listTeams (caller : Uuid) : Reads (fun _ => True) (listTeams caller) := by
  unfold listTeams
  refine reads_bind (reads_resolveActor caller) fun actor _ => ?_
  refine reads_bind (reads_store rfl) fun teams _ => ?_
  exact reads_mapM fun team => reads_teamDetails actor team

theorem reads_getTeam (caller team : Uuid) : Reads (fun _ => True) (getTeam caller team) := by
  unfold getTeam
  refine reads_bind (reads_resolveActor caller) fun actor _ => ?_
  refine reads_bind (reads_liveTeam team) fun team _ => ?_
  exact reads_bind (reads_permitted _) fun _ _ => reads_teamDetails actor team

/-- An admin who was found live creates a team, and its record has a stamp that was read. -/
theorem commits_createTeam {justified : History → StoreCall → Prop} {caller : Uuid}
    {draft : TeamDraft} (reads : history.ReadsOnly)
    (because : ∀ (later : History) stamp data, later.SawAdmin caller →
      later.SawUser data.createdBy → later.SawMoment stamp →
        justified later (.createTeam stamp data)) :
    Commits justified (fun later _ => later.WritesLast) history (createTeam caller draft) := by
  unfold createTeam
  refine commits_resolveAdmin_bind reads fun _ actor _ reads admin self => ?_
  refine commits_guard reads fun _ => ?_
  unfold storeTeam
  refine commits_readMoment_bind reads fun later stamp longer reads stamped => ?_
  exact commits_last_write reads
    (because later stamp _ (admin.mono longer) (self.mono longer) stamped)

theorem commits_updateTeam {caller team : Uuid} {patch : TeamPatch} (reads : history.ReadsOnly) :
    Commits (Operation.updateTeam caller team patch).Justifies
      (fun later _ => later.WritesLast) history (updateTeam caller team patch) := by
  unfold updateTeam
  refine commits_resolveAdmin_bind reads fun _ _ _ reads admin _ => ?_
  refine commits_reads_bind reads (reads_requiredText _ _) fun _ name longer reads _ => ?_
  refine commits_write_bind reads ⟨⟨_, rfl⟩, admin.mono longer⟩ fun updated => ?_
  cases updated with
  | some team => exact reads.writesLast_append
  | none => exact commits_throw_refused _ reads rfl

theorem commits_deleteTeam {caller team : Uuid} (reads : history.ReadsOnly) :
    Commits (Operation.deleteTeam caller team).Justifies
      (fun later _ => later.WritesLast) history (deleteTeam caller team) := by
  unfold deleteTeam
  refine commits_resolveAdmin_bind reads fun _ _ _ reads admin _ => ?_
  refine commits_write_bind reads ⟨rfl, admin⟩ fun isDeleted => ?_
  cases isDeleted with
  | true => exact reads.writesLast_append
  | false => exact commits_throw_refused _ reads rfl

theorem commits_addManager {caller team manager : Uuid} (reads : history.ReadsOnly) :
    Commits (Operation.addManager caller team manager).Justifies
      (fun later _ => later.WritesLast) history (addManager caller team manager) := by
  unfold addManager
  refine commits_resolveAdmin_bind reads fun _ _ _ reads admin _ => ?_
  refine commits_store_bind reads rfl fun _ found first reads saw => ?_
  refine commits_require_bind reads fun user same => ?_
  subst same
  refine commits_guard reads fun isManager => ?_
  refine commits_liveTeam_bind reads fun _ _ second reads seen => ?_
  refine commits_last_write reads ⟨rfl, admin.mono (first.trans second), seen, user, ?_, ?_⟩
  · exact saw.mono second
  · simpa using isManager

theorem commits_removeManager {caller team manager : Uuid} (reads : history.ReadsOnly) :
    Commits (Operation.removeManager caller team manager).Justifies
      (fun later _ => later.WritesLast) history (removeManager caller team manager) := by
  unfold removeManager
  refine commits_resolveAdmin_bind reads fun _ _ _ reads admin _ => ?_
  refine commits_store_bind reads rfl fun _ found first reads saw => ?_
  refine commits_require_bind reads fun user _ => ?_
  refine commits_reads_bind reads (reads_liveTeam team) fun _ _ second reads _ => ?_
  exact commits_last_write reads ⟨rfl, admin.mono (first.trans second)⟩

end Workflow

/--
Every operation reads, then makes at most one write, which its history bears out, and has written
nothing when it fails.
-/
theorem Operation.commits (operation : Operation) {history : History} (reads : history.ReadsOnly) :
    Workflow.Commits operation.Justifies (fun later _ => later.WritesLast) history
      operation.workflow := by
  have only_reads {gives : operation.Value → Prop}
      (workflow_reads : Workflow.Reads gives operation.workflow) :
      Workflow.Commits operation.Justifies (fun later _ => later.WritesLast) history
        operation.workflow :=
    workflow_reads.commits reads fun _ _ _ later_reads _ => later_reads.writesLast
  cases operation with
  | register createdBy input =>
      refine (Workflow.commits_register reads).mono (fun _ _ _ allowed => allowed)
        (fun _ _ _ failed => failed) ?_
      exact fun _ _ _ ended => ended.1
  | login email password => exact Workflow.commits_login reads
  | refresh token =>
      refine (Workflow.commits_refresh reads).mono (fun _ _ _ allowed => allowed)
        (fun _ _ _ failed => failed) ?_
      exact fun _ _ _ ended => ended.1
  | checkRefreshToken user token => exact only_reads (Workflow.reads_isCurrentRefreshToken user token)
  | logout user => exact Workflow.commits_last_write reads rfl
  | profile caller => exact only_reads (Workflow.reads_profile caller)
  | listUsers caller => exact only_reads (Workflow.reads_listUsers caller)
  | getUser caller id => exact only_reads (Workflow.reads_getUser caller id)
  | updateUser caller id patch => exact Workflow.commits_updateUser reads
  | deleteUser caller id => exact Workflow.commits_deleteUser reads
  | listTeams caller => exact only_reads (Workflow.reads_listTeams caller)
  | getTeam caller team => exact only_reads (Workflow.reads_getTeam caller team)
  | createTeam caller draft =>
      refine Workflow.commits_createTeam reads fun _ stamp data admin self _ => ?_
      exact ⟨⟨stamp, data, rfl, self⟩, admin⟩
  | updateTeam caller team patch => exact Workflow.commits_updateTeam reads
  | deleteTeam caller team => exact Workflow.commits_deleteTeam reads
  | addManager caller team manager => exact Workflow.commits_addManager reads
  | removeManager caller team manager => exact Workflow.commits_removeManager reads

/-- The program of an operation, which ends with a failure or a value. -/
def Operation.program (operation : Operation) : Program (Except Failure operation.Value) :=
  ExceptT.run operation.workflow

/-- The judgement on a workflow is one on its program. -/
theorem Operation.obeys_of_commits {operation : Operation} {justified : History → StoreCall → Prop}
    {ends : History → operation.Value → Prop}
    {ends' : History → Except Failure operation.Value → Prop}
    (commits : Workflow.Commits justified ends [] operation.workflow)
    (values : ∀ later value, ends later value → ends' later (.ok value))
    (failures : ∀ (later : History) failure, later.WritesLast → later.Quiet →
      ends' later (.error failure)) :
    operation.program.Obeys (fun later call => later.ReadsOnly ∧ justified later call)
      ends' [] := by
  refine Program.Obeys.mono commits (fun _ _ _ allowed => allowed) fun later result _ ended => ?_
  cases result with
  | ok value => exact values later value ended
  | error failure => exact failures later failure ended.1 ended.2

theorem Operation.program_obeys (operation : Operation) :
    operation.program.Obeys (fun later call => later.ReadsOnly ∧ operation.Justifies later call)
      (fun later result =>
        later.WritesLast ∧ ∀ failure, result = .error failure → later.Quiet) [] := by
  apply Operation.obeys_of_commits (operation.commits History.readsOnly_nil)
  · exact fun later value written => ⟨written, by simp⟩
  · exact fun later failure written quiet => ⟨written, fun _ _ => quiet⟩

/-- An operation with what came of it. -/
structure Outcome where
  /-- What was asked for. -/
  operation : Operation
  /-- What came of it. -/
  result : Except Failure operation.Value

/-- Whether an operation ended without a failure. -/
def Outcome.Succeeded (outcome : Outcome) : Prop :=
  ∃ value, outcome.result = .ok value

/-- Whether a refresh succeeded exactly if the store accepted its token. -/
def Outcome.TellsRotation (outcome : Outcome) (history : History) : Prop :=
  ∀ token, outcome.operation = .refresh token → (outcome.Succeeded ↔ history.SawRotated token)

/-- Whether a registration succeeded exactly if the store created an account. -/
def Outcome.TellsCreation (outcome : Outcome) (history : History) : Prop :=
  ∀ createdBy input, outcome.operation = .register createdBy input →
    (outcome.Succeeded ↔ history.SawCreated)

/-- An operation that succeeds only with an accepted write succeeds exactly with it. -/
theorem Operation.succeeds_iff (operation : Operation) {accepted : History → Prop}
    (commits : Workflow.Commits operation.Justifies
      (fun later _ => later.WritesLast ∧ accepted later) [] operation.workflow)
    (loud : ∀ later : History, later.Quiet → ¬accepted later) :
    operation.program.Obeys (fun later call => later.ReadsOnly ∧ operation.Justifies later call)
      (fun later result => Outcome.Succeeded ⟨operation, result⟩ ↔ accepted later) [] := by
  apply Operation.obeys_of_commits commits
  · intro later value ended
    exact iff_of_true ⟨value, rfl⟩ ended.2
  · intro later failure _ quiet
    exact iff_of_false (by simp [Outcome.Succeeded]) (loud later quiet)

theorem Operation.tellsRotation (operation : Operation) :
    operation.program.Obeys (fun later call => later.ReadsOnly ∧ operation.Justifies later call)
      (fun later result => Outcome.TellsRotation ⟨operation, result⟩ later) [] := by
  cases operation with
  | refresh token =>
      have succeeds := Operation.succeeds_iff (.refresh token)
        (Workflow.commits_refresh History.readsOnly_nil) <| by
          rintro later quiet ⟨user, new, expiresAt, saw⟩
          have refused := quiet _ saw
          simp [Exchange.isQuiet, StoreCall.isWrite, StoreCall.isRefused] at refused
      refine succeeds.mono (fun _ _ _ allowed => allowed) ?_
      rintro later result _ told _ ⟨rfl⟩
      exact told
  | _ =>
      refine (Operation.program_obeys _).mono (fun _ _ _ allowed => allowed) ?_
      rintro _ _ _ _ _ ⟨⟩

theorem Operation.tellsCreation (operation : Operation) :
    operation.program.Obeys (fun later call => later.ReadsOnly ∧ operation.Justifies later call)
      (fun later result => Outcome.TellsCreation ⟨operation, result⟩ later) [] := by
  cases operation with
  | register createdBy input =>
      have succeeds := Operation.succeeds_iff (.register createdBy input)
        (Workflow.commits_register History.readsOnly_nil) <| by
          rintro later quiet ⟨data, user, saw⟩
          have refused := quiet _ saw
          simp [Exchange.isQuiet, StoreCall.isWrite, StoreCall.isRefused] at refused
      refine succeeds.mono (fun _ _ _ allowed => allowed) ?_
      rintro later result _ told _ _ ⟨rfl⟩
      exact told
  | _ =>
      refine (Operation.program_obeys _).mono (fun _ _ _ allowed => allowed) ?_
      rintro _ _ _ _ _ _ ⟨⟩

/-- The program of an operation among others. -/
def Operation.outcome (operation : Operation) : Program Outcome := do
  return ⟨operation, ← operation.program⟩

theorem Operation.outcome_obeys (operation : Operation) :
    operation.outcome.Obeys (fun later call => later.ReadsOnly ∧ operation.Justifies later call)
      (fun _ _ => True) [] := by
  rw [outcome, Program.obeys_bind]
  exact operation.program_obeys.mono (fun _ _ _ allowed => allowed) fun _ _ _ _ => trivial

end OrgAccess
