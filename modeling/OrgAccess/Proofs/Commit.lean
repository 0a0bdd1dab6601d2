import OrgAccess.Proofs.History
import OrgAccess.Workflow.Caller

/-!
# Workflows that read and then write

A workflow that changes anything reads and decides first and writes once at the very end.
`Workflow.Reads` and `Workflow.Commits` say so for a part of a workflow and for the whole of one,
and this file follows both through the steps from which workflows are built. The caller is among
them: whoever gets past the check for admins was found live and an admin.
-/

namespace OrgAccess

/-- A user who was found live and an admin. -/
def History.SawAdmin (history : History) (caller : Uuid) : Prop :=
  ∃ user, history.Saw (.findUser caller) (some user) ∧ user.role = .admin

/-- A user with this identifier was found live. -/
def History.SawUser (history : History) (id : Uuid) : Prop :=
  ∃ asked user, history.Saw (.findUser asked) (some user) ∧ user.id = id

/-- A team was found live. -/
def History.SawTeam (history : History) (team : Uuid) : Prop :=
  ∃ found, history.Saw (.findTeam team) (some found)

/-- A pair of tokens was issued for a user. -/
def History.Issued (history : History) (user : Uuid) (pair : TokenPair) : Prop :=
  (⟨.issueTokens user, .ok pair⟩ : Exchange) ∈ history

/-- A moment was read. -/
def History.SawMoment (history : History) (moment : Moment) : Prop :=
  (⟨.readMoment, moment⟩ : Exchange) ∈ history

theorem History.SawAdmin.mono {history later : History} {caller : Uuid}
    (admin : history.SawAdmin caller) (longer : history <+: later) : later.SawAdmin caller := by
  rcases admin with ⟨user, saw, isAdmin⟩
  exact ⟨user, saw.mono longer, isAdmin⟩

theorem History.SawUser.mono {history later : History} {id : Uuid} (seen : history.SawUser id)
    (longer : history <+: later) : later.SawUser id := by
  rcases seen with ⟨asked, user, saw, named⟩
  exact ⟨asked, user, saw.mono longer, named⟩

theorem History.SawTeam.mono {history later : History} {team : Uuid} (seen : history.SawTeam team)
    (longer : history <+: later) : later.SawTeam team := by
  rcases seen with ⟨found, saw⟩
  exact ⟨found, saw.mono longer⟩

namespace Workflow

variable {α β ε : Type} {justified : History → StoreCall → Prop} {history : History}
  {ends : History → β → Prop}

/-- A workflow that writes nothing and gives only such values, whatever it is answered. -/
def Reads (gives : α → Prop) (workflow : Workflow α) : Prop :=
  ∀ history : History, history.ReadsOnly →
    Attempt.Obeys (fun _ _ => False) (fun later _ => later.ReadsOnly)
      (fun later value => later.ReadsOnly ∧ gives value) history workflow

/--
A workflow that reads, then makes at most one write that its history justifies, and that has
written nothing when it fails.
-/
def Commits (justified : History → StoreCall → Prop) (ends : History → α → Prop)
    (history : History) (workflow : Workflow α) : Prop :=
  Attempt.Obeys (fun later call => later.ReadsOnly ∧ justified later call)
    (fun later _ => later.WritesLast ∧ later.Quiet) ends history workflow

/-! ## Workflows that only read -/

theorem reads_pure {gives : α → Prop} {value : α} (given : gives value) :
    Reads gives (pure value) :=
  fun _ reads => ⟨reads, given⟩

theorem reads_throw {gives : α → Prop} (failure : Failure) :
    Reads gives (throw failure : Workflow α) :=
  fun _ reads => reads

theorem Reads.weaken {gives gives' : α → Prop} {workflow : Workflow α}
    (reads : Reads gives workflow) (weaker : ∀ value, gives value → gives' value) :
    Reads gives' workflow := by
  intro history read
  refine (reads history read).mono (fun _ _ _ allowed => allowed) (fun _ _ _ failed => failed) ?_
  rintro later value _ ⟨read, given⟩
  exact ⟨read, weaker value given⟩

theorem reads_bind {gives : α → Prop} {gives' : β → Prop} {workflow : Workflow α}
    {rest : α → Workflow β} (first : Reads gives workflow)
    (second : ∀ value, gives value → Reads gives' (rest value)) :
    Reads gives' (workflow >>= rest) := by
  intro history reads
  rw [Attempt.obeys_bind]
  refine (first history reads).mono (fun _ _ _ allowed => allowed)
    (fun _ _ _ failed => failed) ?_
  rintro later value _ ⟨reads, given⟩
  exact second value given later reads

theorem reads_effect {effect : Effect} (isRead : effect.isWrite = false) (history : History)
    (reads : history.ReadsOnly) :
    (Program.effect effect).Obeys (fun _ _ => False) (fun later _ => later.ReadsOnly) history := by
  refine ⟨?_, fun answer => History.readsOnly_append_singleton.mpr ⟨reads, isRead⟩⟩
  rintro write rfl isWrite
  exact Bool.false_ne_true (isRead.symm.trans isWrite)

theorem reads_lift {toFailure : ε → Failure} {program : Program (Except ε α)}
    (program_reads : ∀ history : History, history.ReadsOnly →
      program.Obeys (fun _ _ => False) (fun later _ => later.ReadsOnly) history) :
    Reads (fun _ => True) (lift toFailure program) := by
  intro history reads
  rw [obeys_lift]
  refine (program_reads history reads).mono (fun _ _ _ allowed => allowed) ?_
  intro later result _ reads
  cases result with
  | ok value => exact ⟨reads, trivial⟩
  | error error => exact reads

theorem reads_store {call : StoreCall} (isRead : call.isWrite = false) :
    Reads (fun _ => True) (store call) :=
  reads_lift (reads_effect isRead)

theorem reads_hashPassword (password : String) : Reads (fun _ => True) (hashPassword password) :=
  reads_lift (reads_effect rfl)

theorem reads_verifyPassword (stored password : String) :
    Reads (fun _ => True) (verifyPassword stored password) :=
  reads_lift (reads_effect rfl)

theorem reads_readMoment :
    Reads (fun _ => True) (ExceptT.lift (Program.effect .readMoment)) := by
  intro history reads
  refine ⟨by simp, fun moment => ⟨?_, trivial⟩⟩
  exact History.readsOnly_append_singleton.mpr ⟨reads, rfl⟩

theorem reads_require (failure : Failure) (option : Option α) :
    Reads (fun value => option = some value) (require failure option) := by
  cases option with
  | none => exact reads_throw failure
  | some value => exact reads_pure rfl

theorem reads_permitted (decision : Except Denial α) :
    Reads (fun value => decision = .ok value) (permitted decision) := by
  cases decision with
  | ok value => exact reads_pure rfl
  | error denial => exact reads_throw _

theorem reads_mapM {items : List α} {workflow : α → Workflow β}
    (each : ∀ item, Reads (fun _ => True) (workflow item)) :
    Reads (fun _ => True) (items.mapM workflow) := by
  induction items with
  | nil => exact reads_pure trivial
  | cons item items ih =>
      rw [List.mapM_cons]
      exact reads_bind (each item) fun value _ => reads_bind ih fun values _ => reads_pure trivial

/-! ## Steps of a workflow that may write -/

theorem commits_bind {workflow : Workflow α} {rest : α → Workflow β} :
    Commits justified ends history (workflow >>= rest) ↔
      Commits justified (fun later value => Commits justified ends later (rest value)) history
        workflow :=
  Attempt.obeys_bind

theorem commits_throw_bind {rest : α → Workflow β} (failure : Failure)
    (reads : history.ReadsOnly) : Commits justified ends history (throw failure >>= rest) :=
  ⟨reads.writesLast, reads.quiet⟩

/-- A check before the rest, which a failed one cuts off. -/
theorem commits_guard {condition : Prop} [Decidable condition] {failure : Failure}
    {rest : Unit → Workflow β} (reads : history.ReadsOnly)
    (next : ¬condition → Commits justified ends history (rest ())) :
    Commits justified ends history (if condition then throw failure >>= rest else rest ()) := by
  split
  · exact commits_throw_bind failure reads
  · rename_i passed
    exact next passed

theorem Reads.commits {gives : α → Prop} {workflow : Workflow α} {ends : History → α → Prop}
    (workflow_reads : Reads gives workflow) (reads : history.ReadsOnly)
    (next : ∀ (later : History) value, history <+: later → later.ReadsOnly → gives value →
      ends later value) :
    Commits justified ends history workflow := by
  refine (workflow_reads history reads).mono ?_ ?_ ?_
  · intro _ _ _ impossible
    exact impossible.elim
  · intro later _ _ later_reads
    exact ⟨later_reads.writesLast, later_reads.quiet⟩
  · rintro later value longer ⟨later_reads, given⟩
    exact next later value longer later_reads given

theorem commits_reads_bind {gives : α → Prop} {workflow : Workflow α} {rest : α → Workflow β}
    (reads : history.ReadsOnly) (workflow_reads : Reads gives workflow)
    (next : ∀ (later : History) value, history <+: later → later.ReadsOnly → gives value →
      Commits justified ends later (rest value)) :
    Commits justified ends history (workflow >>= rest) :=
  commits_bind.mpr (workflow_reads.commits reads next)

theorem commits_require_bind {failure : Failure} {option : Option α} {rest : α → Workflow β}
    (reads : history.ReadsOnly)
    (next : ∀ value, option = some value → Commits justified ends history (rest value)) :
    Commits justified ends history (require failure option >>= rest) := by
  cases option with
  | none => exact commits_throw_bind failure reads
  | some value => exact next value rfl

theorem commits_permitted_bind {decision : Except Denial α} {rest : α → Workflow β}
    (reads : history.ReadsOnly)
    (next : ∀ value, decision = .ok value → Commits justified ends history (rest value)) :
    Commits justified ends history (permitted decision >>= rest) := by
  cases decision with
  | error denial => exact commits_throw_bind _ reads
  | ok value => exact next value rfl

theorem commits_store_bind {call : StoreCall} {rest : call.Answer → Workflow β}
    (reads : history.ReadsOnly) (isRead : call.isWrite = false)
    (next : ∀ (later : History) value, history <+: later → later.ReadsOnly →
      later.Saw call value → Commits justified ends later (rest value)) :
    Commits justified ends history (store call >>= rest) := by
  have later_reads (answer : Except StoreError call.Answer) :
      History.ReadsOnly (history ++ [⟨.store call, answer⟩]) :=
    History.readsOnly_append_singleton.mpr ⟨reads, isRead⟩
  rw [commits_bind, Commits, obeys_store]
  refine ⟨by simp [isRead], fun error => ?_, fun value => ?_⟩
  · exact ⟨(later_reads _).writesLast, (later_reads _).quiet⟩
  · exact next _ value (List.prefix_append history _) (later_reads _)
      (History.saw_append_self history call value)

theorem commits_issueTokens_bind {user : Uuid} {rest : TokenPair → Workflow β}
    (reads : history.ReadsOnly)
    (next : ∀ (later : History) pair, history <+: later → later.ReadsOnly →
      later.Issued user pair → Commits justified ends later (rest pair)) :
    Commits justified ends history (issueTokens user >>= rest) := by
  have later_reads (answer : Except TokenError TokenPair) :
      History.ReadsOnly (history ++ [⟨.issueTokens user, answer⟩]) :=
    History.readsOnly_append_singleton.mpr ⟨reads, rfl⟩
  rw [commits_bind, Commits, issueTokens, obeys_lift]
  refine ⟨by simp, fun answer => ?_⟩
  cases answer with
  | error error => exact ⟨(later_reads _).writesLast, (later_reads _).quiet⟩
  | ok pair =>
      refine next _ pair (List.prefix_append history _) (later_reads _) ?_
      simp [History.Issued]

theorem commits_readMoment_bind {rest : Moment → Workflow β} (reads : history.ReadsOnly)
    (next : ∀ (later : History) moment, history <+: later → later.ReadsOnly →
      later.SawMoment moment → Commits justified ends later (rest moment)) :
    Commits justified ends history
      (ExceptT.lift (Program.effect .readMoment) >>= rest) := by
  refine ⟨by simp, fun moment => ?_⟩
  exact next _ moment (List.prefix_append history _)
    (History.readsOnly_append_singleton.mpr ⟨reads, rfl⟩) (by simp [History.SawMoment])

/-- The write of a workflow is its last exchange, and a refusal may make it fail. -/
theorem commits_write_bind {call : StoreCall} {rest : call.Answer → Workflow β}
    (reads : history.ReadsOnly) (because : justified history call)
    (next : ∀ value, Commits justified ends (history ++ [⟨.store call, .ok value⟩]) (rest value)) :
    Commits justified ends history (store call >>= rest) := by
  rw [commits_bind, Commits, obeys_store]
  refine ⟨fun _ => ⟨reads, because⟩, fun error => ?_, next⟩
  refine ⟨reads.writesLast_append, reads.quiet_append ?_⟩
  simp [Exchange.isQuiet, StoreCall.isRefused]

/-! ## The caller -/

/-- The caller once its record is found. -/
def actorOf (user : User) : Workflow Actor := do
  let teamId ← match user.role, user.teamId with
    | .employee, some team => do
      let found ← store (.findTeam team)
      pure (found.map Team.id)
    | _, _ => pure none
  let managedTeamIds ←
    if user.role = .manager then store (.managedTeamIds user.id) else pure []
  return { id := user.id, role := user.role, teamId, managedTeamIds }

theorem resolveActor_eq (caller : Uuid) :
    resolveActor caller = store (.findUser caller) >>= fun found =>
      require .callerUnknown found >>= actorOf := rfl

theorem reads_actorOf (user : User) :
    Reads (fun actor => actor.id = user.id ∧ actor.role = user.role) (actorOf user) := by
  unfold actorOf
  have managed (teamId : Option Uuid) :
      Reads (fun actor : Actor => actor.id = user.id ∧ actor.role = user.role)
        (if user.role = .manager then
          store (.managedTeamIds user.id) >>= fun teams =>
            pure ⟨user.id, user.role, teamId, teams⟩
        else pure [] >>= fun teams => pure ⟨user.id, user.role, teamId, teams⟩) := by
    split
    · exact reads_bind (reads_store rfl) fun teams _ => reads_pure ⟨rfl, rfl⟩
    · exact reads_pure ⟨rfl, rfl⟩
  dsimp only
  split
  · refine reads_bind (reads_store rfl) fun team _ => ?_
    exact managed (team.map Team.id)
  · exact managed none

theorem reads_resolveActor (caller : Uuid) : Reads (fun _ => True) (resolveActor caller) := by
  rw [resolveActor_eq]
  refine reads_bind (reads_store rfl) fun found _ => ?_
  refine reads_bind (reads_require _ found) fun user _ => ?_
  exact (reads_actorOf user).weaken fun _ _ => trivial

theorem commits_resolveActor_bind {caller : Uuid} {rest : Actor → Workflow β}
    (reads : history.ReadsOnly)
    (next : ∀ (later : History) actor user, history <+: later → later.ReadsOnly →
      later.Saw (.findUser caller) (some user) → actor.id = user.id → actor.role = user.role →
        Commits justified ends later (rest actor)) :
    Commits justified ends history (resolveActor caller >>= rest) := by
  rw [resolveActor_eq, bind_assoc]
  refine commits_store_bind reads rfl fun seen found longer reads saw => ?_
  rw [bind_assoc]
  refine commits_require_bind reads fun user same => ?_
  subst same
  refine commits_reads_bind reads (reads_actorOf user) fun later actor more reads same => ?_
  exact next later actor user (longer.trans more) reads (saw.mono more) same.1 same.2

/-- Whoever gets past the check for admins was found to be one. -/
theorem commits_resolveAdmin_bind {caller : Uuid} {action : AdminAction}
    {rest : Actor → Workflow β} (reads : history.ReadsOnly)
    (next : ∀ (later : History) actor, history <+: later → later.ReadsOnly →
      later.SawAdmin caller → later.SawUser actor.id →
        Commits justified ends later (rest actor)) :
    Commits justified ends history (resolveAdmin caller action >>= rest) := by
  unfold resolveAdmin
  simp only [bind_assoc, pure_bind]
  refine commits_resolveActor_bind reads fun later actor user longer reads saw named same => ?_
  refine commits_permitted_bind reads fun _ admitted => ?_
  refine next later actor longer reads ⟨user, saw, ?_⟩ ⟨caller, user, saw, named.symm⟩
  rw [← same]
  simpa [Actor.checkAdmin, Actor.isAdmin] using admitted

theorem commits_liveTeam_bind {team : Uuid} {rest : Team → Workflow β} (reads : history.ReadsOnly)
    (next : ∀ (later : History) found, history <+: later → later.ReadsOnly →
      later.SawTeam team → Commits justified ends later (rest found)) :
    Commits justified ends history (liveTeam team >>= rest) := by
  unfold liveTeam
  rw [bind_assoc]
  refine commits_store_bind reads rfl fun later answer longer reads saw => ?_
  refine commits_require_bind reads fun found same => ?_
  subst same
  exact next later found longer reads ⟨found, saw⟩

theorem reads_liveTeam (team : Uuid) : Reads (fun _ => True) (liveTeam team) := by
  unfold liveTeam
  refine reads_bind (reads_store rfl) fun found _ => ?_
  cases found with
  | none => exact reads_throw _
  | some team => exact reads_pure trivial

theorem reads_requiredText (field : String) (value : Option String) :
    Reads (fun _ => True) (requiredText field value) := by
  unfold requiredText
  split
  · exact reads_throw _
  · exact reads_pure trivial

/-! ## The last exchange -/

theorem commits_last_write {call : StoreCall} (reads : history.ReadsOnly)
    (because : justified history call) :
    Commits justified (fun later _ => later.WritesLast) history (store call) := by
  rw [← bind_pure (store call)]
  exact commits_write_bind reads because fun value => reads.writesLast_append

theorem commits_throw_refused {call : StoreCall} {answer : call.Answer} (failure : Failure)
    (reads : history.ReadsOnly) (refused : call.isRefused (.ok answer) = true) :
    Commits justified ends (history ++ [⟨.store call, .ok answer⟩]) (throw failure) := by
  refine ⟨reads.writesLast_append, reads.quiet_append ?_⟩
  simp [Exchange.isQuiet, refused]

end Workflow

end OrgAccess
