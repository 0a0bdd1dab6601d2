import OrgAccess.Proofs.Clients
import OrgAccess.Proofs.Rows
import OrgAccess.Proofs.StoredTexts

/-!
# Stored hashes

No operation makes up the hash of a password. Before it asks for a user to be created or to get a
new password, it has been given the hash (`Operation.writes_seen_hashes`). So whatever operations
take turns, all hashes that are stored were made by the hasher (`Interleaved.keepsHashes`).
-/

namespace OrgAccess

/-- A text was given as the hash of a password. -/
def History.SawHash (history : History) (hash : String) : Prop :=
  ∃ password, (⟨.hashPassword password, .ok hash⟩ : Exchange) ∈ history

theorem History.SawHash.mono {history later : History} {hash : String} (saw : history.SawHash hash)
    (longer : history <+: later) : later.SawHash hash := by
  rcases saw with ⟨password, mem⟩
  exact ⟨password, longer.subset mem⟩

/-- The hash that a call writes, if it writes one, is as demanded. -/
def StoreCall.WritesHash (demanded : String → Prop) : StoreCall → Prop
  | createUser data => demanded data.passwordHash
  | updateUser _ changes => ∀ hash, changes.passwordHash = some hash → demanded hash
  | _ => True

/-- The hashes of all users are as demanded, those of deleted ones included. -/
def Store.KeepsHashes (demanded : String → Prop) (store : Store) : Prop :=
  ∀ user ∈ store.users, demanded user.passwordHash

theorem StoreCall.WritesHash.mono {demanded demanded' : String → Prop} {call : StoreCall}
    (writes : call.WritesHash demanded) (weaker : ∀ hash, demanded hash → demanded' hash) :
    call.WritesHash demanded' := by
  cases call with
  | createUser data => exact weaker _ writes
  | updateUser id changes => exact fun hash changed => weaker hash (writes hash changed)
  | _ => trivial

/-! ## What operations write -/

/-- A call that writes a hash which was given before. -/
abbrev History.GaveHash (history : History) (call : StoreCall) : Prop :=
  call.WritesHash history.SawHash

/-- Whether an operation may give a user a password. -/
def Operation.setsPassword : Operation → Bool
  | register _ _ | updateUser _ _ _ => true
  | _ => false

theorem Operation.Justifies.gaveHash {operation : Operation} {history : History} {call : StoreCall}
    (because : operation.Justifies history call) (other : operation.setsPassword = false) :
    history.GaveHash call := by
  cases operation with
  | register createdBy input => cases other
  | updateUser caller id patch => cases other
  | login email password =>
      rcases because with ⟨_, _, _, rfl⟩
      trivial
  | refresh token =>
      rcases because with ⟨_, _, _, rfl⟩
      trivial
  | logout user =>
      obtain rfl := because
      trivial
  | createTeam caller draft =>
      rcases because with ⟨⟨_, _, rfl, _⟩, _⟩
      trivial
  | updateTeam caller team patch =>
      rcases because with ⟨⟨_, rfl⟩, _⟩
      trivial
  | deleteUser _ _ | deleteTeam _ _ | addManager _ _ _ | removeManager _ _ _ =>
      rcases because with ⟨rfl, _⟩
      trivial
  | _ => exact because.elim

namespace Workflow

variable {α β : Type} {history : History} {justified : History → StoreCall → Prop}
  {ends : History → β → Prop}

theorem commits_hashPassword_bind {password : String} {rest : String → Workflow β}
    (reads : history.ReadsOnly)
    (next : ∀ (later : History) hash, history <+: later → later.ReadsOnly → later.SawHash hash →
      Commits justified ends later (rest hash)) :
    Commits justified ends history (hashPassword password >>= rest) := by
  have later_reads (answer : Except PasswordError String) :
      History.ReadsOnly (history ++ [⟨.hashPassword password, answer⟩]) :=
    History.readsOnly_append_singleton.mpr ⟨reads, rfl⟩
  rw [commits_bind, Commits, hashPassword, obeys_lift]
  refine ⟨by simp, fun answer => ?_⟩
  cases answer with
  | error error => exact ⟨(later_reads _).writesLast, (later_reads _).quiet⟩
  | ok hash =>
      refine next _ hash (List.prefix_append history _) (later_reads _) ⟨password, ?_⟩
      simp

/-- Where a new password is asked for, its hash was given. -/
theorem commits_patchedPassword_bind {password : Option String}
    {rest : Option String → Workflow β} (reads : history.ReadsOnly)
    (next : ∀ (later : History) hash, history <+: later → later.ReadsOnly →
      (∀ text, hash = some text → later.SawHash text) → Commits justified ends later (rest hash)) :
    Commits justified ends history (patchedPassword password >>= rest) := by
  unfold patchedPassword
  rw [bind_assoc]
  refine commits_reads_bind reads (reads_requiredText _ _) fun later checked longer reads _ => ?_
  cases checked with
  | none => exact next later none longer reads nofun
  | some password =>
      simp only [ite_bind, bind_assoc, bind_map_left]
      refine commits_guard reads fun _ => ?_
      refine commits_hashPassword_bind reads fun last hash more reads saw => ?_
      refine next last (some hash) (longer.trans more) reads ?_
      rintro _ ⟨rfl⟩
      exact saw

theorem commits_register_hash (createdBy : Option Uuid) (input : Registration)
    (reads : history.ReadsOnly) :
    Commits History.GaveHash (fun _ _ => True) history (register createdBy input) := by
  rw [register_eq]
  refine commits_store_bind reads rfl fun _ adminExists _ reads _ => ?_
  refine commits_guard reads fun _ => ?_
  refine commits_registrant_bind reads fun _ creator _ reads _ _ => ?_
  refine commits_guard reads fun _ => ?_
  refine commits_permitted_bind reads fun role _ => ?_
  refine commits_placement_bind reads fun _ _ reads _ _ => ?_
  refine commits_hashPassword_bind reads fun _ hash _ reads saw => ?_
  exact commits_write_bind reads saw fun user => trivial

theorem commits_updateUser_hash (caller id : Uuid) (patch : UserPatch)
    (reads : history.ReadsOnly) :
    Commits History.GaveHash (fun _ _ => True) history (updateUser caller id patch) := by
  unfold updateUser
  refine commits_resolveAdmin_bind reads fun _ _ _ reads _ _ => ?_
  refine commits_store_bind reads rfl fun _ found _ reads _ => ?_
  refine commits_require_bind reads fun target _ => ?_
  refine commits_reads_bind reads (reads_patchedRole _) fun _ role _ reads _ => ?_
  refine commits_patchedTeam_bind reads fun _ teamId _ reads _ _ => ?_
  refine commits_patchedPassword_bind reads fun _ hash _ reads saw => ?_
  refine commits_reads_bind reads (reads_requiredText _ _) fun _ email first reads _ => ?_
  refine commits_reads_bind reads (reads_requiredText _ _) fun _ firstName second reads _ => ?_
  refine commits_reads_bind reads (reads_requiredText _ _) fun _ lastName third reads _ => ?_
  dsimp only
  split
  · trivial
  · refine commits_write_bind reads ?_ fun updated => ?_
    · exact fun text changed => (saw text changed).mono (first.trans (second.trans third))
    · cases updated with
      | none => exact commits_throw_refused _ reads rfl
      | some user => trivial

end Workflow

/-- Whatever an operation is answered, it writes only hashes that it was given before. -/
theorem Operation.writes_seen_hashes (operation : Operation) :
    operation.program.Obeys History.GaveHash (fun _ _ => True) [] := by
  have forget {ends : History → Except Failure operation.Value → Prop}
      (obeys : operation.program.Obeys
        (fun later call => later.ReadsOnly ∧ later.GaveHash call) ends []) :
      operation.program.Obeys History.GaveHash (fun _ _ => True) [] :=
    obeys.mono (fun _ _ _ allowed => allowed.2) fun _ _ _ _ => trivial
  cases operation with
  | register createdBy input =>
      exact forget (Workflow.commits_register_hash createdBy input History.readsOnly_nil)
  | updateUser caller id patch =>
      exact forget (Workflow.commits_updateUser_hash caller id patch History.readsOnly_nil)
  | _ =>
      refine (Operation.program_obeys _).mono (fun _ _ _ allowed => ?_) fun _ _ _ _ => trivial
      exact allowed.2.gaveHash rfl

/-! ## Runs -/

theorem Store.hashes_of_step {store : Store} {moment : Moment} {effect : Effect}
    {answer : effect.Answer} {users : List User} {demanded : String → Prop}
    (step : UserStep store moment ⟨effect, answer⟩ users)
    (written : ∀ call, effect = .store call → call.isWrite = true → call.WritesHash demanded)
    (stored : store.KeepsHashes demanded) : ∀ user ∈ users, demanded user.passwordHash := by
  have unchanged {id : Uuid} {change : User → User}
      (same : ∀ user, (change user).passwordHash = user.passwordHash) :
      ∀ user ∈ (store.modifyUser id change).users, demanded user.passwordHash := by
    intro user mem
    rcases mem_updateFirst mem with mem | ⟨old, found, rfl⟩
    · exact stored user mem
    · rw [same]
      exact stored old (List.mem_of_find?_eq_some found)
  cases step with
  | keep leaves => exact stored
  | @create data =>
      intro user mem
      rcases List.mem_append.mp mem with mem | mem
      · exact stored user mem
      · rw [List.mem_singleton.mp mem]
        exact written _ rfl rfl
  | @update id changes target found =>
      intro user mem
      rcases mem_updateFirst mem with mem | ⟨old, found, rfl⟩
      · exact stored user mem
      · exact rule_getD (stored old (List.mem_of_find?_eq_some found)) (written _ rfl rfl)
  | delete found => exact unchanged fun _ => rfl
  | openSession found => exact unchanged fun _ => rfl
  | renewSession found current => exact unchanged fun _ => rfl
  | closeSession => exact unchanged fun _ => rfl

/--
If all hashes that the hasher makes with the salts of a run are as demanded, those that are stored
in the run stay so, given that each program writes only hashes that it was given.
-/
theorem Interleaved.keepsHashes {α : Type} {hasher : Hasher} {tokens : TokenService}
    {moments : Nat → Moment} {programs now : List (Program α)} {start world : World}
    {log : List Turn} {ends : Nat → History → α → Prop} {demanded : String → Prop}
    (run : Interleaved ((System.inMemory hasher tokens).handler moments) programs start log now
      world)
    (each : ∀ position (program : Program α), programs[position]? = some program →
      program.Obeys History.GaveHash (ends position) [])
    (made : ∀ tick password hash, hasher.hash (moments tick).salt password = .ok hash →
      demanded hash)
    (stored : start.store.KeepsHashes demanded) : world.store.KeepsHashes demanded := by
  induction run with
  | start => exact stored
  | @turn log now world position effect next run calls ih =>
      have step := System.inMemory_userStep hasher tokens moments effect world
      refine Store.hashes_of_step step ?_ ih
      intro call same isWrite
      have allowed := (run.obeys each position _ calls).1 call same isWrite
      refine allowed.mono fun hash saw => ?_
      rcases saw with ⟨password, mem⟩
      rcases run.exists_turn mem with ⟨turn, _, _, _, answer⟩
      exact made turn.before.tick password hash answer.symm

end OrgAccess
