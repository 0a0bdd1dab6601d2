import OrgAccess.Proofs.Memory
import OrgAccess.Proofs.Rows
import OrgAccess.Proofs.Serving

/-!
# Who may change what is stored

Sessions apart, a request changes what is stored only on behalf of an admin, or when it registers
an account while there is no admin. The whole interface goes through this gate: every path and
every method, those that lead nowhere included.

The gate is judged against all answers (`Http.Handling.Gated`): before a write the program has only
read, and what it read is what the rule asks for. In a run those reads were answered from the store
as it was when the request arrived.
-/

namespace OrgAccess

/-- Whether a call opens, renews or ends a session. -/
def StoreCall.isSession : StoreCall → Bool
  | storeRefreshToken _ _ _ | rotateRefreshToken _ _ _ _ | revokeRefreshToken _ => true
  | _ => false

/-- What is stored, sessions apart. -/
def Store.withoutSessions (store : Store) : Store :=
  { store with users := store.users.map closeSession }

namespace Operation

/-- A write is about a session, or made for an admin, or the first registration. -/
theorem Justifies.gate {operation : Operation} {history : History} {call : StoreCall}
    (because : operation.Justifies history call) :
    call.isSession = true ∨ (∃ caller, operation.caller? = some caller ∧ history.SawAdmin caller) ∨
      (operation.registers = true ∧ history.Saw .adminExists false) := by
  cases operation with
  | register createdBy input =>
      rcases because with ⟨adminExists, _, _, asked, _, named⟩
      cases adminExists with
      | false => exact Or.inr (Or.inr ⟨rfl, asked⟩)
      | true => exact Or.inr (Or.inl (named rfl))
  | login email password =>
      rcases because with ⟨user, pair, _, rfl⟩
      exact Or.inl rfl
  | refresh token =>
      rcases because with ⟨user, pair, _, rfl⟩
      exact Or.inl rfl
  | logout user =>
      subst because
      exact Or.inl rfl
  | updateUser caller id patch =>
      rcases because with ⟨_, _, _, admin, _⟩
      exact Or.inr (Or.inl ⟨caller, rfl, admin⟩)
  | deleteUser caller _ | createTeam caller _ | updateTeam caller _ _ | deleteTeam caller _
  | removeManager caller _ _ => exact Or.inr (Or.inl ⟨caller, rfl, because.2⟩)
  | addManager caller team manager => exact Or.inr (Or.inl ⟨caller, rfl, because.2.1⟩)
  | checkRefreshToken _ _ | profile _ | listUsers _ | getUser _ _ | listTeams _ | getTeam _ _ =>
      exact because.elim

end Operation

namespace Http

/-- The history begins with the check of the request's token and has found its user. -/
def Request.ActsFor (request : Request) (history : History) (caller : Uuid) : Prop :=
  ∃ token claims user, bearerToken (request.headerValues "authorization") = .ok token ∧
    [⟨.checkToken .access token, .ok claims⟩] <+: history ∧
      history.Saw (.findUser claims.userId) (some user) ∧ user.id = caller

/-- What a request has seen when it asks for a write. -/
def Request.MayWrite (request : Request) (history : History) (call : StoreCall) : Prop :=
  history.ReadsOnly ∧
    (call.isSession = true ∨ (∃ caller, request.ActsFor history caller ∧ history.SawAdmin caller) ∨
      (request.method = .post ∧ request.resource? = some .registration ∧
        history.Saw .adminExists false))

theorem Request.ActsFor.mono {request : Request} {history later : History} {caller : Uuid}
    (acts : request.ActsFor history caller) (longer : history <+: later) :
    request.ActsFor later caller := by
  rcases acts with ⟨token, claims, user, bears, first, saw, same⟩
  exact ⟨token, claims, user, bears, first.trans longer, saw.mono longer, same⟩

namespace Handling

variable {α β : Type} {request : Request} {history : History}

/-- Every write in handling a request is one that the request may make. -/
def Gated (request : Request) (history : History) (handling : Handling α) : Prop :=
  Attempt.Obeys request.MayWrite (fun _ _ => True) (fun _ _ => True) history handling

theorem gated_pure (value : α) : Gated request history (pure value) :=
  trivial

theorem gated_operation_bind (operation : Operation) {rest : operation.Value → Handling β}
    (reads : history.ReadsOnly)
    (acts : ∀ caller, operation.caller? = some caller → request.ActsFor history caller)
    (registers : operation.registers = true →
      request.method = .post ∧ request.resource? = some .registration)
    (next : ∀ (later : History) value, Gated request later (rest value)) :
    Gated request history (ofWorkflow operation.workflow >>= rest) := by
  rw [Gated, Attempt.obeys_bind, ofWorkflow, Attempt.obeys_mapError]
  refine Program.Obeys.mono (operation.commits reads) ?_ ?_
  · rintro later call longer ⟨reads, because⟩
    refine ⟨reads, because.gate.imp_right (Or.imp ?_ ?_)⟩
    · rintro ⟨caller, named, admin⟩
      exact ⟨caller, (acts caller named).mono longer, admin⟩
    · rintro ⟨isRegistration, asked⟩
      exact ⟨(registers isRegistration).1, (registers isRegistration).2, asked⟩
  · intro later result _ _
    cases result with
    | ok value => exact next later value
    | error failure => trivial

theorem gated_of_serves {allowed : Operation → Prop} {handling : Handling Response}
    (serves : Serves allowed handling) (reads : history.ReadsOnly)
    (acts : ∀ operation, allowed operation → ∀ caller, operation.caller? = some caller →
      request.ActsFor history caller)
    (registers : ∀ operation, allowed operation → operation.registers = true →
      request.method = .post ∧ request.resource? = some .registration) :
    Gated request history handling := by
  cases serves with
  | refuses bad => trivial
  | lacks nothing => trivial
  | performs operation may success =>
      exact gated_operation_bind operation reads (acts operation may) (registers operation may)
        fun later value => gated_pure _

/-! ## The caller -/

theorem identify_obeys (request : Request) :
    Attempt.Obeys (fun _ _ => False) (fun _ _ => True)
      (fun later identity => later.ReadsOnly ∧ request.ActsFor later identity.userId) []
      (identify request) := by
  rw [identify, Attempt.obeys_mapError]
  change Attempt.Obeys _ (fun _ _ => True) _ [] (authenticate (request.headerValues "authorization"))
  unfold authenticate
  simp only [Attempt.obeys_bind, Attempt.obeys_liftExcept, Attempt.obeys_mapError]
  cases bears : bearerToken (request.headerValues "authorization") with
  | error error => trivial
  | ok token =>
      refine ⟨by simp, fun checked => ?_⟩
      cases checked with
      | error error => trivial
      | ok claims =>
          refine ⟨by simp [StoreCall.isWrite], fun found => ?_⟩
          rcases found with error | _ | user
          · trivial
          · trivial
          · refine ⟨?_, token, claims, user, bears, ?_, ?_, rfl⟩
            · simp [History.ReadsOnly, Effect.isWrite, StoreCall.isWrite]
            · exact List.prefix_append _ _
            · exact History.saw_append_self _ _ _

theorem gated_identify_bind {rest : Identity → Handling β}
    (next : ∀ (later : History) identity, later.ReadsOnly → request.ActsFor later identity.userId →
      Gated request later (rest identity)) :
    Gated request [] (identify request >>= rest) := by
  rw [Gated, Attempt.obeys_bind]
  refine (identify_obeys request).mono ?_ (fun _ _ _ _ => trivial) ?_
  · intro _ _ _ impossible
    exact impossible.elim
  · rintro later identity _ ⟨reads, acts⟩
    exact next later identity reads acts

theorem gated_identifyIfPresent_bind {rest : Option Identity → Handling β}
    (next : ∀ (later : History) caller, later.ReadsOnly →
      (∀ identity, caller = some identity → request.ActsFor later identity.userId) →
        Gated request later (rest caller)) :
    Gated request [] (identifyIfPresent request >>= rest) := by
  unfold identifyIfPresent
  split
  · exact next [] none History.readsOnly_nil (by simp)
  · rw [bind_map_left]
    refine gated_identify_bind fun later identity reads acts => next later _ reads ?_
    rintro _ ⟨rfl⟩
    exact acts

/-! ## The paths -/

theorem gated_serve (request : Request) : Gated request [] (serve request) := by
  have served := served request
  generalize serve request = handling at served
  cases served with
  | health leads =>
      refine ⟨by simp [StoreCall.isWrite], fun answer => ?_⟩
      cases answer <;> trivial
  | session leads posts other serves =>
      refine gated_of_serves serves History.readsOnly_nil ?_ ?_
      · rintro operation ⟨⟨outside, _⟩, _⟩ caller named
        rw [outside] at named
        cases named
      · rintro operation ⟨⟨_, registers⟩, _⟩ isRegistration
        rw [registers] at isRegistration
        cases isRegistration
  | notAllowed leads => exact gated_pure _
  | registration leads serves =>
      refine gated_identifyIfPresent_bind fun later caller reads acts => ?_
      refine gated_of_serves (serves caller) reads ?_ fun operation may _ => ⟨may.1, leads⟩
      rintro _ ⟨_, ⟨input, rfl⟩, _⟩ id named
      rcases Option.map_eq_some_iff.mp named with ⟨identity, present, rfl⟩
      exact acts identity present
  | member notShared notRegistration serves =>
      refine gated_identify_bind fun later identity reads acts => ?_
      refine gated_of_serves (serves identity) reads ?_ ?_
      · rintro operation ⟨⟨named, _⟩, _⟩ other same
        obtain rfl : identity.userId = other := by simpa [named] using same
        exact acts
      · rintro operation ⟨⟨_, registers⟩, _⟩ isRegistration
        rw [registers] at isRegistration
        cases isRegistration

end Handling

/-- Every write in answering a request is one that the request may make. -/
theorem answer_obeys (policy : CorsPolicy) (request : Request) :
    (answer policy request).Obeys request.MayWrite (fun _ _ => True) [] := by
  unfold answer
  dsimp only
  split
  · trivial
  · rw [Program.obeys_bind, Handling.response, Program.obeys_bind]
    refine Program.Obeys.mono (Handling.gated_serve request) (fun _ _ _ allowed => allowed) ?_
    intro later result _ _
    cases result <;> trivial

end Http

/-! ## Runs -/

namespace Store

theorem withoutSessions_modifyUser {store : Store} {id : Uuid} {change : User → User}
    (same : ∀ user, closeSession (change user) = closeSession user) :
    (store.modifyUser id change).withoutSessions = store.withoutSessions := by
  simp [withoutSessions, modifyUser, map_updateFirst same]

/-- Opening, renewing or ending a session changes nothing else. -/
theorem withoutSessions_perform (store : Store) (moment : Moment) {call : StoreCall}
    (isSession : call.isSession = true) :
    (store.perform moment call).2.withoutSessions = store.withoutSessions := by
  cases call with
  | storeRefreshToken id token expiresAt =>
      simp only [perform, storeRefreshToken, answered]
      split
      · rfl
      · exact withoutSessions_modifyUser fun _ => rfl
  | rotateRefreshToken id old new expiresAt =>
      simp only [perform, rotateRefreshToken, answered]
      split
      · rfl
      · split
        · exact withoutSessions_modifyUser fun _ => rfl
        · rfl
  | revokeRefreshToken id => exact withoutSessions_modifyUser fun _ => rfl
  | _ => simp [StoreCall.isSession] at isSession

end Store

namespace Program

variable {α : Type} {handler : Handler}

/-- What a run changes was changed by one of its exchanges. -/
theorem exists_changing_exchange {β : Type} (view : Store → β) (program : Program α)
    (world : World)
    (changed : view (program.run handler world).2.store ≠ view world.store) :
    ∃ before effect answer after tick store,
      program.exchanges handler world = before ++ ⟨effect, answer⟩ :: after ∧
        view (handler tick effect store).2 ≠ view store := by
  induction program generalizing world with
  | done value => exact absurd rfl changed
  | call effect next ih =>
      by_cases first : view (handler.step effect world).2.store = view world.store
      · rw [run_call, ← first] at changed
        rcases ih _ _ changed with ⟨before, other, answer, after, tick, store, made, changes⟩
        refine ⟨⟨effect, (handler.step effect world).1⟩ :: before, other, answer, after, tick, store,
          ?_, changes⟩
        simp [exchanges, made]
      · exact ⟨[], effect, _, _, world.tick, world.store, rfl, first⟩

/-- As long as a program only reads, it is answered from the store as it was at the start. -/
theorem answered_from_start (honest : handler.Honest) (program : Program α) (world : World)
    {before after : List Exchange} (made : program.exchanges handler world = before ++ after)
    (reads : History.ReadsOnly before) :
    ∀ exchange ∈ before, ∃ tick, exchange.answer = (handler tick exchange.effect world.store).1 := by
  induction program generalizing world before with
  | done value =>
      rw [exchanges, eq_comm, List.append_eq_nil_iff] at made
      simp [made.1]
  | call effect next ih =>
      rcases before with _ | ⟨first, before⟩
      · simp
      · rw [exchanges, List.cons_append, List.cons.injEq] at made
        rcases made with ⟨rfl, made⟩
        have unchanged : (handler.step effect world).2.store = world.store := by
          apply honest world.tick effect world.store
          exact Exchange.isQuiet_of_not_isWrite (reads _ List.mem_cons_self)
        intro exchange mem
        rcases List.mem_cons.mp mem with rfl | mem
        · exact ⟨world.tick, rfl⟩
        · rw [← unchanged]
          exact ih _ _ made (fun earlier mem => reads earlier (List.mem_cons_of_mem _ mem))
            exchange mem

theorem answer_of_first {program : Program α} {world : World} {first : Exchange}
    {rest : List Exchange} (made : program.exchanges handler world = first :: rest) :
    first.answer = (handler world.tick first.effect world.store).1 := by
  cases program with
  | done value => simp [exchanges] at made
  | call effect next =>
      rw [exchanges, List.cons.injEq] at made
      rcases made with ⟨rfl, _⟩
      rfl

end Program

namespace Http

/-- The first authorization header of the request carries the access token of a live admin. -/
def Request.IsFromAdmin (request : Request) (tokens : TokenService) (now : Instant)
    (store : Store) : Prop :=
  ∃ token claims user, bearerToken (request.headerValues "authorization") = .ok token ∧
    tokens.validateAccess now token = .ok claims ∧
      store.liveUser? claims.userId = some user ∧ user.role = .admin

/--
If a request changes anything but sessions, then it comes from an admin, or it registers an account
while there is no admin.
-/
theorem request_write_gate (hasher : Hasher) (tokens : TokenService) (moments : Nat → Moment)
    (policy : CorsPolicy) (request : Request) (world : World)
    (changed : ((System.inMemory hasher tokens).run moments (answer policy request)
      world).2.store.withoutSessions ≠ world.store.withoutSessions) :
    request.IsFromAdmin tokens (moments world.tick).now world.store ∨
      (request.method = .post ∧ request.path = "/register".toList ∧
        world.store.adminExists = false) := by
  let handler := (System.inMemory hasher tokens).handler moments
  have honest : handler.Honest := System.inMemory_honest hasher tokens moments
  rcases Program.exists_changing_exchange Store.withoutSessions _ _ changed with
    ⟨before, effect, given, after, tick, store, made, changes⟩
  obtain ⟨call, rfl, isWrite, notSession⟩ :
      ∃ call, effect = .store call ∧ call.isWrite = true ∧ call.isSession = false := by
    cases effect with
    | store call =>
        refine ⟨call, rfl, ?_, ?_⟩
        · refine eq_true_of_ne_false fun isRead => changes ?_
          rw [honest tick (.store call) store (Exchange.isQuiet_of_not_isWrite isRead)]
        · refine eq_false_of_ne_true fun isSession => changes ?_
          exact store.withoutSessions_perform (moments tick) isSession
    | _ => exact absurd (congrArg Store.withoutSessions (honest tick _ store rfl)) changes
  have allowed := (Program.run_obeys handler world (answer_obeys policy request)).2
    before call given after made isWrite
  rw [List.nil_append] at allowed
  rcases allowed with ⟨reads, isSession | ⟨caller, acts, admin⟩ | ⟨posts, leads, asked⟩⟩
  · rw [notSession] at isSession
    cases isSession
  · left
    rcases acts with ⟨token, claims, user, bears, ⟨rest, rfl⟩, found, rfl⟩
    rcases admin with ⟨admin, found_admin, isAdmin⟩
    have checked := Program.answer_of_first made
    have from_start := Program.answered_from_start honest _ world made reads
    rcases from_start _ found with ⟨_, found⟩
    rcases from_start _ found_admin with ⟨_, found_admin⟩
    have same : world.store.liveUser? claims.userId = some user := (Except.ok.inj found).symm
    have same_admin : world.store.liveUser? user.id = some admin :=
      (Except.ok.inj found_admin).symm
    rw [Store.id_of_liveUser? same] at same_admin
    obtain rfl : user = admin := Option.some.inj (same.symm.trans same_admin)
    exact ⟨token, claims, user, bears, checked.symm, same, isAdmin⟩
  · right
    rcases Program.answered_from_start honest _ world made reads _ asked with ⟨_, asked⟩
    exact ⟨posts, Request.path_of_registration leads, (Except.ok.inj asked).symm⟩

/-- A registration as it arrives when nothing is stored yet. -/
def firstRegistration : Request where
  method := .post
  target := "/register"
  headers := [.ofText "content-type" "application/json"]
  body := Text.utf8 ("\x7b\"email\":\"ada@example.org\",\"password\":\"correct horse\"," ++
    "\"first_name\":\"Ada\",\"last_name\":\"Byron\"\x7d")

/-- The first registration goes through the gate. -/
theorem firstRegistration_passes :
    ((System.inMemory .plain .unsigned).run .numbered (answer .any firstRegistration)
        {}).2.store.withoutSessions ≠ ({} : Store).withoutSessions ∧
      (firstRegistration.IsFromAdmin .unsigned .epoch {} ∨
        (firstRegistration.method = .post ∧ firstRegistration.path = "/register".toList ∧
          ({} : Store).adminExists = false)) := by
  have changed : ((System.inMemory .plain .unsigned).run .numbered (answer .any firstRegistration)
      {}).2.store.withoutSessions ≠ ({} : Store).withoutSessions := by
    decide +kernel
  exact ⟨changed, request_write_gate .plain .unsigned .numbered .any firstRegistration {} changed⟩

end Http

end OrgAccess
