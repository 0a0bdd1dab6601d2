import OrgAccess.Proofs.LastAdmin
import OrgAccess.Proofs.Success

/-!
# How requests are answered

Over the store in memory a request is answered in one of four ways (`Http.Answered`). It is refused
before anything is done for it, it is told something that needs no operation, or one operation is
carried out, which fails or succeeds. The operation is one that the request asks for: its input is
what the body of the request reads as, and only a registration creates an account.
-/

namespace OrgAccess.Http

/-- A request that is to register an account. -/
def Request.Registers (request : Request) : Prop :=
  request.method = .post ∧ request.resource? = some .registration

/-- Whether an operation is one that a request may ask for. -/
structure Request.Asks (request : Request) (operation : Operation) : Prop where
  registers : operation.registers = true ↔ request.Registers
  submits : request.Submits operation

/-- How a request is answered with a handler, beginning with a store. -/
inductive Answered (request : Request) (handler : Handler) (store : Store) :
    Response × World → Prop where
  | refused {response later} (bad : 400 ≤ response.status ∧ response.status < 500)
      (unchanged : later.store = store) : Answered request handler store (response, later)
  /-- A preflight is answered, or the health is told. -/
  | told {response later} (other : ¬request.Registers) (fine : response.status = 200)
      (unchanged : later.store = store) : Answered request handler store (response, later)
  | failed {operation failure start response later} (asks : request.Asks operation)
      (same : start.store = store)
      (ran : operation.program.run handler start = (.error failure, later))
      (status : response.status = (Problem.ofFailure failure).status) :
      Answered request handler store (response, later)
  | succeeded {operation value start response later} (asks : request.Asks operation)
      (same : start.store = store)
      (ran : operation.program.run handler start = (.ok value, later))
      (status : response.status = 200 ∨ response.status = 201) :
      Answered request handler store (response, later)

theorem Answered.of_status {request : Request} {handler : Handler} {store : Store}
    {first second : Response × World} (answered : Answered request handler store first)
    (status : second.1.status = first.1.status) (same : second.2 = first.2) :
    Answered request handler store second := by
  rcases second with ⟨response, _⟩
  cases answered with
  | refused bad unchanged =>
      cases same
      exact .refused (status ▸ bad) unchanged
  | told other fine unchanged =>
      cases same
      exact .told other (status.trans fine) unchanged
  | failed asks start ran told =>
      cases same
      exact .failed asks start ran (status.trans told)
  | succeeded asks start ran told =>
      cases same
      exact .succeeded asks start ran (status ▸ told)

namespace Handling

variable {request : Request} {handler : Handler} {world : World}

theorem Serves.answered {allowed : Operation → Prop} {handling : Handling Response}
    (serves : Serves allowed handling)
    (asks : ∀ operation, allowed operation → request.Asks operation) :
    Answered request handler world.store (handling.response.run handler world) := by
  cases serves with
  | @refuses response bad =>
      change Answered request handler world.store (response, world)
      refine .refused ?_ rfl
      omega
  | @lacks response nothing =>
      change Answered request handler world.store (response, world)
      refine .refused ?_ rfl
      omega
  | performs operation may success =>
      rw [response_performs, Program.run_bind]
      rcases ran : operation.program.run handler world with ⟨failure | value, later⟩
      · exact .failed (asks operation may) rfl ran rfl
      · exact .succeeded (asks operation may) rfl ran (success value)

section Memory

variable {hasher : Hasher} {tokens : TokenService} {moments : Nat → Moment}

theorem answered_identify_bind {rest : Identity → Handling Response}
    (next : ∀ identity (later : World), later.store = world.store →
      Answered request ((System.inMemory hasher tokens).handler moments) world.store
        ((rest identity).response.run ((System.inMemory hasher tokens).handler moments) later)) :
    Answered request ((System.inMemory hasher tokens).handler moments) world.store
      ((identify request >>= rest).response.run ((System.inMemory hasher tokens).handler moments)
        world) := by
  by_cases authenticated : request.IsAuthenticated tokens (moments world.tick).now world.store
  · rcases run_identify_of_authenticated authenticated with
      ⟨identity, _, later, ran, unchanged, _⟩
    rw [response_run_of_ok ran]
    exact next identity later unchanged
  · rcases run_identify_of_unauthenticated authenticated with
      ⟨response, later, ran, unchanged, refused⟩
    rw [response_run_of_error ran]
    refine .refused ?_ unchanged
    omega

theorem answered_identifyIfPresent_bind {rest : Option Identity → Handling Response}
    (next : ∀ caller (later : World), later.store = world.store →
      Answered request ((System.inMemory hasher tokens).handler moments) world.store
        ((rest caller).response.run ((System.inMemory hasher tokens).handler moments) later)) :
    Answered request ((System.inMemory hasher tokens).handler moments) world.store
      ((identifyIfPresent request >>= rest).response.run
        ((System.inMemory hasher tokens).handler moments) world) := by
  unfold identifyIfPresent
  split
  · exact next none world rfl
  · rw [bind_map_left]
    exact answered_identify_bind fun identity => next (some identity)

theorem answered_serve (request : Request) (world : World) :
    Answered request ((System.inMemory hasher tokens).handler moments) world.store
      ((serve request).response.run ((System.inMemory hasher tokens).handler moments) world) := by
  have asks_of_other {operation : Operation} (registers : operation.registers = false)
      (other : ¬request.Registers) (submits : request.Submits operation) :
      request.Asks operation :=
    ⟨iff_of_false (by simp [registers]) other, submits⟩
  have other_of_shared {resource : SharedResource}
      (leads : request.resource? = some (.shared resource)) : ¬request.Registers := by
    intro registers
    rw [registers.2] at leads
    cases leads
  have served := served request
  generalize serve request = handling at served
  cases served with
  | health leads => exact .told (other_of_shared leads) rfl rfl
  | session leads posts other serves =>
      apply serves.answered
      rintro operation ⟨⟨_, registers⟩, submits⟩
      exact asks_of_other registers (other_of_shared leads) submits
  | notAllowed leads => exact .refused ⟨by decide, by decide⟩ rfl
  | registration leads serves =>
      refine answered_identifyIfPresent_bind fun caller later unchanged => ?_
      rw [← unchanged]
      apply (serves caller).answered
      rintro operation ⟨posts, ⟨input, rfl⟩, submits⟩
      exact ⟨iff_of_true rfl ⟨posts, leads⟩, submits⟩
  | member notShared notRegistration serves =>
      refine answered_identify_bind fun identity later unchanged => ?_
      rw [← unchanged]
      apply (serves identity).answered
      rintro operation ⟨⟨_, registers⟩, submits⟩
      exact asks_of_other registers (fun asked => notRegistration asked.2) submits

end Memory

end Handling

variable {hasher : Hasher} {tokens : TokenService} {moments : Nat → Moment}

theorem answered (policy : CorsPolicy) (request : Request) (world : World) :
    Answered request ((System.inMemory hasher tokens).handler moments) world.store
      ((answer policy request).run ((System.inMemory hasher tokens).handler moments) world) := by
  by_cases isPreflight : request.method = .options
  · have other : ¬request.Registers := fun registers => by
      rw [registers.1] at isPreflight
      cases isPreflight
    unfold answer
    rw [if_pos isPreflight]
    exact .told other (status_finish request _) rfl
  · apply (Handling.answered_serve request world).of_status
    · exact (run_answer isPreflight).1
    · exact (run_answer isPreflight).2

end OrgAccess.Http
