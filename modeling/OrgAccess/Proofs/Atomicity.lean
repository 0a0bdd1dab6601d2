import OrgAccess.Proofs.Memory
import OrgAccess.Proofs.Operation

/-!
# Failing leaves no trace

Any call of an operation may fail: the storage cannot be reached, a password cannot be hashed, a
token cannot be issued. `System.faultyHandler` lets the effects of a run fail in any pattern, and
an effect that was made to fail has no consequence. Whatever the pattern, an operation that fails
leaves the store as it was, and one that succeeds wrote at most once and nothing after.
-/

namespace OrgAccess

/-- How an effect can be made to fail. -/
abbrev Effect.Fault : Effect → Type
  | store _ => StoreError
  | hashPassword _ => PasswordError
  | verifyPassword _ _ => PasswordError
  | issueTokens _ => TokenError
  | checkToken _ _ => TokenError
  | readMoment => Empty

/-- The answer of an effect that was made to fail. -/
def Effect.failed : (effect : Effect) → effect.Fault → effect.Answer
  | store _, error => .error error
  | hashPassword _, error => .error error
  | verifyPassword _ _, error => .error error
  | issueTokens _, error => .error error
  | checkToken _ _, error => .error error
  | readMoment, impossible => impossible.elim

/-- Which of the effects of a run are made to fail, and how. -/
abbrev Faults := (tick : Nat) → (effect : Effect) → Option effect.Fault

/-- The handler of a system in which some effects fail and do nothing. -/
def System.faultyHandler (system : System) (moments : Nat → Moment) (faults : Faults) : Handler :=
  fun tick effect store =>
    match faults tick effect with
    | some fault => (effect.failed fault, store)
    | none => system.handler moments tick effect store

/-- The calls on the store that a program makes with a handler, in order. -/
def Program.storeCalls {α : Type} (handler : Handler) (program : Program α) (world : World) :
    List StoreCall :=
  (program.exchanges handler world).filterMap fun exchange => exchange.effect.storeCall?

theorem System.faultyHandler_honest {system : System} {moments : Nat → Moment}
    (honest : (system.handler moments).Honest) (faults : Faults) :
    (system.faultyHandler moments faults).Honest := by
  intro tick effect store
  simp only [System.faultyHandler]
  split
  · intro _
    rfl
  · exact honest tick effect store

namespace Program

variable {α : Type} {handler : Handler}

theorem storeCalls_dropLast {program : Program α} {world : World}
    (writesLast : History.WritesLast (program.exchanges handler world)) :
    ∀ call ∈ (program.storeCalls handler world).dropLast, call.isWrite = false := by
  intro call mem
  rcases List.eq_nil_or_concat (program.exchanges handler world) with
    none_made | ⟨earlier, last, made⟩
  · simp [storeCalls, none_made] at mem
  · have reads : History.ReadsOnly earlier := by
      simpa [History.WritesLast, made] using writesLast
    have among : call ∈ earlier.filterMap fun exchange => exchange.effect.storeCall? := by
      rw [storeCalls, made, List.concat_eq_append, List.filterMap_append, List.filterMap_cons,
        List.filterMap_nil] at mem
      cases isCall : last.effect.storeCall? with
      | none => exact List.dropLast_subset _ (by simpa [isCall] using mem)
      | some write => simpa [isCall] using mem
    rcases List.mem_filterMap.mp among with ⟨⟨effect, answer⟩, made_earlier, isCall⟩
    have read := reads _ made_earlier
    cases effect with
    | store asked =>
        obtain rfl : asked = call := by simpa [Effect.storeCall?] using isCall
        exact read
    | _ => simp [Effect.storeCall?] at isCall

end Program

namespace Operation

/--
Whatever fails in whatever pattern, a failed operation leaves the store as it was, and of the
calls that a successful one makes on the store only the last may be a write.
-/
theorem faulty_run_atomic (operation : Operation) (hasher : Hasher) (tokens : TokenService)
    (moments : Nat → Moment) (faults : Faults) (world : World) :
    let handler := (System.inMemory hasher tokens).faultyHandler moments faults
    let (result, after) := operation.program.run handler world
    (∀ failure, result = .error failure → after.store = world.store) ∧
      ∀ value, result = .ok value →
        ∀ call ∈ (operation.program.storeCalls handler world).dropLast, call.isWrite = false := by
  intro handler
  have honest : handler.Honest :=
    System.faultyHandler_honest (System.inMemory_honest hasher tokens moments) faults
  have ended := (Program.run_obeys handler world operation.program_obeys).1
  rw [List.nil_append] at ended
  refine ⟨fun failure failed => ?_, fun value _ => ?_⟩
  · exact Program.run_quiet honest operation.program world (ended.2 failure failed)
  · exact Program.storeCalls_dropLast ended.1

end Operation

end OrgAccess
