import OrgAccess.Program.Run

/-!
# Histories of programs

A program is answered from outside, so what it does depends on what it hears. An exchange is an
effect with its answer, and the history of a program is the list of its exchanges so far.

`Program.Obeys` judges a program against all answers at once: which writes it may make after which
history, and what holds of its history and its value at the end. `Attempt.Obeys` is the same for a
program that may fail. Both take a program apart along its binds, so what a workflow does is read
off step by step, and `Program.run_obeys` brings the judgement back to the runs of a handler, whose
exchanges `Program.exchanges` lists.
-/

namespace OrgAccess

/-- Whether a call may change what is stored. -/
def StoreCall.isWrite : StoreCall → Bool
  | createUser _ | updateUser _ _ | deleteUser _ | storeRefreshToken _ _ _
  | rotateRefreshToken _ _ _ _ | revokeRefreshToken _ | createTeam _ _ | updateTeam _ _
  | deleteTeam _ | addManager _ _ | removeManager _ _ => true
  | adminExists | findUser _ | findUserByEmail _ | listUsers _ | findTeam _ | listTeams _
  | managedTeamIds _ | listEmployees _ | listManagers _ | ping => false

/-- Whether the answer to a call tells that nothing was written. -/
def StoreCall.isRefused : (call : StoreCall) → Except StoreError call.Answer → Bool
  | updateUser _ _, .ok none => true
  | deleteUser _, .ok false => true
  | storeRefreshToken _ _ _, .ok false => true
  | rotateRefreshToken _ _ _ _, .ok false => true
  | updateTeam _ _, .ok none => true
  | deleteTeam _, .ok false => true
  | _, .error _ => true
  | _, .ok _ => false

/-- The call on the store that an effect is. -/
def Effect.storeCall? : Effect → Option StoreCall
  | store call => some call
  | _ => none

/-- Whether an effect may change what is stored. -/
def Effect.isWrite : Effect → Bool
  | store call => call.isWrite
  | _ => false

/-- An effect with its answer. -/
structure Exchange where
  /-- What was asked. -/
  effect : Effect
  /-- What was answered. -/
  answer : effect.Answer

/-- Whether an exchange wrote nothing: it asked for no write, or its write was refused. -/
def Exchange.isQuiet : Exchange → Bool
  | ⟨.store call, answer⟩ => !call.isWrite || call.isRefused answer
  | _ => true

theorem Exchange.isQuiet_of_not_isWrite {exchange : Exchange}
    (reads : exchange.effect.isWrite = false) :
    exchange.isQuiet = true := by
  rcases exchange with ⟨effect, answer⟩
  cases effect with
  | store call =>
      have call_reads : call.isWrite = false := reads
      simp [Exchange.isQuiet, call_reads]
  | _ => rfl

/-- The exchanges of a program so far, oldest first. -/
abbrev History := List Exchange

namespace History

variable {history later : History} {exchange : Exchange}

/-- Nothing has been written, or only asked for. -/
def ReadsOnly (history : History) : Prop :=
  ∀ exchange ∈ history, exchange.effect.isWrite = false

/-- Nothing that was asked to be written was written. -/
def Quiet (history : History) : Prop :=
  ∀ exchange ∈ history, exchange.isQuiet = true

/-- Only the last exchange may be a write. -/
def WritesLast (history : History) : Prop :=
  ReadsOnly history.dropLast

/-- The store has answered a call with this value. -/
def Saw (history : History) (call : StoreCall) (value : call.Answer) : Prop :=
  (⟨.store call, .ok value⟩ : Exchange) ∈ history

@[simp]
theorem readsOnly_nil : ReadsOnly [] := by
  simp [ReadsOnly]

@[simp]
theorem readsOnly_append_singleton :
    ReadsOnly (history ++ [exchange]) ↔ history.ReadsOnly ∧ exchange.effect.isWrite = false := by
  simp only [ReadsOnly, List.mem_append, List.mem_singleton]
  constructor
  · intro reads
    exact ⟨fun earlier mem => reads earlier (Or.inl mem), reads exchange (Or.inr rfl)⟩
  · rintro ⟨reads, last⟩ earlier (mem | rfl)
    · exact reads earlier mem
    · exact last

theorem ReadsOnly.quiet (reads : history.ReadsOnly) : history.Quiet :=
  fun exchange mem => Exchange.isQuiet_of_not_isWrite (reads exchange mem)

theorem ReadsOnly.writesLast (reads : history.ReadsOnly) : history.WritesLast :=
  fun exchange mem => reads exchange (List.dropLast_subset history mem)

theorem ReadsOnly.writesLast_append (reads : history.ReadsOnly) :
    WritesLast (history ++ [exchange]) := by
  simpa [WritesLast] using reads

theorem ReadsOnly.quiet_append (reads : history.ReadsOnly) (quiet : exchange.isQuiet = true) :
    Quiet (history ++ [exchange]) := by
  intro earlier mem
  rcases List.mem_append.mp mem with mem | mem
  · exact reads.quiet earlier mem
  · rw [List.mem_singleton.mp mem]
    exact quiet

theorem Saw.mono {call : StoreCall} {value : call.Answer} (saw : history.Saw call value)
    (longer : history <+: later) : later.Saw call value :=
  longer.subset saw

theorem saw_append_self (history : History) (call : StoreCall) (value : call.Answer) :
    Saw (history ++ [⟨.store call, .ok value⟩]) call value := by
  simp [Saw]

end History

namespace Program

variable {α β : Type} {mayWrite mayWrite' : History → StoreCall → Prop}
  {ends ends' : History → α → Prop} {history : History}

/--
Whatever a program is answered, it makes only writes that are allowed after the history before
them, and its history and value are as wanted at the end.
-/
def Obeys (mayWrite : History → StoreCall → Prop) (ends : History → α → Prop) :
    History → Program α → Prop
  | history, done value => ends history value
  | history, call effect next =>
    (∀ write, effect = .store write → write.isWrite = true → mayWrite history write) ∧
      ∀ answer, Obeys mayWrite ends (history ++ [⟨effect, answer⟩]) (next answer)

theorem obeys_bind {ends : History → β → Prop} {program : Program α} {rest : α → Program β} :
    Obeys mayWrite ends history (program >>= rest) ↔
      Obeys mayWrite (fun later value => Obeys mayWrite ends later (rest value)) history
        program := by
  induction program generalizing history with
  | done value => simp [Obeys]
  | call effect next ih => simp only [call_bind, Obeys, ih]

theorem Obeys.mono {program : Program α} (obeys : Obeys mayWrite ends history program)
    (writes : ∀ later write, history <+: later → mayWrite later write → mayWrite' later write)
    (values : ∀ later value, history <+: later → ends later value → ends' later value) :
    Obeys mayWrite' ends' history program := by
  induction program generalizing history with
  | done value => exact values history value (List.prefix_refl history) obeys
  | call effect next ih =>
      refine ⟨fun write same isWrite => ?_, fun answer => ?_⟩
      · exact writes history write (List.prefix_refl history) (obeys.1 write same isWrite)
      · have extends_history : history <+: history ++ [⟨effect, answer⟩] :=
          List.prefix_append history _
        apply ih answer (obeys.2 answer)
        · exact fun later write longer => writes later write (extends_history.trans longer)
        · exact fun later value longer => values later value (extends_history.trans longer)

/-- The exchanges of a program with a handler, in order. -/
def exchanges (handler : Handler) : Program α → World → List Exchange
  | done _, _ => []
  | call effect next, world =>
    ⟨effect, (handler.step effect world).1⟩ ::
      exchanges handler (next (handler.step effect world).1) (handler.step effect world).2

/-- What is judged of a program against all answers holds of each of its runs. -/
theorem run_obeys {program : Program α} (handler : Handler) (world : World)
    (obeys : Obeys mayWrite ends history program) :
    ends (history ++ program.exchanges handler world) (program.run handler world).1 ∧
      ∀ before write answer after,
        program.exchanges handler world = before ++ ⟨.store write, answer⟩ :: after →
          write.isWrite = true → mayWrite (history ++ before) write := by
  induction program generalizing history world with
  | done value =>
      refine ⟨by simpa [exchanges, Obeys] using obeys, ?_⟩
      intro before write answer after parts
      simp [exchanges] at parts
  | call effect next ih =>
      rcases ih (handler.step effect world).1 (handler.step effect world).2 (obeys.2 _) with
        ⟨ended, allowed⟩
      refine ⟨by simpa [exchanges, run_call] using ended, ?_⟩
      intro before write answer after parts isWrite
      rcases before with _ | ⟨first, before⟩
      · simp only [exchanges, List.nil_append, List.cons.injEq, Exchange.mk.injEq] at parts
        simpa using obeys.1 write parts.1.1 isWrite
      · simp only [exchanges, List.cons_append, List.cons.injEq] at parts
        rcases parts with ⟨rfl, parts⟩
        simpa using allowed before write answer after parts isWrite

end Program

namespace Attempt

variable {ε ε' α β : Type} {mayWrite mayWrite' : History → StoreCall → Prop}
  {fails fails' : History → ε → Prop} {ends ends' : History → α → Prop} {history : History}

/-- The judgement on a program that fails or ends with a value. -/
def Obeys (mayWrite : History → StoreCall → Prop) (fails : History → ε → Prop)
    (ends : History → α → Prop) (history : History) (attempt : ExceptT ε Program α) : Prop :=
  Program.Obeys mayWrite
    (fun later result =>
      match result with
      | .ok value => ends later value
      | .error failure => fails later failure)
    history attempt.run

theorem obeys_mk {program : Program (Except ε α)} :
    Obeys mayWrite fails ends history (ExceptT.mk program) ↔
      program.Obeys mayWrite
        (fun later result =>
          match result with
          | .ok value => ends later value
          | .error failure => fails later failure)
        history :=
  Iff.rfl

@[simp]
theorem obeys_bind {ends : History → β → Prop} {attempt : ExceptT ε Program α}
    {rest : α → ExceptT ε Program β} :
    Obeys mayWrite fails ends history (attempt >>= rest) ↔
      Obeys mayWrite fails (fun later value => Obeys mayWrite fails ends later (rest value))
        history attempt := by
  rw [Obeys, ExceptT.run_bind, Program.obeys_bind, Obeys]
  constructor
  all_goals
    intro obeys
    refine obeys.mono (fun _ _ _ allowed => allowed) ?_
    intro later result _ ended
    cases result with
    | ok value => exact ended
    | error failure => exact ended

@[simp]
theorem obeys_liftExcept {result : Except ε α} :
    Obeys mayWrite fails ends history (liftExcept result) ↔
      match result with
      | .ok value => ends history value
      | .error failure => fails history failure := by
  cases result <;> exact Iff.rfl

theorem obeys_mapError {program : Program (Except ε' α)} {change : ε' → ε} :
    Obeys mayWrite fails ends history
        (ExceptT.mk do return (← program).mapError change) ↔
      program.Obeys mayWrite
        (fun later result =>
          match result with
          | .ok value => ends later value
          | .error error => fails later (change error))
        history := by
  rw [obeys_mk, Program.obeys_bind]
  constructor
  all_goals
    intro obeys
    refine obeys.mono (fun _ _ _ allowed => allowed) ?_
    intro later result _ ended
    cases result <;> exact ended

theorem Obeys.mono {attempt : ExceptT ε Program α}
    (obeys : Obeys mayWrite fails ends history attempt)
    (writes : ∀ later write, history <+: later → mayWrite later write → mayWrite' later write)
    (failures : ∀ later failure, history <+: later → fails later failure → fails' later failure)
    (values : ∀ later value, history <+: later → ends later value → ends' later value) :
    Obeys mayWrite' fails' ends' history attempt := by
  refine Program.Obeys.mono obeys writes ?_
  intro later result longer ended
  cases result with
  | ok value => exact values later value longer ended
  | error failure => exact failures later failure longer ended

end Attempt

namespace Workflow

variable {ε α : Type} {mayWrite : History → StoreCall → Prop}
  {fails : History → Failure → Prop} {history : History}

theorem obeys_lift {toFailure : ε → Failure} {program : Program (Except ε α)}
    {ends : History → α → Prop} :
    Attempt.Obeys mayWrite fails ends history (lift toFailure program) ↔
      program.Obeys mayWrite
        (fun later result =>
          match result with
          | .ok value => ends later value
          | .error error => fails later (toFailure error))
        history :=
  Attempt.obeys_mapError

theorem obeys_store {call : StoreCall} {ends : History → call.Answer → Prop} :
    Attempt.Obeys mayWrite fails ends history (store call) ↔
      (call.isWrite = true → mayWrite history call) ∧
        (∀ error, fails (history ++ [⟨.store call, .error error⟩]) (.ofStore error)) ∧
          ∀ value, ends (history ++ [⟨.store call, .ok value⟩]) value := by
  rw [store, obeys_lift]
  constructor
  · rintro ⟨allowed, ended⟩
    exact ⟨allowed call rfl, fun error => ended (.error error), fun value => ended (.ok value)⟩
  · rintro ⟨allowed, failed, ended⟩
    refine ⟨?_, ?_⟩
    · rintro write ⟨rfl⟩
      exact allowed
    · intro answer
      cases answer with
      | ok value => exact ended value
      | error error => exact failed error

end Workflow

end OrgAccess
