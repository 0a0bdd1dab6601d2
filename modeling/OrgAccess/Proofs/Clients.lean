import OrgAccess.Proofs.Interleaving
import OrgAccess.Proofs.Memory
import OrgAccess.Proofs.Operation

/-!
# Clients side by side

Any number of clients carry operations out at the same time, on a store in memory. The operations
are given with their arguments, so a client that chooses the next one by what it heard is one of
the cases, with a schedule that begins an operation after it was chosen.

Each operation makes at most one write, after it has only read, and for the reasons that
`Operation.Justifies` names. All that is proved of such runs rests on this.
-/

namespace OrgAccess

/-- A run of operations that take turns. -/
abbrev TakingTurns (hasher : Hasher) (tokens : TokenService) (moments : Nat → Moment)
    (operations : List Operation) (start : World) :
    List Turn → List (Program Outcome) → World → Prop :=
  Interleaved ((System.inMemory hasher tokens).handler moments) (operations.map Operation.outcome)
    start

/-- A run of operations that take turns, beginning with an empty store. -/
abbrev SideBySide (hasher : Hasher) (tokens : TokenService) (moments : Nat → Moment)
    (operations : List Operation) : List Turn → List (Program Outcome) → World → Prop :=
  TakingTurns hasher tokens moments operations {}

/-- A client has only read when it asks for a write, and what it read bears the write out. -/
def Justified (operations : List Operation) (position : Nat) (history : History)
    (call : StoreCall) : Prop :=
  history.ReadsOnly ∧ ∃ operation, operations[position]? = some operation ∧
    operation.Justifies history call

namespace TakingTurns

variable {hasher : Hasher} {tokens : TokenService} {moments : Nat → Moment}
  {operations : List Operation} {now : List (Program Outcome)} {start world : World}
  {log earlier later : List Turn} {turn : Turn}

theorem outcome_obeys (operations : List Operation) (ends : Nat → History → Outcome → Prop)
    (obeys : ∀ position (operation : Operation), operations[position]? = some operation →
      operation.program.Obeys
        (fun later call => later.ReadsOnly ∧ operation.Justifies later call)
        (fun later result => ends position later ⟨operation, result⟩) [])
    (position : Nat) (program : Program Outcome)
    (found : (operations.map Operation.outcome)[position]? = some program) :
    program.Obeys (Justified operations position) (ends position) [] := by
  rw [List.getElem?_map, Option.map_eq_some_iff] at found
  rcases found with ⟨operation, found, rfl⟩
  rw [Operation.outcome, Program.obeys_bind]
  refine (obeys position operation found).mono ?_ ?_
  · rintro later call _ ⟨reads, because⟩
    exact ⟨reads, operation, found, because⟩
  · intro later result _ ended
    exact ended

theorem write_justified (run : TakingTurns hasher tokens moments operations start log now world)
    (parts : log = earlier ++ turn :: later) {call : StoreCall}
    (asks : turn.exchange.effect = .store call) (isWrite : call.isWrite = true) :
    Justified operations turn.position (historyOf earlier turn.position) call := by
  have each (position : Nat) (program : Program Outcome)
      (found : (operations.map Operation.outcome)[position]? = some program) :
      program.Obeys (Justified operations position) (fun _ _ => True) [] := by
    refine outcome_obeys operations (fun _ _ _ => True) (fun _ operation _ => ?_) position program found
    exact operation.program_obeys.mono (fun _ _ _ allowed => allowed) fun _ _ _ _ => trivial
  exact run.write_allowed each parts asks isWrite

/-- A client makes one write at most. -/
theorem eq_of_writes (run : TakingTurns hasher tokens moments operations start log now world)
    {first second : Turn} (first_mem : first ∈ log) (second_mem : second ∈ log)
    (same : first.position = second.position) (first_writes : first.exchange.effect.isWrite = true)
    (second_writes : second.exchange.effect.isWrite = true) : first = second := by
  have no_write_before {turn other : Turn} (mem : turn ∈ log)
      (writes : turn.exchange.effect.isWrite = true) (other_mem : other ∈ log)
      (other_writes : other.exchange.effect.isWrite = true)
      (same : other.position = turn.position) :
      ¬other.before.tick < turn.before.tick := by
    intro before
    rcases List.append_of_mem mem with ⟨earlier, later, parts⟩
    have among := (run.mem_earlier_iff parts).mpr ⟨other_mem, before⟩
    rcases turn with ⟨position, world, ⟨effect, answer⟩⟩
    cases effect with
    | store call =>
        have reads := (run.write_justified parts rfl writes).1
        have read := reads _ (Interleaved.mem_historyOf.mpr ⟨other, among, same, rfl⟩)
        rw [other_writes] at read
        cases read
    | _ => simp [Effect.isWrite] at writes
  have first_not_before := no_write_before second_mem second_writes first_mem first_writes same
  have second_not_before :=
    no_write_before first_mem first_writes second_mem second_writes same.symm
  exact run.eq_of_mem_of_tick_eq first_mem second_mem (by omega)

/-- Whoever has written has ended. -/
theorem done_of_writes (run : TakingTurns hasher tokens moments operations start log now world)
    (mem : turn ∈ log) (writes : turn.exchange.effect.isWrite = true) :
    ∃ outcome, now[turn.position]? = some (.done outcome) := by
  have each := outcome_obeys operations (fun _ later _ => later.WritesLast)
    fun _ operation _ => operation.program_obeys.mono (fun _ _ _ allowed => allowed)
      fun _ _ _ ended => ended.1
  rcases run.exists_now mem with ⟨program, found⟩
  cases program with
  | done outcome => exact ⟨outcome, found⟩
  | call effect next =>
      -- One more effect would come after the write, which is to be the last.
      have ended := (Program.run_obeys ((System.inMemory hasher tokens).handler moments) world
        (run.obeys each _ _ found)).1
      have wrote : turn.exchange ∈ historyOf log turn.position :=
        Interleaved.mem_historyOf.mpr ⟨turn, mem, rfl, rfl⟩
      have read := ended turn.exchange <| by
        rw [Program.exchanges, List.dropLast_append_cons]
        exact List.mem_append_left _ wrote
      rw [writes] at read
      cases read

end TakingTurns

end OrgAccess
