import OrgAccess.Proofs.Reachable
import OrgAccess.Proofs.Sessions

/-!
# Where identifiers come from

A user gets the identifier that is drawn when the store creates it. The record of a team is stamped
before the store is called, with a moment that its client has read by then, and others may have had
their turns in between. No two teams have one stamp all the same, for a client makes one write at
most.

Main statement: whatever operations take turns, as long as identifiers are drawn afresh the store
that they have come to is reachable.
-/

namespace OrgAccess

/-- If a call creates a team, its stamp has been read. -/
def History.Stamps (history : History) (call : StoreCall) : Prop :=
  ∀ stamp data, call = .createTeam stamp data → history.SawMoment stamp

theorem Operation.outcome_stamps (operation : Operation) :
    operation.outcome.Obeys History.Stamps (fun _ _ => True) [] := by
  rw [outcome, Program.obeys_bind]
  cases operation with
  | createTeam caller draft =>
      have commits : Workflow.Commits History.Stamps (fun later _ => later.WritesLast) []
          (Operation.createTeam caller draft).workflow := by
        refine Workflow.commits_createTeam History.readsOnly_nil ?_
        rintro later stamp data _ _ saw _ _ ⟨rfl⟩
        exact saw
      have obeys : (Operation.createTeam caller draft).program.Obeys
          (fun later call => later.ReadsOnly ∧ later.Stamps call) (fun _ _ => True) [] :=
        Operation.obeys_of_commits commits (fun _ _ _ => trivial) fun _ _ _ _ => trivial
      exact obeys.mono (fun _ _ _ allowed => allowed.2) fun _ _ _ _ => trivial
  | _ =>
      refine (Operation.program_obeys _).mono ?_ fun _ _ _ _ => trivial
      rintro later call _ ⟨_, because⟩ stamp data rfl
      simp [Justifies] at because

/-- An effect is a call on the store at the moment of its tick, or leaves the store alone. -/
theorem System.inMemory_after (hasher : Hasher) (tokens : TokenService) (moments : Nat → Moment)
    (effect : Effect) (world : World) :
    (((System.inMemory hasher tokens).handler moments).step effect world).2.store = world.store ∨
      ∃ call, effect = .store call ∧
        (((System.inMemory hasher tokens).handler moments).step effect world).2.store =
          world.store.after ⟨moments world.tick, call⟩ := by
  cases effect with
  | store call => exact Or.inr ⟨call, rfl, rfl⟩
  | checkToken kind token => cases kind <;> exact Or.inl rfl
  | _ => exact Or.inl rfl

namespace TimedCall

variable {timed : TimedCall} {id : Uuid}

theorem eq_of_userId? (drawn : id ∈ timed.userId?) : id = timed.moment.freshId := by
  unfold userId? at drawn
  split at drawn
  · exact (Option.mem_some_iff.mp drawn).symm
  · cases drawn

theorem exists_of_teamId? (drawn : id ∈ timed.teamId?) :
    ∃ stamp data, timed.call = .createTeam stamp data ∧ id = stamp.freshId := by
  unfold teamId? at drawn
  split at drawn
  · rename_i stamp data asks
    exact ⟨stamp, data, asks, (Option.mem_some_iff.mp drawn).symm⟩
  · cases drawn

end TimedCall

/-- A turn that asks the store to create a team with this stamp. -/
def Turn.CreatesTeam (turn : Turn) (stamp : Moment) : Prop :=
  ∃ data, turn.exchange.effect = .store (.createTeam stamp data)

theorem Turn.CreatesTeam.isWrite {turn : Turn} {stamp : Moment} (creates : turn.CreatesTeam stamp) :
    turn.exchange.effect.isWrite = true := by
  rcases creates with ⟨data, asks⟩
  rw [asks]
  rfl

namespace TakingTurns

variable {hasher : Hasher} {tokens : TokenService} {moments : Nat → Moment}
  {operations : List Operation} {now : List (Program Outcome)} {start world : World}
  {log : List Turn} {turn : Turn}

/-- The stamp of a team is the moment of a turn that its client had. -/
theorem exists_reading (run : TakingTurns hasher tokens moments operations start log now world)
    (mem : turn ∈ log) {stamp : Moment} (creates : turn.CreatesTeam stamp) :
    ∃ reading ∈ log, reading.position = turn.position ∧ stamp = moments reading.before.tick := by
  rcases creates with ⟨data, asks⟩
  rcases List.append_of_mem mem with ⟨earlier, later, parts⟩
  have each (position : Nat) (program : Program Outcome)
      (found : (operations.map Operation.outcome)[position]? = some program) :
      program.Obeys History.Stamps (fun _ _ => True) [] := by
    rw [List.getElem?_map, Option.map_eq_some_iff] at found
    rcases found with ⟨operation, _, rfl⟩
    exact operation.outcome_stamps
  have stamps : (historyOf earlier turn.position).Stamps (.createTeam stamp data) :=
    run.write_allowed each parts asks rfl
  rcases Interleaved.mem_historyOf.mp (stamps stamp data rfl) with ⟨reading, among, mine, exchanged⟩
  have reading_mem : reading ∈ log := ((run.mem_earlier_iff parts).mp among).1
  exact ⟨reading, reading_mem, mine, run.answer_of_mem reading_mem exchanged⟩

/-- No two teams are created with one identifier. -/
theorem eq_of_freshId_eq (run : TakingTurns hasher tokens moments operations start log now world)
    (fresh : FreshUntil moments world.tick) {first second : Turn} (first_mem : first ∈ log)
    (second_mem : second ∈ log) {stamp stamp' : Moment} (first_creates : first.CreatesTeam stamp)
    (second_creates : second.CreatesTeam stamp') (same : stamp.freshId = stamp'.freshId) :
    first = second := by
  rcases run.exists_reading first_mem first_creates with ⟨reading, reading_mem, mine, rfl⟩
  rcases run.exists_reading second_mem second_creates with ⟨other, other_mem, others, rfl⟩
  have same_tick : reading.before.tick = other.before.tick :=
    fresh.users _ _ (run.tick_lt reading_mem) (run.tick_lt other_mem) same
  obtain rfl := run.eq_of_mem_of_tick_eq reading_mem other_mem same_tick
  exact eq_of_writes run first_mem second_mem (mine.symm.trans others) first_creates.isWrite
    second_creates.isWrite

end TakingTurns

namespace SideBySide

variable {hasher : Hasher} {tokens : TokenService} {moments : Nat → Moment}
  {operations : List Operation} {now : List (Program Outcome)} {world : World} {log : List Turn}
  {id : Uuid}

/-- Teams have the identifiers of the stamps with which they were created. -/
theorem exists_creation (run : SideBySide hasher tokens moments operations log now world)
    (has : world.store.HasTeam id) :
    ∃ turn ∈ log, ∃ stamp, turn.CreatesTeam stamp ∧ id = stamp.freshId := by
  induction run with
  | start => simp [Store.HasTeam] at has
  | @turn log now world position effect next run calls ih =>
      have of_before (has : world.store.HasTeam id) {last : Turn} :
          ∃ turn ∈ log ++ [last], ∃ stamp, turn.CreatesTeam stamp ∧ id = stamp.freshId := by
        rcases ih has with ⟨turn, mem, created⟩
        exact ⟨turn, List.mem_append_left _ mem, created⟩
      rcases System.inMemory_after hasher tokens moments effect world with
        same | ⟨call, rfl, after⟩
      · rw [same] at has
        exact of_before has
      · rw [after, Store.hasTeam_iff] at has
        rcases world.store.teamIds_after ⟨moments world.tick, call⟩ with same | ⟨drawn, named, more⟩
        · rw [same, ← Store.hasTeam_iff] at has
          exact of_before has
        · rw [more, List.mem_append, ← Store.hasTeam_iff] at has
          rcases has with has | last
          · exact of_before has
          · rcases TimedCall.exists_of_teamId? named with ⟨stamp, data, asks, rfl⟩
            refine ⟨_, List.mem_append_right log List.mem_cons_self, stamp, ⟨data, ?_⟩,
              List.mem_singleton.mp last⟩
            exact congrArg Effect.store asks

/-- What a call creates when identifiers are drawn afresh has one that is new to the store. -/
theorem isFresh (run : SideBySide hasher tokens moments operations log now world)
    (fresh : FreshUntil moments (world.tick + 1)) {position : Nat} {call : StoreCall}
    {next : Except StoreError call.Answer → Program Outcome}
    (calls : now[position]? = some (.call (.store call) next)) :
    TimedCall.IsFresh ⟨moments world.tick, call⟩ world.store := by
  constructor
  · intro id named has
    obtain rfl := TimedCall.eq_of_userId? named
    rw [Store.hasUser_iff] at has
    exact fresh.notMem (ids_drawn run (fresh.mono (Nat.le_succ world.tick))).1 has
  · intro id named has
    rcases TimedCall.exists_of_teamId? named with ⟨stamp, data, asks, rfl⟩
    rcases run.exists_creation has with ⟨earlier, mem, stamp', created, same⟩
    -- The two creations are one turn in the log with the call, but the other was had before.
    have longer := run.turn calls
    have last := TakingTurns.eq_of_freshId_eq longer fresh (List.mem_append_left _ mem)
      (List.mem_append_right log List.mem_cons_self) created ⟨data, congrArg Effect.store asks⟩
      same.symm
    have before := run.tick_lt mem
    rw [last] at before
    exact Nat.lt_irrefl _ before

theorem reachable (run : SideBySide hasher tokens moments operations log now world)
    (fresh : FreshUntil moments world.tick) : world.store.Reachable := by
  induction run with
  | start => exact .empty
  | @turn log now world position effect next run calls ih =>
      have before := ih (fresh.mono (Nat.le_succ world.tick))
      rcases System.inMemory_after hasher tokens moments effect world with
        same | ⟨call, rfl, after⟩
      · rw [same]
        exact before
      · rw [after]
        exact before.after (isFresh run fresh calls)

end SideBySide

/--
The store that any operations have come to in any turns is reachable, as long as the identifiers
are drawn afresh.
-/
theorem interleaved_reachable (hasher : Hasher) (tokens : TokenService) (moments : Nat → Moment)
    (operations : List Operation) (schedule : List Nat)
    (fresh : FreshUntil moments schedule.length) :
    (Program.interleave ((System.inMemory hasher tokens).handler moments) schedule
      (operations.map Operation.outcome) {}).2.store.Reachable := by
  have run : SideBySide hasher tokens moments operations _ _ _ :=
    Interleaved.ofSchedule ((System.inMemory hasher tokens).handler moments) schedule
      (operations.map Operation.outcome) {}
  refine run.reachable (fresh.mono ?_)
  rw [run.tick_eq, Nat.zero_add]
  exact Program.length_turns_le _ schedule _ {}

end OrgAccess
