import OrgAccess.Program.Interleaving
import OrgAccess.Proofs.History

/-!
# Runs in which programs take turns

An interleaved run is told by its log: which program had which turn, in which world, and what it
exchanged. `Program.turns` reads the log off a schedule, and `Interleaved` builds it up turn by
turn, which is the form for inductions.

What is judged of every program against all answers holds of a program among others as well. Its
history is the part of the log at its own position, and `Interleaved.obeys` judges what is left of
it after that history. Each write of the log was therefore allowed by the history of the program
that made it, and by nothing that others did.
-/

namespace OrgAccess

/-- One effect of one program in an interleaved run. -/
structure Turn where
  /-- The program whose turn it was. -/
  position : Nat
  /-- The world before the turn. -/
  before : World
  /-- What was exchanged. -/
  exchange : Exchange

/-- The part of a log at one position. -/
def historyOf (log : List Turn) (position : Nat) : History :=
  (log.filter fun turn => turn.position = position).map Turn.exchange

namespace Program

variable {α : Type} {handler : Handler}

/-- The turns of a schedule, those of finished programs left out. -/
def turns (handler : Handler) : (schedule : List Nat) → List (Program α) → World → List Turn
  | [], _, _ => []
  | position :: schedule, programs, world =>
    let (after, next) := stepAt handler position programs world
    match programs[position]? with
    | some (call effect _) =>
      ⟨position, world, ⟨effect, (handler.step effect world).1⟩⟩ :: turns handler schedule after next
    | _ => turns handler schedule after next

theorem stepAt_call {position : Nat} {programs : List (Program α)} {effect : Effect}
    {next : effect.Answer → Program α} (world : World)
    (turn : programs[position]? = some (call effect next)) :
    stepAt handler position programs world =
      (programs.set position (next (handler.step effect world).1),
        (handler.step effect world).2) := by
  induction programs generalizing position with
  | nil => simp at turn
  | cons program programs ih =>
      cases position with
      | zero =>
          obtain rfl : program = call effect next := by simpa using turn
          rfl
      | succ position => simp [stepAt, ih (by simpa using turn)]

theorem stepAt_pass {position : Nat} {programs : List (Program α)} (world : World)
    (passes : ∀ effect next, programs[position]? ≠ some (call effect next)) :
    stepAt handler position programs world = (programs, world) := by
  induction programs generalizing position with
  | nil => simp [stepAt]
  | cons program programs ih =>
      cases position with
      | zero =>
          cases program with
          | done value => rfl
          | call effect next => exact absurd rfl (passes effect next)
      | succ position => simp [stepAt, ih (by simpa using passes)]

theorem length_turns_le (handler : Handler) (schedule : List Nat) (programs : List (Program α))
    (world : World) : (turns handler schedule programs world).length ≤ schedule.length := by
  induction schedule generalizing programs world with
  | nil => exact Nat.le_refl 0
  | cons position schedule ih =>
      simp only [turns]
      split
      · exact Nat.succ_le_succ (ih _ _)
      · exact Nat.le_succ_of_le (ih _ _)

end Program

/-- What a run of programs in turns has come to: its log, what is left of them, and the world. -/
inductive Interleaved {α : Type} (handler : Handler) (programs : List (Program α))
    (start : World) : List Turn → List (Program α) → World → Prop where
  | start : Interleaved handler programs start [] programs start
  | turn {log now world position effect next}
      (run : Interleaved handler programs start log now world)
      (calls : now[position]? = some (.call effect next)) :
      Interleaved handler programs start
        (log ++ [⟨position, world, ⟨effect, (handler.step effect world).1⟩⟩])
        (now.set position (next (handler.step effect world).1)) (handler.step effect world).2

namespace Interleaved

variable {α : Type} {handler : Handler} {programs now : List (Program α)} {start world : World}
  {log earlier later : List Turn} {turn : Turn}

theorem append_turns (run : Interleaved handler programs start log now world)
    (schedule : List Nat) :
    Interleaved handler programs start (log ++ Program.turns handler schedule now world)
      (Program.interleave handler schedule now world).1
      (Program.interleave handler schedule now world).2 := by
  induction schedule generalizing log now world with
  | nil => simpa [Program.turns, Program.interleave] using run
  | cons position schedule ih =>
      simp only [Program.turns, Program.interleave]
      split
      · rename_i effect next calls
        rw [Program.stepAt_call world calls, List.append_cons]
        exact ih (run.turn calls)
      · rename_i passes
        rw [Program.stepAt_pass world passes]
        exact ih run

/-- The log of a schedule tells how its run goes. -/
theorem ofSchedule (handler : Handler) (schedule : List Nat) (programs : List (Program α))
    (start : World) :
    Interleaved handler programs start (Program.turns handler schedule programs start)
      (Program.interleave handler schedule programs start).1
      (Program.interleave handler schedule programs start).2 := by
  have run : Interleaved handler programs start [] programs start := .start
  simpa using run.append_turns schedule

/-- Every turn of a log was had in the run that led up to it. -/
theorem at_turn (run : Interleaved handler programs start log now world)
    (parts : log = earlier ++ turn :: later) :
    ∃ reached effect next, Interleaved handler programs start earlier reached turn.before ∧
      reached[turn.position]? = some (.call effect next) ∧
        turn.exchange = ⟨effect, (handler.step effect turn.before).1⟩ := by
  induction run generalizing later with
  | start => simp at parts
  | turn run calls ih =>
      rcases List.eq_nil_or_concat later with rfl | ⟨others, last, rfl⟩
      · rcases List.append_inj' parts rfl with ⟨rfl, same⟩
        obtain rfl := List.singleton_inj.mp same
        exact ⟨_, _, _, run, calls, rfl⟩
      · rw [List.concat_eq_append, ← List.cons_append, ← List.append_assoc] at parts
        exact ih (List.append_inj' parts rfl).1

/-- Whoever had a turn is still among the programs. -/
theorem exists_now (run : Interleaved handler programs start log now world) (mem : turn ∈ log) :
    ∃ program, now[turn.position]? = some program := by
  induction run with
  | start => cases mem
  | @turn log now world position effect next run calls ih =>
      obtain ⟨inside, _⟩ := List.getElem?_eq_some_iff.mp calls
      rcases List.mem_append.mp mem with mem | mem
      · obtain ⟨before, _⟩ := List.getElem?_eq_some_iff.mp (ih mem).choose_spec
        exact ⟨_, List.getElem?_eq_getElem (by simpa using before)⟩
      · obtain rfl := List.mem_singleton.mp mem
        exact ⟨_, List.getElem?_eq_getElem (by simpa using inside)⟩

theorem tick_eq (run : Interleaved handler programs start log now world) :
    world.tick = start.tick + log.length := by
  induction run with
  | start => rfl
  | turn run calls ih => simp [Handler.step, ih, Nat.add_assoc]

theorem tick_of_parts (run : Interleaved handler programs start log now world)
    (parts : log = earlier ++ turn :: later) :
    turn.before.tick = start.tick + earlier.length := by
  rcases run.at_turn parts with ⟨_, _, _, reached, _⟩
  exact reached.tick_eq

/-- Two turns at the same tick are one and the same, and so are the turns before them. -/
theorem eq_of_tick_eq (run : Interleaved handler programs start log now world)
    {earlier' later' : List Turn} {turn' : Turn} (parts : log = earlier ++ turn :: later)
    (parts' : log = earlier' ++ turn' :: later') (same : turn.before.tick = turn'.before.tick) :
    earlier = earlier' ∧ turn = turn' ∧ later = later' := by
  rw [run.tick_of_parts parts, run.tick_of_parts parts'] at same
  rcases List.append_inj (parts.symm.trans parts') (by omega) with ⟨rfl, rest⟩
  rw [List.cons.injEq] at rest
  exact ⟨rfl, rest⟩

theorem tick_lt (run : Interleaved handler programs start log now world) (mem : turn ∈ log) :
    turn.before.tick < world.tick := by
  rcases List.append_of_mem mem with ⟨earlier, later, rfl⟩
  have turn_tick := run.tick_of_parts rfl
  have last_tick := run.tick_eq
  simp only [List.length_append, List.length_cons] at last_tick
  omega

theorem eq_of_mem_of_tick_eq (run : Interleaved handler programs start log now world)
    {other : Turn} (mem : turn ∈ log) (other_mem : other ∈ log)
    (same : turn.before.tick = other.before.tick) : turn = other := by
  rcases List.append_of_mem mem with ⟨_, _, parts⟩
  rcases List.append_of_mem other_mem with ⟨_, _, other_parts⟩
  exact (run.eq_of_tick_eq parts other_parts same).2.1

/-- Every exchange of a log is one with the handler. -/
theorem answer_of_mem (run : Interleaved handler programs start log now world) (mem : turn ∈ log)
    {effect : Effect} {answer : effect.Answer} (exchanged : turn.exchange = ⟨effect, answer⟩) :
    answer = (handler.step effect turn.before).1 := by
  rcases List.append_of_mem mem with ⟨_, _, parts⟩
  rcases run.at_turn parts with ⟨_, _, _, _, _, same⟩
  rw [exchanged] at same
  cases same
  rfl

/-- The turns before a turn are those at earlier ticks. -/
theorem mem_earlier_iff (run : Interleaved handler programs start log now world)
    (parts : log = earlier ++ turn :: later) {other : Turn} :
    other ∈ earlier ↔ other ∈ log ∧ other.before.tick < turn.before.tick := by
  have turn_tick := run.tick_of_parts parts
  constructor
  · intro mem
    rcases List.append_of_mem mem with ⟨first, second, rfl⟩
    have other_tick := run.tick_of_parts (by simpa using parts : log = first ++ other :: _)
    refine ⟨by simp [parts], ?_⟩
    simp only [List.length_append, List.length_cons] at turn_tick
    omega
  · rintro ⟨mem, before⟩
    rcases List.append_of_mem mem with ⟨first, second, other_parts⟩
    have other_tick := run.tick_of_parts other_parts
    have inside : first.length < earlier.length := by omega
    have at_first : log[first.length]? = some other := by simp [other_parts]
    rw [parts, List.getElem?_append_left inside] at at_first
    exact List.mem_of_getElem? at_first

/-- What held at one turn and no longer holds at the end was lost at some turn in between. -/
theorem exists_loss {holds : Store → Prop} (run : Interleaved handler programs start log now world)
    (mem : turn ∈ log) (held : holds turn.before.store) (lost : ¬holds world.store) :
    ∃ loss ∈ log, turn.before.tick ≤ loss.before.tick ∧ holds loss.before.store ∧
      ¬holds (handler.step loss.exchange.effect loss.before).2.store := by
  induction run with
  | start => cases mem
  | @turn log now world position effect next run calls ih =>
      by_cases still : holds world.store
      · refine ⟨_, List.mem_append_right log List.mem_cons_self, ?_, still, lost⟩
        rcases List.append_of_mem mem with ⟨earlier, later, parts⟩
        have turn_tick := (run.turn calls).tick_of_parts parts
        have shorter := congrArg List.length parts
        simp only [List.length_append, List.length_cons, List.length_nil] at shorter
        have last_tick := run.tick_eq
        dsimp only
        omega
      · rcases List.mem_append.mp mem with mem | mem
        · rcases ih mem still with ⟨loss, loss_mem, after, had, lost⟩
          exact ⟨loss, List.mem_append_left _ loss_mem, after, had, lost⟩
        · rw [List.mem_singleton.mp mem] at held
          exact absurd held still

/-! ## Judging every program by its own history -/

theorem historyOf_append_self (log : List Turn) (turn : Turn) :
    historyOf (log ++ [turn]) turn.position = historyOf log turn.position ++ [turn.exchange] := by
  simp [historyOf]

theorem historyOf_append_other {position : Nat} (other : turn.position ≠ position) :
    historyOf (log ++ [turn]) position = historyOf log position := by
  simp [historyOf, other]

theorem mem_historyOf {exchange : Exchange} {position : Nat} :
    exchange ∈ historyOf log position ↔
      ∃ turn ∈ log, turn.position = position ∧ turn.exchange = exchange := by
  simp [historyOf, and_assoc]

/-- What a program has exchanged was answered by the handler, in one of its turns. -/
theorem exists_turn (run : Interleaved handler programs start log now world) {effect : Effect}
    {answer : effect.Answer} {position : Nat}
    (mem : (⟨effect, answer⟩ : Exchange) ∈ historyOf log position) :
    ∃ turn ∈ log, turn.position = position ∧ turn.exchange.effect = effect ∧
      answer = (handler.step effect turn.before).1 := by
  rcases mem_historyOf.mp mem with ⟨turn, among, mine, exchanged⟩
  exact ⟨turn, among, mine, by rw [exchanged], run.answer_of_mem among exchanged⟩

variable {mayWrite : Nat → History → StoreCall → Prop} {ends : Nat → History → α → Prop}

/-- What is left of each program keeps to what was judged of it, given its own history. -/
theorem obeys (run : Interleaved handler programs start log now world)
    (each : ∀ position (program : Program α), programs[position]? = some program →
      program.Obeys (mayWrite position) (ends position) []) :
    ∀ position (program : Program α), now[position]? = some program →
      program.Obeys (mayWrite position) (ends position) (historyOf log position) := by
  induction run with
  | start => exact each
  | @turn log now world mine effect next run calls ih =>
      intro position program found
      by_cases same : mine = position
      · subst same
        obtain ⟨inside, _⟩ := List.getElem?_eq_some_iff.mp calls
        obtain rfl : next (handler.step effect world).1 = program := by
          simpa [inside] using found
        rw [historyOf_append_self log ⟨mine, world, ⟨effect, (handler.step effect world).1⟩⟩]
        exact (ih mine _ calls).2 _
      · rw [historyOf_append_other same]
        apply ih position program
        simpa [same] using found

/-- Every write of a log was allowed by the history of the program that made it. -/
theorem write_allowed (run : Interleaved handler programs start log now world)
    (each : ∀ position (program : Program α), programs[position]? = some program →
      program.Obeys (mayWrite position) (ends position) [])
    (parts : log = earlier ++ turn :: later) {call : StoreCall}
    (asks : turn.exchange.effect = .store call) (isWrite : call.isWrite = true) :
    mayWrite turn.position (historyOf earlier turn.position) call := by
  rcases run.at_turn parts with ⟨reached, effect, next, before, calls, exchanged⟩
  rw [exchanged] at asks
  exact (before.obeys each turn.position _ calls).1 call asks isWrite

end Interleaved

end OrgAccess
