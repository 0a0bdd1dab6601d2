import Mathlib.Data.List.Induction
import OrgAccess.Proofs.Identifiers
import OrgAccess.Proofs.Sequence
import OrgAccess.Proofs.Success

/-!
# What has happened so far

The outcomes of operations that ran one after the other tell the whole history of a store. What was
done once `Stands` as long as nothing later has undone it, and a fact about a store that follows
from what stands is proved by following it through one outcome after the other
(`Operation.runEach_induction`).

A run of operations one after the other is also one of the runs in which they take turns, so what is
known of those holds of it: as long as identifiers are drawn afresh, every store on the way is
reachable (`Operation.runEach_induction_of_fresh`).
-/

namespace OrgAccess

/-- Some event is of one kind, and none after it is of the other. -/
def Stands {α : Type} (makes undoes : α → Prop) (events : List α) : Prop :=
  ∃ before made after, events = before ++ made :: after ∧ makes made ∧
    ∀ later ∈ after, ¬undoes later

section Stands

variable {α : Type} {makes undoes : α → Prop} {events : List α}

theorem not_stands_nil : ¬Stands makes undoes [] := by
  rintro ⟨before, made, after, parts, _⟩
  simp at parts

/-- What stands after one more event was made by it, or stood before and is not undone by it. -/
theorem stands_append_singleton {last : α} :
    Stands makes undoes (events ++ [last]) ↔
      makes last ∨ Stands makes undoes events ∧ ¬undoes last := by
  constructor
  · rintro ⟨before, made, after, parts, makes_it, kept⟩
    rcases List.eq_nil_or_concat after with rfl | ⟨others, other, rfl⟩
    · obtain ⟨-, same⟩ := List.append_inj' parts rfl
      obtain rfl := List.singleton_inj.mp same
      exact Or.inl makes_it
    · rw [List.concat_eq_append, ← List.cons_append, ← List.append_assoc] at parts
      obtain ⟨rfl, same⟩ := List.append_inj' parts rfl
      obtain rfl := List.singleton_inj.mp same
      refine Or.inr ⟨⟨before, made, others, rfl, makes_it, fun later mem => ?_⟩, ?_⟩
      · exact kept later (by simp [mem])
      · exact kept last (by simp)
  · rintro (makes_it | ⟨⟨before, made, after, rfl, makes_it, kept⟩, keeps⟩)
    · exact ⟨events, last, [], rfl, makes_it, by simp⟩
    · refine ⟨before, made, after ++ [last], by simp, makes_it, fun later mem => ?_⟩
      rcases List.mem_append.mp mem with mem | mem
      · exact kept later mem
      · rw [List.mem_singleton.mp mem]
        exact keeps

/-- What was undone stands only if it was made again. -/
theorem not_stands_of_undone {before after : List α} {undone : α} (undoes_it : undoes undone)
    (apart : ¬makes undone) (never_again : ∀ later ∈ after, ¬makes later) :
    ¬Stands makes undoes (before ++ undone :: after) := by
  rintro ⟨before', made, after', parts, makes_it, kept⟩
  rcases List.append_eq_append_iff.mp parts with ⟨between, rfl, rest⟩ | ⟨between, rfl, rest⟩
  · rcases between with _ | ⟨first, between⟩
    · obtain ⟨rfl, rfl⟩ := List.cons.inj rest
      exact apart makes_it
    · obtain ⟨rfl, rfl⟩ := List.cons.inj rest
      exact never_again made (by simp) makes_it
  · rcases between with _ | ⟨first, between⟩
    · obtain ⟨rfl, rfl⟩ := List.cons.inj rest
      exact apart makes_it
    · obtain ⟨rfl, rfl⟩ := List.cons.inj rest
      exact kept undone (by simp) undoes_it

/-- At most one of several things of a kind stands when each event makes at most one of them. -/
theorem stands_unique {β : Type} {makes : β → α → Prop}
    (functional : ∀ {event first second}, makes first event → makes second event → first = second)
    {first second : β}
    (first_stands : Stands (makes first) (fun event => ∃ any, makes any event) events)
    (second_stands : Stands (makes second) (fun event => ∃ any, makes any event) events) :
    first = second := by
  induction events using List.reverseRecOn with
  | nil => exact absurd first_stands not_stands_nil
  | append_singleton events last ih =>
      rcases stands_append_singleton.mp first_stands with made | ⟨before, kept⟩
      · rcases stands_append_singleton.mp second_stands with made' | ⟨_, kept⟩
        · exact functional made made'
        · exact absurd ⟨first, made⟩ kept
      · rcases stands_append_singleton.mp second_stands with made' | ⟨before', _⟩
        · exact absurd ⟨second, made'⟩ kept
        · exact ih before before'

end Stands

/-! ## Programs in a row -/

section Rows

variable {α : Type} {handler : Handler} {programs now : List (Program α)} {start world : World}
  {log : List Turn}

/-- A world that programs come to in some turns. -/
def Reaches (handler : Handler) (programs : List (Program α)) (start world : World) : Prop :=
  ∃ log now, Interleaved handler programs start log now world

/-- A program that has all the turns until it ends. -/
theorem Interleaved.run_at (run : Interleaved handler programs start log now world) {position : Nat}
    {program : Program α} (found : now[position]? = some program) :
    ∃ log', Interleaved handler programs start log'
      (now.set position (.done (program.run handler world).1)) (program.run handler world).2 := by
  induction program generalizing log now world with
  | done value =>
      obtain ⟨inside, same⟩ := List.getElem?_eq_some_iff.mp found
      have unchanged : now.set position (.done value) = now := by
        rw [← same, List.set_getElem_self]
      exact ⟨log, unchanged.symm ▸ run⟩
  | call effect next ih =>
      obtain ⟨inside, _⟩ := List.getElem?_eq_some_iff.mp found
      rcases ih _ (run.turn found) (List.getElem?_set_self inside) with ⟨log', longer⟩
      rw [List.set_set] at longer
      exact ⟨log', longer⟩

/--
What each program hands on to the next is so at the end. The world after a program is one that the
same programs come to in turns.
-/
theorem Program.runEach_induction (holds : List α → World → Prop) (first : holds [] start)
    (step : ∀ program ∈ programs, ∀ values world, holds values world →
      Reaches handler programs start (program.run handler world).2 →
        holds (values ++ [(program.run handler world).1]) (program.run handler world).2) :
    holds (runEach handler programs start).1 (runEach handler programs start).2 := by
  suffices further : ∀ rest, (∀ program ∈ rest, program ∈ programs) → ∀ values log world,
      Interleaved handler programs start log (values.map .done ++ rest) world →
        holds values world →
          holds (values ++ (runEach handler rest world).1) (runEach handler rest world).2 from
    further programs (fun _ mem => mem) [] [] start .start first
  intro rest among
  induction rest with
  | nil => simp [runEach]
  | cons program rest ih =>
      intro values log world run held
      have turn : (values.map Program.done ++ program :: rest)[values.length]? = some program := by
        simp
      rcases run.run_at turn with ⟨log', longer⟩
      have next := step program (among program List.mem_cons_self) values world held
        ⟨_, _, longer⟩
      have later := ih (fun other mem => among other (List.mem_cons_of_mem _ mem))
        (values ++ [(program.run handler world).1]) log' _ (by simpa using longer) next
      rwa [List.append_assoc] at later

end Rows

/-- What each outcome hands on to the next holds of the outcomes of operations in a row. -/
theorem Operation.runEach_induction {hasher : Hasher} {tokens : TokenService}
    {moments : Nat → Moment} (holds : List Outcome → Store → Prop) (start : holds [] {})
    (step : ∀ outcomes outcome before after, holds outcomes before →
      Outcome.Explains hasher tokens moments before after outcome →
        holds (outcomes ++ [outcome]) after) (operations : List Operation) :
    let (outcomes, world) := Program.runEach ((System.inMemory hasher tokens).handler moments)
      (operations.map Operation.outcome) {}
    holds outcomes world.store := by
  refine Program.runEach_induction (fun outcomes world => holds outcomes world.store) start
    fun program mem outcomes world held _ => ?_
  rcases List.mem_map.mp mem with ⟨operation, _, rfl⟩
  rw [operation.run_outcome]
  exact step outcomes _ _ _ held (operation.run_explains hasher tokens moments world)

/-! ## Fresh identifiers -/

theorem Program.tick_le_run {α : Type} (handler : Handler) (program : Program α) (world : World) :
    world.tick ≤ (program.run handler world).2.tick := by
  induction program generalizing world with
  | done value => exact Nat.le_refl _
  | call effect next ih => exact Nat.le_trans (Nat.le_succ _) (ih _ (handler.step effect world).2)

theorem Reaches.reachable {hasher : Hasher} {tokens : TokenService} {moments : Nat → Moment}
    {operations : List Operation} {world : World}
    (reaches : Reaches ((System.inMemory hasher tokens).handler moments)
      (operations.map Operation.outcome) {} world)
    (fresh : FreshUntil moments world.tick) : world.store.Reachable := by
  rcases reaches with ⟨log, now, run⟩
  exact SideBySide.reachable run fresh

/--
As `Operation.runEach_induction`, where identifiers are drawn afresh: then all the stores on the way
are reachable.
-/
theorem Operation.runEach_induction_of_fresh {hasher : Hasher} {tokens : TokenService}
    {moments : Nat → Moment} (holds : List Outcome → Store → Prop) (start : holds [] {})
    (step : ∀ outcomes outcome before after, holds outcomes before → before.Reachable →
      after.Reachable → Outcome.Explains hasher tokens moments before after outcome →
        holds (outcomes ++ [outcome]) after) (operations : List Operation) :
    let (outcomes, world) := Program.runEach ((System.inMemory hasher tokens).handler moments)
      (operations.map Operation.outcome) {}
    FreshUntil moments world.tick → world.store.Reachable ∧ holds outcomes world.store := by
  refine Program.runEach_induction (fun outcomes world =>
    FreshUntil moments world.tick → world.store.Reachable ∧ holds outcomes world.store)
    (fun _ => ⟨.empty, start⟩) fun program mem outcomes world held after fresh => ?_
  rcases List.mem_map.mp mem with ⟨operation, _, rfl⟩
  have earlier := held (fresh.mono (Program.tick_le_run _ _ _))
  have reachable := after.reachable fresh
  rw [operation.run_outcome] at reachable ⊢
  exact ⟨reachable, step outcomes _ _ _ earlier.2 earlier.1 reachable
    (operation.run_explains hasher tokens moments world)⟩

end OrgAccess
