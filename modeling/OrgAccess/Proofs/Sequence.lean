import OrgAccess.Program.Interleaving
import OrgAccess.Proofs.Memory

/-!
# One program after the other

Programs that run one after the other meet no one in between. A program that reads first and then
makes one write is then told by this write alone: a run of it leaves the store as it was, or carries
out one call on it, for reasons that hold of this very store (`Program.run_commits`).

What each program of a sequence keeps, the sequence keeps (`Program.runEach_keeps`), and what a
sequence loses was lost by one of its programs (`Program.exists_loss_of_runEach`).
-/

namespace OrgAccess

/-- The answers of a history, one after the other, were given from the store of a world. -/
def History.AnsweredFrom (handler : Handler) (world : World) (history : History) : Prop :=
  ∀ position exchange, history[position]? = some exchange →
    exchange.answer = (handler (world.tick + position) exchange.effect world.store).1

theorem History.answeredFrom_nil (handler : Handler) (world : World) :
    History.AnsweredFrom handler world [] := by
  simp [History.AnsweredFrom]

theorem History.AnsweredFrom.append_singleton {handler : Handler} {world : World}
    {history : History} {exchange : Exchange} (answered : history.AnsweredFrom handler world)
    (last : exchange.answer =
      (handler (world.tick + history.length) exchange.effect world.store).1) :
    History.AnsweredFrom handler world (history ++ [exchange]) := by
  intro position other found
  rw [List.getElem?_append] at found
  split at found
  · exact answered position other found
  · rename_i beyond
    obtain ⟨here, rfl⟩ : position - history.length = 0 ∧ exchange = other := by
      simpa [List.getElem?_singleton] using found
    obtain rfl : position = history.length := by omega
    exact last

namespace Program

variable {α : Type} {handler : Handler} {justified : History → StoreCall → Prop}
  {ends : History → α → Prop} {history : History}

theorem run_after_write (honest : handler.Honest) {program : Program α} (world : World)
    (obeys : program.Obeys (fun later call => later.ReadsOnly ∧ justified later call) ends history)
    (wrote : ¬history.ReadsOnly) : (program.run handler world).2.store = world.store := by
  apply run_quiet honest
  rintro ⟨effect, answer⟩ mem
  apply Exchange.isQuiet_of_not_isWrite
  refine eq_false_of_ne_true fun writes => wrote ?_
  cases effect with
  | store call =>
      rcases List.append_of_mem mem with ⟨before, after, made⟩
      have allowed := (run_obeys handler world obeys).2 before call answer after made writes
      exact fun earlier mem => allowed.1 earlier (List.mem_append_left _ mem)
  | _ => simp [Effect.isWrite] at writes

theorem run_commits_after (honest : handler.Honest) {program : Program α} (start : World)
    (obeys : program.Obeys (fun later call => later.ReadsOnly ∧ justified later call) ends history)
    (answered : history.AnsweredFrom handler start) :
    let world := { start with tick := start.tick + history.length }
    (program.run handler world).2.store = start.store ∨
      ∃ before call, before.AnsweredFrom handler start ∧ justified before call ∧
        (program.run handler world).2.store =
          (handler (start.tick + before.length) (.store call) start.store).2 := by
  -- By induction on what is left of the program, after a history of reads since the start.
  induction program generalizing history with
  | done value => exact Or.inl rfl
  | call effect next ih =>
      intro world
      have rest := obeys.2 (handler.step effect world).1
      have still_answered : History.AnsweredFrom handler start
          (history ++ [⟨effect, (handler.step effect world).1⟩]) :=
        answered.append_singleton rfl
      rw [run_call]
      cases writes : effect.isWrite with
      | true =>
          obtain ⟨call, rfl⟩ : ∃ call, effect = .store call := by
            cases effect with
            | store call => exact ⟨call, rfl⟩
            | _ => cases writes
          have wrote : ¬History.ReadsOnly
              (history ++ [⟨.store call, (handler.step (.store call) world).1⟩]) := by
            simp [writes]
          refine Or.inr ⟨history, call, answered, (obeys.1 call rfl writes).2, ?_⟩
          exact run_after_write honest _ rest wrote
      | false =>
          have unchanged : (handler.step effect world).2 =
              { start with tick := start.tick + (history.length + 1) } := by
            have same := honest world.tick effect start.store
              (Exchange.isQuiet_of_not_isWrite writes)
            exact congrArg (World.mk · _) same
          have further := ih _ rest still_answered
          rw [List.length_append, List.length_singleton] at further
          rw [unchanged]
          exact further

/-- A run leaves the store as it was or carries out one call, for reasons that hold of the store. -/
theorem run_commits (honest : handler.Honest) {program : Program α} (world : World)
    (obeys : program.Obeys (fun later call => later.ReadsOnly ∧ justified later call) ends []) :
    (program.run handler world).2.store = world.store ∨
      ∃ before call, before.AnsweredFrom handler world ∧ justified before call ∧
        (program.run handler world).2.store =
          (handler (world.tick + before.length) (.store call) world.store).2 :=
  run_commits_after honest world obeys (History.answeredFrom_nil handler world)

theorem answeredFrom_of_quiet (honest : handler.Honest) (program : Program α) (world : World)
    (quiet : History.Quiet (program.exchanges handler world)) :
    History.AnsweredFrom handler world (program.exchanges handler world) := by
  induction program generalizing world with
  | done value => exact History.answeredFrom_nil handler world
  | call effect next ih =>
      have unchanged : (handler.step effect world).2.store = world.store :=
        honest world.tick effect world.store (quiet _ List.mem_cons_self)
      have rest := ih _ (handler.step effect world).2 fun exchange mem =>
        quiet exchange (List.mem_cons_of_mem _ mem)
      intro position exchange found
      cases position with
      | zero =>
          obtain rfl := Option.some.inj found
          rfl
      | succ position =>
          have answer := rest position exchange found
          have ticks : (handler.step effect world).2.tick + position =
              world.tick + (position + 1) := Nat.add_right_comm world.tick 1 position
          rwa [unchanged, ticks] at answer

/-! ## Sequences -/

theorem runEach_cons (handler : Handler) (program : Program α) (programs : List (Program α))
    (world : World) :
    (runEach handler (program :: programs) world).2 =
      (runEach handler programs (program.run handler world).2).2 := rfl

theorem runEach_append (handler : Handler) (first second : List (Program α)) (world : World) :
    (runEach handler (first ++ second) world).2 =
      (runEach handler second (runEach handler first world).2).2 := by
  induction first generalizing world with
  | nil => rfl
  | cons program programs ih => rw [List.cons_append, runEach_cons, ih, runEach_cons]

/-- What each program keeps is kept by all of them in a row. -/
theorem runEach_keeps {holds : Store → Prop} {programs : List (Program α)}
    (each : ∀ program ∈ programs, ∀ world : World, holds world.store →
      holds (program.run handler world).2.store)
    {world : World} (held : holds world.store) :
    holds (runEach handler programs world).2.store := by
  induction programs generalizing world with
  | nil => exact held
  | cons program programs ih =>
      rw [runEach_cons]
      apply ih fun other mem => each other (List.mem_cons_of_mem _ mem)
      exact each program List.mem_cons_self world held

/-- What is lost in a sequence of programs is lost by one of them. -/
theorem exists_loss_of_runEach (holds : Store → Prop) (programs : List (Program α)) (world : World)
    (held : holds world.store) (lost : ¬holds (runEach handler programs world).2.store) :
    ∃ before program after, programs = before ++ program :: after ∧
      holds (runEach handler before world).2.store ∧
        ¬holds (program.run handler (runEach handler before world).2).2.store := by
  induction programs generalizing world with
  | nil => exact absurd held lost
  | cons first programs ih =>
      by_cases still : holds (first.run handler world).2.store
      · rcases ih _ still lost with ⟨before, program, after, rfl, held, lost⟩
        exact ⟨first :: before, program, after, rfl, held, lost⟩
      · exact ⟨[], first, programs, rfl, held, still⟩

end Program

/-! ## What a history tells of the store in memory -/

namespace History

variable {hasher : Hasher} {tokens : TokenService} {moments : Nat → Moment} {history : History}
  {world : World}

theorem AnsweredFrom.perform_of_saw
    (answered : history.AnsweredFrom ((System.inMemory hasher tokens).handler moments) world)
    {call : StoreCall} {value : call.Answer} (saw : history.Saw call value) :
    ∃ moment, (world.store.perform moment call).1 = .ok value := by
  rcases List.mem_iff_getElem?.mp saw with ⟨position, found⟩
  exact ⟨moments (world.tick + position), (answered position _ found).symm⟩

theorem AnsweredFrom.liveUser?_of_saw
    (answered : history.AnsweredFrom ((System.inMemory hasher tokens).handler moments) world)
    {id : Uuid} {found : Option User} (saw : history.Saw (.findUser id) found) :
    world.store.liveUser? id = found := by
  rcases answered.perform_of_saw saw with ⟨_, same⟩
  exact Except.ok.inj same

theorem AnsweredFrom.liveTeam?_of_saw
    (answered : history.AnsweredFrom ((System.inMemory hasher tokens).handler moments) world)
    {id : Uuid} {found : Option Team} (saw : history.Saw (.findTeam id) found) :
    world.store.liveTeam? id = found := by
  rcases answered.perform_of_saw saw with ⟨_, same⟩
  exact Except.ok.inj same

theorem AnsweredFrom.adminExists_of_saw
    (answered : history.AnsweredFrom ((System.inMemory hasher tokens).handler moments) world)
    {exists_admin : Bool} (saw : history.Saw .adminExists exists_admin) :
    world.store.adminExists = exists_admin := by
  rcases answered.perform_of_saw saw with ⟨_, same⟩
  exact Except.ok.inj same

end History

end OrgAccess
