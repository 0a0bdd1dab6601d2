import OrgAccess.Proofs.Interleaving

/-!
# Calls in steps

Where programs take turns, a call on the store is one turn. A call that writes is made of smaller
steps: its client takes the lock on the store, reads the time if the call needs it, and carries the
call out, by which the lock is given back. Others have steps in between. They may read the time or
hash a password; but whoever asks something of the store waits until the lock is free.

`Scene.step` is one step of one client, and `Scene.Move` lists what it can be. `Stepwise` builds a
run up step by step, which is the form for inductions, and `Stepwise.ofSchedule` reads it off a
schedule.

Main statement: whenever the lock is free, a run in steps has come to what a run in turns comes to
that has its moments from the same clock (`Stepwise.interleaved_of_free`). Nobody can tell when a
write is made for which the lock has been prepared, so it counts as made at the moment that its
client has read. Taking a call for one turn therefore leaves no run out.
-/

namespace OrgAccess

/-- Whether a call reads the time while its client holds the lock. -/
def StoreCall.readsTime : StoreCall → Bool
  | createUser _ | updateUser _ _ | deleteUser _ | rotateRefreshToken _ _ _ _ | updateTeam _ _
  | deleteTeam _ => true
  | _ => false

/-- The lock on the store. -/
inductive Lock where
  | free
  /-- Its holder has still to read the time. -/
  | taken (holder : Nat)
  /-- Its holder has all that its call needs. -/
  | ready (holder : Nat) (moment : Moment)

theorem Lock.ne_ready_of_unprepared {lock : Lock} {position holder : Nat} {moment : Moment}
    (unprepared : lock = .free ∨ lock = .taken position) : lock ≠ .ready holder moment := by
  rcases unprepared with rfl | rfl
  · exact Lock.noConfusion
  · exact Lock.noConfusion

/-- Programs in the course of a run, with the store that they share and the lock on it. -/
structure Scene (α : Type) where
  programs : List (Program α)
  store : Store := {}
  lock : Lock := .free
  /-- The number of steps so far. -/
  tick : Nat := 0

namespace Scene

variable {α : Type}

/-- A step in which nothing happens. -/
def wait (scene : Scene α) : Scene α :=
  { scene with tick := scene.tick + 1 }

/-- Answers an effect of a client. -/
def answer (system : System) (scene : Scene α) (position : Nat) (moment : Moment)
    (effect : Effect) (next : effect.Answer → Program α) : Scene α :=
  let (answer, store) := system.answer moment scene.store effect
  { scene.wait with programs := scene.programs.set position (next answer), store }

/-- A step of a client that asks for a write. -/
def writeStep (system : System) (moments : Nat → Moment) (position : Nat) (scene : Scene α)
    (call : StoreCall) (next : Except StoreError call.Answer → Program α) : Scene α :=
  let now := moments scene.tick
  match scene.lock with
  | .free =>
    { scene.wait with lock := if call.readsTime then .taken position else .ready position now }
  | .taken holder =>
    if holder = position then { scene.wait with lock := .ready position now } else scene.wait
  | .ready holder moment =>
    if holder = position then
      { scene.answer system position moment (.store call) next with lock := .free }
    else scene.wait

/-- A step of a client; it passes if the client has ended or has to wait for the lock. -/
def step (system : System) (moments : Nat → Moment) (position : Nat) (scene : Scene α) :
    Scene α :=
  match scene.programs[position]? with
  | some (.call (.store call) next) =>
    if call.isWrite then scene.writeStep system moments position call next
    else match scene.lock with
      | .free => scene.answer system position (moments scene.tick) (.store call) next
      | _ => scene.wait
  | some (.call effect next) =>
    scene.answer system position (moments scene.tick) effect next
  | _ => scene.wait

/-- What a step of a client can be. -/
inductive Move (system : System) (moments : Nat → Moment) (position : Nat) (scene : Scene α) :
    Scene α → Prop where
  /-- The client passes, or waits for the lock; it does not hold it with a write prepared. -/
  | wait (idle : ∀ moment call next, scene.lock = .ready position moment →
        scene.programs[position]? = some (.call (.store call) next) → call.isWrite = false) :
      Move system moments position scene scene.wait
  /-- The client takes the lock. -/
  | take (free : scene.lock = .free) :
      Move system moments position scene { scene.wait with lock := .taken position }
  /-- The client, which may have had to take the lock, has the moment at which it will write. -/
  | prepare {call next} (calls : scene.programs[position]? = some (.call (.store call) next))
      (writes : call.isWrite = true)
      (unprepared : scene.lock = .free ∨ scene.lock = .taken position) :
      Move system moments position scene
        { scene.wait with lock := .ready position (moments scene.tick) }
  /-- The client is answered without a write. -/
  | read {effect next} (calls : scene.programs[position]? = some (.call effect next))
      (reads : effect.isWrite = false)
      (undisturbed : effect.storeCall? = none ∨ scene.lock = .free) :
      Move system moments position scene
        (scene.answer system position (moments scene.tick) effect next)
  /-- The client writes and gives the lock back. -/
  | write {call next moment} (calls : scene.programs[position]? = some (.call (.store call) next))
      (writes : call.isWrite = true) (holds : scene.lock = .ready position moment) :
      Move system moments position scene
        { scene.answer system position moment (.store call) next with lock := .free }

theorem move_writeStep (system : System) (moments : Nat → Moment) {position : Nat}
    {scene : Scene α} {call : StoreCall} {next : Except StoreError call.Answer → Program α}
    (calls : scene.programs[position]? = some (.call (.store call) next))
    (writes : call.isWrite = true) :
    Move system moments position scene
      (scene.writeStep system moments position call next) := by
  unfold writeStep
  dsimp only
  split
  · rename_i free
    split
    · exact .take free
    · exact .prepare calls writes (Or.inl free)
  · rename_i holder taken
    split
    · rename_i same
      exact .prepare calls writes (Or.inr (same ▸ taken))
    · exact .wait fun moment _ _ holds => by cases taken.symm.trans holds
  · rename_i holder moment ready
    split
    · rename_i same
      exact .write calls writes (same ▸ ready)
    · rename_i other
      refine .wait fun moment _ _ holds => ?_
      cases ready.symm.trans holds
      exact absurd rfl other

/-- Every step is one of the moves. -/
theorem move_step (system : System) (moments : Nat → Moment) (position : Nat) (scene : Scene α) :
    Move system moments position scene (scene.step system moments position) := by
  unfold step
  split
  · rename_i call next calls
    split
    · rename_i writes
      exact move_writeStep system moments calls writes
    · rename_i reads
      split
      · rename_i free
        exact .read calls (eq_false_of_ne_true reads) (Or.inr free)
      · refine .wait fun _ other _ _ asks => ?_
        cases calls.symm.trans asks
        exact eq_false_of_ne_true reads
  · rename_i effect next other calls
    cases effect with
    | store call => exact (other call next rfl HEq.rfl).elim
    | _ => exact .read calls rfl (Or.inl rfl)
  · rename_i passes
    exact .wait fun _ call next _ asks => (passes (.store call) next asks).elim

/-- A client that holds the lock with a write prepared makes the write. -/
theorem Move.eq_of_ready {system : System} {moments : Nat → Moment} {position : Nat}
    {scene later : Scene α} (move : Move system moments position scene later) {moment : Moment}
    {call : StoreCall} {next : Except StoreError call.Answer → Program α}
    (holds : scene.lock = .ready position moment)
    (calls : scene.programs[position]? = some (.call (.store call) next))
    (writes : call.isWrite = true) :
    later = { scene.answer system position moment (.store call) next with lock := .free } := by
  cases move with
  | wait idle => simp [idle moment call next holds calls] at writes
  | take free => cases free.symm.trans holds
  | prepare _ _ unprepared => exact absurd holds (Lock.ne_ready_of_unprepared unprepared)
  | read asks reads =>
      cases calls.symm.trans asks
      exact absurd writes (ne_true_of_eq_false reads)
  | write asks _ ready =>
      cases calls.symm.trans asks
      cases holds.symm.trans ready
      rfl

theorem Move.tick_eq {system : System} {moments : Nat → Moment} {position : Nat}
    {scene later : Scene α} (move : Move system moments position scene later) :
    later.tick = scene.tick + 1 := by
  cases move <;> rfl

/-- The scene after the steps of a schedule. -/
def after (system : System) (moments : Nat → Moment) : List Nat → Scene α → Scene α
  | [], scene => scene
  | position :: schedule, scene =>
    after system moments schedule (scene.step system moments position)

end Scene

/-- A client that is about to make a step. -/
structure Step (α : Type) where
  scene : Scene α
  position : Nat

/-- The steps of a schedule. -/
def Scene.steps {α : Type} (system : System) (moments : Nat → Moment) :
    List Nat → Scene α → List (Step α)
  | [], _ => []
  | position :: schedule, scene =>
    ⟨scene, position⟩ :: steps system moments schedule (scene.step system moments position)

/-- What a run has come to: the steps that were made and the scene. -/
inductive Stepwise {α : Type} (system : System) (moments : Nat → Moment) (start : Scene α) :
    List (Step α) → Scene α → Prop where
  | start : Stepwise system moments start [] start
  | step {log scene} (run : Stepwise system moments start log scene) (position : Nat) :
      Stepwise system moments start (log ++ [⟨scene, position⟩])
        (scene.step system moments position)

namespace Stepwise

variable {α : Type} {system : System} {moments : Nat → Moment} {start scene : Scene α}
  {log earlier later : List (Step α)} {step : Step α}

theorem append_steps (run : Stepwise system moments start log scene) (schedule : List Nat) :
    Stepwise system moments start (log ++ scene.steps system moments schedule)
      (scene.after system moments schedule) := by
  induction schedule generalizing log scene with
  | nil => simpa [Scene.steps, Scene.after] using run
  | cons position schedule ih =>
      rw [Scene.steps, Scene.after, List.append_cons]
      exact ih (run.step position)

/-- The steps of a schedule tell how its run goes. -/
theorem ofSchedule (system : System) (moments : Nat → Moment) (schedule : List Nat)
    (start : Scene α) :
    Stepwise system moments start (start.steps system moments schedule)
      (start.after system moments schedule) := by
  have run : Stepwise system moments start [] start := .start
  simpa using run.append_steps schedule

/-- Every step of a log was made in the scene that the steps before it had led to. -/
theorem at_step (run : Stepwise system moments start log scene)
    (parts : log = earlier ++ step :: later) : Stepwise system moments start earlier step.scene := by
  induction run generalizing later with
  | start => simp at parts
  | step run position ih =>
      rcases List.eq_nil_or_concat later with rfl | ⟨others, last, rfl⟩
      · rcases List.append_inj' parts rfl with ⟨rfl, same⟩
        obtain rfl := List.singleton_inj.mp same
        exact run
      · rw [List.concat_eq_append, ← List.cons_append, ← List.append_assoc] at parts
        exact ih (List.append_inj' parts rfl).1

theorem tick_lt (run : Stepwise system moments start log scene) (mem : step ∈ log) :
    step.scene.tick < scene.tick := by
  induction run with
  | start => cases mem
  | @step log scene run position ih =>
      rw [(scene.move_step system moments position).tick_eq]
      rcases List.mem_append.mp mem with mem | mem
      · exact Nat.lt_succ_of_lt (ih mem)
      · rw [List.mem_singleton.mp mem]
        exact Nat.lt_succ_self _

end Stepwise

/-! ## Steps and turns -/

/-- A run in turns is the same under a handler that answers alike up to its last turn. -/
theorem Interleaved.congr_handler {α : Type} {handler handler' : Handler}
    {programs now : List (Program α)} {start world : World} {log : List Turn}
    (run : Interleaved handler programs start log now world)
    (alike : ∀ tick < world.tick, handler tick = handler' tick) :
    Interleaved handler' programs start log now world := by
  induction run with
  | start => exact .start
  | @turn log now world position effect next run calls ih =>
      have same : handler.step effect world = handler'.step effect world := by
        unfold Handler.step
        rw [alike world.tick (Nat.lt_succ_self _)]
      rw [same]
      refine (ih fun tick earlier => alike tick ?_).turn calls
      exact Nat.lt_succ_of_lt earlier

/-- What a scene will be as soon as the write is made for which its lock has been prepared. -/
inductive Scene.Settles {α : Type} (system : System) (scene : Scene α) :
    List (Program α) → Store → Prop where
  | still (unprepared : ∀ holder moment, scene.lock ≠ .ready holder moment) :
      Settles system scene scene.programs scene.store
  | pending {holder moment call next} (holds : scene.lock = .ready holder moment)
      (calls : scene.programs[holder]? = some (.call (.store call) next)) :
      Settles system scene
        (scene.programs.set holder (next (system.answer moment scene.store (.store call)).1))
        (system.answer moment scene.store (.store call)).2

/-- The moments at which the turns of a run are had, given the ticks of their steps. -/
def momentsAt (moments : Nat → Moment) (ticks : List Nat) (turn : Nat) : Moment :=
  moments (ticks.getD turn 0)

/--
A run in turns comes to what a scene settles to, and its turns are had at moments of the steps, in
their order.
-/
def Scene.IsReachedInTurns {α : Type} (system : System) (moments : Nat → Moment)
    (programs : List (Program α)) (start : World) (scene : Scene α) : Prop :=
  ∃ ticks : List Nat, ticks.Pairwise (· < ·) ∧ (∀ tick ∈ ticks, tick < scene.tick) ∧
    ∃ now store log, scene.Settles system now store ∧
      Interleaved (system.handler (momentsAt moments ticks)) programs start log now
        ⟨store, ticks.length⟩

/-- What does not ask the store is answered the same whatever is stored. -/
theorem System.answer_of_storeCall?_eq_none (system : System) (moment : Moment) {effect : Effect}
    (asksNothing : effect.storeCall? = none) (store other : Store) :
    system.answer moment store effect = ((system.answer moment other effect).1, store) := by
  cases effect with
  | store call => cases asksNothing
  | checkToken kind token => cases kind <;> rfl
  | _ => rfl

theorem Interleaved.turn_at {α : Type} {system : System} {moments : Nat → Moment}
    {programs now : List (Program α)} {start : World} {store : Store} {log : List Turn}
    {ticks : List Nat}
    (run : Interleaved (system.handler (momentsAt moments ticks)) programs start log now
      ⟨store, ticks.length⟩)
    {position : Nat} {effect : Effect} {next : effect.Answer → Program α}
    (calls : now[position]? = some (.call effect next)) (tick : Nat) :
    ∃ log, Interleaved (system.handler (momentsAt moments (ticks ++ [tick]))) programs start log
      (now.set position (next (system.answer (moments tick) store effect).1))
      ⟨(system.answer (moments tick) store effect).2, (ticks ++ [tick]).length⟩ := by
  have alike (turn : Nat) (earlier : turn < ticks.length) :
      system.handler (momentsAt moments ticks) turn =
        system.handler (momentsAt moments (ticks ++ [tick])) turn := by
    have same : momentsAt moments ticks turn = momentsAt moments (ticks ++ [tick]) turn := by
      simp [momentsAt, List.getElem?_append_left earlier]
    funext effect store
    simp only [System.handler, same]
  have last : momentsAt moments (ticks ++ [tick]) ticks.length = moments tick := by
    simp [momentsAt]
  have longer := (run.congr_handler alike).turn calls
  simp only [Handler.step, System.handler, last] at longer
  rw [List.length_append, List.length_singleton]
  exact ⟨_, longer⟩

namespace Scene

variable {α : Type} {system : System} {moments : Nat → Moment} {position : Nat}
  {scene later : Scene α} {programs now : List (Program α)} {start : World} {store : Store}

/-- A client that asks nothing of the store has its step before or after a prepared write alike. -/
theorem Settles.beside {effect : Effect} {next : effect.Answer → Program α}
    {holder : Nat} {moment : Moment} {call : StoreCall}
    {goOn : Except StoreError call.Answer → Program α}
    (holds : scene.lock = .ready holder moment)
    (asks : scene.programs[holder]? = some (.call (.store call) goOn))
    (calls : scene.programs[position]? = some (.call effect next))
    (asksNothing : effect.storeCall? = none) (now : Moment) :
    let written := system.answer moment scene.store (.store call)
    let programs := scene.programs.set holder (goOn written.1)
    programs[position]? = some (.call effect next) ∧
      (scene.answer system position now effect next).Settles system
        (programs.set position (next (system.answer now written.2 effect).1))
        (system.answer now written.2 effect).2 := by
  intro written programs
  have apart : holder ≠ position := by
    rintro rfl
    rw [asks] at calls
    cases calls
    cases asksNothing
  refine ⟨by rw [List.getElem?_set_ne apart, calls], ?_⟩
  have answered := system.answer_of_storeCall?_eq_none now asksNothing scene.store written.2
  have kept : (system.answer now written.2 effect).2 = written.2 :=
    congrArg Prod.snd (system.answer_of_storeCall?_eq_none now asksNothing written.2 written.2)
  have beside : scene.answer system position now effect next =
      { scene.wait with
        programs := scene.programs.set position (next (system.answer now written.2 effect).1) } := by
    rw [answer, answered]
    rfl
  rw [beside, kept, List.set_comm _ _ apart]
  refine .pending holds ?_
  rw [List.getElem?_set_ne apart.symm, asks]

theorem IsReachedInTurns.pass (reached : scene.IsReachedInTurns system moments programs start)
    (ticked : later.tick = scene.tick + 1)
    (settles : ∀ now store, scene.Settles system now store → later.Settles system now store) :
    later.IsReachedInTurns system moments programs start := by
  obtain ⟨ticks, rising, past, now, store, log, settled, run⟩ := reached
  refine ⟨ticks, rising, fun tick mem => ?_, now, store, log, settles now store settled, run⟩
  rw [ticked]
  exact Nat.lt_succ_of_lt (past tick mem)

theorem IsReachedInTurns.turn (reached : scene.IsReachedInTurns system moments programs start)
    (position : Nat) (ticked : later.tick = scene.tick + 1)
    (settles : ∀ now store, scene.Settles system now store →
      ∃ effect next, now[position]? = some (.call effect next) ∧
        later.Settles system
          (now.set position (next (system.answer (moments scene.tick) store effect).1))
          (system.answer (moments scene.tick) store effect).2) :
    later.IsReachedInTurns system moments programs start := by
  obtain ⟨ticks, rising, past, now, store, log, settled, run⟩ := reached
  obtain ⟨effect, next, calls, settled⟩ := settles now store settled
  obtain ⟨log, run⟩ := run.turn_at calls scene.tick
  refine ⟨ticks ++ [scene.tick], ?_, ?_, _, _, log, settled, run⟩
  · rw [List.pairwise_append]
    refine ⟨rising, List.pairwise_singleton _ _, fun tick mem last same => ?_⟩
    rw [List.mem_singleton.mp same]
    exact past tick mem
  · intro tick mem
    rw [ticked]
    rcases List.mem_append.mp mem with mem | mem
    · exact Nat.lt_succ_of_lt (past tick mem)
    · rw [List.mem_singleton.mp mem]
      exact Nat.lt_succ_self _

/-- A write is a turn when it is prepared, and any other answer when it is given. -/
theorem IsReachedInTurns.move (reached : scene.IsReachedInTurns system moments programs start)
    (move : Move system moments position scene later) :
    later.IsReachedInTurns system moments programs start := by
  cases move with
  | wait _ =>
      refine reached.pass rfl fun now store settled => ?_
      cases settled with
      | still unprepared => exact .still unprepared
      | pending holds calls => exact .pending holds calls
  | take free =>
      refine reached.pass rfl fun now store settled => ?_
      cases settled with
      | still unprepared => exact .still (by simp)
      | pending holds calls => cases free.symm.trans holds
  | @prepare call next calls writes unprepared =>
      refine reached.turn position rfl fun now store settled => ?_
      cases settled with
      | still unprepared => exact ⟨.store call, next, calls, .pending rfl calls⟩
      | pending holds _ => exact absurd holds (Lock.ne_ready_of_unprepared unprepared)
  | @read effect next calls reads undisturbed =>
      refine reached.turn position rfl fun now store settled => ?_
      cases settled with
      | still unprepared => exact ⟨effect, next, calls, .still unprepared⟩
      | pending holds asks =>
          have asksNothing : effect.storeCall? = none :=
            undisturbed.resolve_right fun free => by cases free.symm.trans holds
          exact ⟨effect, next, Settles.beside holds asks calls asksNothing _⟩
  | write calls writes holds =>
      refine reached.pass rfl fun now store settled => ?_
      cases settled with
      | still unprepared => exact absurd holds (unprepared _ _)
      | pending ready asks =>
          cases holds.symm.trans ready
          cases calls.symm.trans asks
          exact .still (by simp)

end Scene

namespace Stepwise

variable {α : Type} {system : System} {moments : Nat → Moment} {programs : List (Program α)}
  {store : Store} {log : List (Step α)} {scene : Scene α}

/-- What a run in steps settles to is reached in turns. -/
theorem isReachedInTurns (run : Stepwise system moments { programs, store } log scene) :
    scene.IsReachedInTurns system moments programs { store } := by
  induction run with
  | start => exact ⟨[], .nil, by simp, _, _, _, .still (by simp), .start⟩
  | @step log scene run position ih => exact ih.move (scene.move_step system moments position)

/--
Whenever the lock is free, a run in steps has come to what a run in turns comes to. The turns are
had at moments of the steps, in their order.
-/
theorem interleaved_of_free (run : Stepwise system moments { programs, store } log scene)
    (free : scene.lock = .free) :
    ∃ ticks : List Nat, ticks.Pairwise (· < ·) ∧ (∀ tick ∈ ticks, tick < scene.tick) ∧
      ∃ turns, Interleaved (system.handler (momentsAt moments ticks)) programs { store } turns
        scene.programs ⟨scene.store, ticks.length⟩ := by
  obtain ⟨ticks, rising, past, now, settled, turns, settles, inTurns⟩ := run.isReachedInTurns
  cases settles with
  | still unprepared => exact ⟨ticks, rising, past, turns, inTurns⟩
  | pending holds calls => cases free.symm.trans holds

end Stepwise

end OrgAccess
