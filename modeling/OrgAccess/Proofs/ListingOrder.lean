import Mathlib.Order.Lattice
import OrgAccess.Proofs.Identifiers
import OrgAccess.Proofs.LockSteps

/-!
# The order of listings under concurrency

The store adds a new row at the end and lists its rows as they stand, so a listing is oldest first
as long as the rows were added in the order of the times that they bear. The time of an account is
read by a client that holds the lock, so nobody adds an account between the reading and the
insertion, and the accounts are in order in every run. The time of a team is read before its client
takes the lock. Another client can read a later time in between and add its team first, and the
listing of teams is then out of order.

A creation of a team is overtaken if a live team is younger than its stamp by the time it comes
(`Step.IsOvertaken`). The listings of teams are in order exactly if no creation is overtaken, and an
overtaken one comes from a client that had read the time before another one did, which yet created
its team before it (`Step.IsOutrun`).
-/

namespace OrgAccess

/-! ## Instants in order -/

namespace Instant

theorem not_lt_self (instant : Instant) : ¬instant < instant := by
  simp [lt_def]

theorem not_lt_trans (first second third : Instant) (notFirst : ¬second < first)
    (notSecond : ¬third < second) : ¬third < first := by
  simp only [lt_def] at *
  omega

theorem not_lt_or (first second : Instant) : ¬second < first ∨ ¬first < second := by
  simp only [lt_def]
  omega

theorem lt_iff_not_lt (first second : Instant) :
    first < second ↔ ¬second < first ∧ ¬¬first < second := by
  simp only [lt_def]
  omega

theorem eq_of_not_lt (first second : Instant) (notAfter : ¬second < first)
    (notBefore : ¬first < second) : first = second := by
  rcases first with ⟨_, _, _, _⟩
  rcases second with ⟨_, _, _, _⟩
  simp only [lt_def, mk.injEq] at *
  omega

/-- Instants in the order of time. -/
instance : LinearOrder Instant where
  toLT := inferInstance
  le first second := ¬second < first
  le_refl := not_lt_self
  le_trans := not_lt_trans
  lt_iff_le_not_ge := lt_iff_not_lt
  le_antisymm := eq_of_not_lt
  le_total := not_lt_or
  toDecidableLE := fun first second => inferInstanceAs (Decidable ¬second < first)
  toDecidableEq := inferInstance
  toDecidableLT := inferInstance

end Instant

/-- A clock that is never set back. -/
def IsSteady (moments : Nat → Moment) : Prop :=
  ∀ first second, first ≤ second → (moments first).now ≤ (moments second).now

namespace Store

/-- When the users were created, deleted ones included, in the order of their rows. -/
def userTimes (store : Store) : List Instant :=
  store.users.map User.createdAt

/-- When the live teams were created, in the order of their rows. -/
def liveTeamTimes (store : Store) : List Instant :=
  store.liveTeams.map Team.createdAt

/-- Whoever lists users is shown them oldest first. -/
def ListsUsersInOrder (store : Store) : Prop :=
  ∀ visibility, ((store.listUsers visibility).map User.createdAt).Pairwise (· ≤ ·)

/-- Whoever lists teams is shown them oldest first. -/
def ListsTeamsInOrder (store : Store) : Prop :=
  ∀ visibility, ((store.listTeams visibility).map Team.createdAt).Pairwise (· ≤ ·)

variable {store : Store}

theorem listsUsersInOrder_of_pairwise (inOrder : store.userTimes.Pairwise (· ≤ ·)) :
    store.ListsUsersInOrder :=
  fun _ => inOrder.sublist (List.filter_sublist.map _)

theorem listsTeamsInOrder_iff :
    store.ListsTeamsInOrder ↔ store.liveTeamTimes.Pairwise (· ≤ ·) := by
  constructor
  · intro inOrder
    simpa [listTeams, TeamVisibility.permits, liveTeamTimes, liveTeams] using inOrder .all
  · intro inOrder visibility
    have listed : (store.listTeams visibility).Sublist store.liveTeams := by
      simp only [listTeams, liveTeams, ← List.filter_filter]
      rw [List.filter_comm]
      exact List.filter_sublist
    exact inOrder.sublist (listed.map _)

/-! ## What a call does to the order of rows -/

theorem userTimes_modifyUser (store : Store) (id : Uuid) (change : User → User)
    (keeps : ∀ user, (change user).createdAt = user.createdAt) :
    (store.modifyUser id change).users.map User.createdAt = store.userTimes :=
  map_updateFirst keeps store.users

/-- A call leaves the times of the users as they are or adds its own. -/
theorem userTimes_perform (store : Store) (moment : Moment) (call : StoreCall) :
    (store.perform moment call).2.userTimes = store.userTimes ∨
      (store.perform moment call).2.userTimes = store.userTimes ++ [moment.now] := by
  have step := store.userStep moment call
  rw [userTimes]
  generalize (store.perform moment call).2.users = users at step
  generalize (store.perform moment call).1 = answer at step
  cases step with
  | keep leaves => exact Or.inl rfl
  | create => exact Or.inr (by simp [userTimes, newUserRecord])
  | update found => exact Or.inl (userTimes_modifyUser store _ _ fun user => rfl)
  | delete found => exact Or.inl (userTimes_modifyUser store _ _ fun user => rfl)
  | openSession found => exact Or.inl (userTimes_modifyUser store _ _ fun user => rfl)
  | renewSession found current => exact Or.inl (userTimes_modifyUser store _ _ fun user => rfl)
  | closeSession => exact Or.inl (userTimes_modifyUser store _ _ fun user => rfl)

/-- Where a change brings no row back to life, it can only take rows out of sight. -/
theorem sublist_updateFirst {Row View : Type} {test shown : Row → Bool} {change : Row → Row}
    {view : Row → View} (hides : ∀ row, shown (change row) = true → shown row = true)
    (same : ∀ row, view (change row) = view row) (rows : List Row) :
    (((updateFirst test change rows).filter shown).map view).Sublist
      ((rows.filter shown).map view) := by
  induction rows with
  | nil => exact .slnil
  | cons row rows ih =>
      rw [updateFirst]
      split
      · by_cases stays : shown (change row) = true
        · simp [stays, hides row stays, same row]
        · rw [List.filter_cons_of_neg stays]
          exact ((List.sublist_cons_self row rows).filter shown).map view
      · by_cases isShown : shown row = true
        · simpa [isShown] using ih
        · simpa [isShown] using ih

theorem liveTeamTimes_modifyTeam (store : Store) (id : Uuid) (change : Team → Team)
    (hides : ∀ team, (change team).isLive = true → team.isLive = true)
    (keeps : ∀ team, (change team).createdAt = team.createdAt) :
    (((store.modifyTeam id change).teams.filter Team.isLive).map Team.createdAt).Sublist
      store.liveTeamTimes :=
  sublist_updateFirst hides keeps store.teams

/-- A call adds the stamp of the team that it creates; any other one adds no live team. -/
theorem liveTeamTimes_perform (store : Store) (moment : Moment) (call : StoreCall) :
    ((∀ stamp data, call ≠ .createTeam stamp data) ∧
        (store.perform moment call).2.liveTeamTimes.Sublist store.liveTeamTimes) ∨
      ∃ stamp data, call = .createTeam stamp data ∧
        (store.perform moment call).2.liveTeamTimes = store.liveTeamTimes ++ [stamp.now] := by
  by_cases creates : ∃ stamp data, call = .createTeam stamp data
  · obtain ⟨stamp, data, rfl⟩ := creates
    refine Or.inr ⟨stamp, data, rfl, ?_⟩
    have isLive : (newTeamRecord stamp data).isLive = true := rfl
    simp only [perform, createTeam, answered, liveTeamTimes, liveTeams, List.filter_append,
      List.filter_cons, isLive, List.filter_nil, List.map_append]
    rfl
  · push Not at creates
    refine Or.inl ⟨creates, ?_⟩
    have step := store.teamStep moment call
    rw [liveTeamTimes, liveTeams]
    generalize (store.perform moment call).2.teams = teams at step
    cases step with
    | keep => exact .refl _
    | @create stamp data => exact absurd rfl (creates stamp data)
    | update found => exact liveTeamTimes_modifyTeam store _ _ (fun _ => id) fun _ => rfl
    | delete found =>
        exact liveTeamTimes_modifyTeam store _ _ (by simp [Team.isLive]) fun _ => rfl

end Store

/-! ## Accounts -/

section Accounts

variable {α : Type} {hasher : Hasher} {tokens : TokenService} {moments : Nat → Moment}
  {position : Nat} {scene later : Scene α}

/-- What is answered without a write leaves the store as it is. -/
theorem Scene.store_of_read {moment : Moment} {effect : Effect} {next : effect.Answer → Program α}
    (reads : effect.isWrite = false) :
    (scene.answer (System.inMemory hasher tokens) position moment effect next).store =
      scene.store := by
  have honest := System.inMemory_honest hasher tokens (fun _ => moment)
  exact honest 0 effect scene.store (Exchange.isQuiet_of_not_isWrite reads)

/-- A move leaves the store as it is, or it is a write for which the lock has been prepared. -/
theorem Scene.Move.store_cases
    (move : Scene.Move (System.inMemory hasher tokens) moments position scene later) :
    later.store = scene.store ∨
      ∃ call next moment, scene.lock = .ready position moment ∧
        scene.programs[position]? = some (.call (.store call) next) ∧
          later.store = (scene.store.perform moment call).2 := by
  cases move with
  | read calls reads undisturbed => exact Or.inl (Scene.store_of_read reads)
  | @write call next moment calls writes holds =>
      exact Or.inr ⟨call, next, moment, holds, calls, rfl⟩
  | _ => exact Or.inl rfl

/-- The users are in order, and no account that can still come is older than one of them. -/
structure Scene.UsersInOrder (moments : Nat → Moment) (scene : Scene α) : Prop where
  inOrder : scene.store.userTimes.Pairwise (· ≤ ·)
  past : ∀ created ∈ scene.store.userTimes, created ≤ (moments scene.tick).now
  prepared : ∀ holder moment, scene.lock = .ready holder moment →
    (∀ created ∈ scene.store.userTimes, created ≤ moment.now) ∧
      moment.now ≤ (moments scene.tick).now

theorem IsSteady.now_le (steady : IsSteady moments) (ticked : later.tick = scene.tick + 1) :
    (moments scene.tick).now ≤ (moments later.tick).now := by
  refine steady _ _ ?_
  rw [ticked]
  exact Nat.le_succ _

theorem Scene.UsersInOrder.keep (steady : IsSteady moments)
    (users : scene.UsersInOrder moments) (ticked : later.tick = scene.tick + 1)
    (same : later.store.userTimes = scene.store.userTimes)
    (lock : ∀ holder moment, later.lock = .ready holder moment →
      scene.lock = .ready holder moment ∨ moment = moments scene.tick) :
    later.UsersInOrder moments := by
  have passed := steady.now_le ticked
  refine ⟨by rw [same]; exact users.inOrder, ?_, fun holder moment holds => ?_⟩
  · intro created mem
    rw [same] at mem
    exact le_trans (users.past created mem) passed
  · rw [same]
    rcases lock holder moment holds with before | rfl
    · obtain ⟨oldest, read⟩ := users.prepared holder moment before
      exact ⟨oldest, le_trans read passed⟩
    · exact ⟨users.past, passed⟩

/-- An account is added with the time that was read since the lock was taken. -/
theorem Scene.UsersInOrder.write (steady : IsSteady moments) (users : scene.UsersInOrder moments)
    {holder : Nat} {moment : Moment} (holds : scene.lock = .ready holder moment)
    (call : StoreCall) (ticked : later.tick = scene.tick + 1) (free : later.lock = .free)
    (wrote : later.store = (scene.store.perform moment call).2) :
    later.UsersInOrder moments := by
  have passed := steady.now_le ticked
  obtain ⟨oldest, read⟩ := users.prepared holder moment holds
  rcases scene.store.userTimes_perform moment call with same | more
  · refine users.keep steady ticked (by rw [wrote, same]) fun _ _ holds => ?_
    cases free.symm.trans holds
  · have times : later.store.userTimes = scene.store.userTimes ++ [moment.now] := by
      rw [wrote, more]
    refine ⟨?_, fun created mem => ?_, fun _ _ holds => by cases free.symm.trans holds⟩
    · rw [times, List.pairwise_append]
      refine ⟨users.inOrder, List.pairwise_singleton _ _, fun created mem last same => ?_⟩
      rw [List.mem_singleton.mp same]
      exact oldest created mem
    · rw [times] at mem
      rcases List.mem_append.mp mem with mem | mem
      · exact le_trans (users.past created mem) passed
      · rw [List.mem_singleton.mp mem]
        exact le_trans read passed

theorem Scene.UsersInOrder.move (steady : IsSteady moments) (users : scene.UsersInOrder moments)
    (move : Scene.Move (System.inMemory hasher tokens) moments position scene later) :
    later.UsersInOrder moments := by
  have ticked := move.tick_eq
  cases move with
  | wait idle => exact users.keep steady ticked rfl fun _ _ => Or.inl
  | take free => exact users.keep steady ticked rfl (by simp)
  | prepare calls writes unprepared =>
      exact users.keep steady ticked rfl fun _ _ holds => by cases holds; exact Or.inr rfl
  | read calls reads undisturbed =>
      refine users.keep steady ticked ?_ fun _ _ => Or.inl
      rw [Scene.store_of_read reads]
  | @write call _ _ calls writes holds => exact users.write steady holds call ticked rfl rfl

theorem Stepwise.usersInOrder (steady : IsSteady moments) {programs : List (Program α)}
    {log : List (Step α)}
    (run : Stepwise (System.inMemory hasher tokens) moments { programs } log scene) :
    scene.UsersInOrder moments := by
  induction run with
  | start => exact ⟨.nil, by simp [Store.userTimes], by simp⟩
  | @step log scene run position ih => exact ih.move steady (scene.move_step _ moments position)

end Accounts

/-! ## Teams -/

section Teams

variable {α : Type} {hasher : Hasher} {tokens : TokenService} {moments : Nat → Moment}
  {position : Nat} {scene later : Scene α} {programs : List (Program α)} {log : List (Step α)}
  {step : Step α}

/-- The step in which a client adds a team with this stamp. -/
def Step.CreatesTeam (step : Step α) (stamp : Moment) : Prop :=
  ∃ moment data next, step.scene.lock = .ready step.position moment ∧
    step.scene.programs[step.position]? = some (.call (.store (.createTeam stamp data)) next)

theorem Step.CreatesTeam.unique {stamp stamp' : Moment} (first : step.CreatesTeam stamp)
    (second : step.CreatesTeam stamp') : stamp = stamp' := by
  obtain ⟨_, _, _, _, calls⟩ := first
  obtain ⟨_, _, _, _, calls'⟩ := second
  cases calls.symm.trans calls'
  rfl

/-- A team is added when a live one is younger than its stamp already. -/
def Step.IsOvertaken (step : Step α) : Prop :=
  ∃ stamp, step.CreatesTeam stamp ∧ ∃ created ∈ step.scene.store.liveTeamTimes, stamp.now < created

/-- A step adds the stamp of the team that it creates; any other one adds no live team. -/
theorem Scene.Move.liveTeamTimes
    (move : Scene.Move (System.inMemory hasher tokens) moments position scene later) :
    ((∀ stamp, ¬(Step.mk scene position).CreatesTeam stamp) ∧
        later.store.liveTeamTimes.Sublist scene.store.liveTeamTimes) ∨
      ∃ stamp, (Step.mk scene position).CreatesTeam stamp ∧
        later.store.liveTeamTimes = scene.store.liveTeamTimes ++ [stamp.now] := by
  by_cases creates : ∃ stamp, (Step.mk scene position).CreatesTeam stamp
  · obtain ⟨stamp, moment, data, next, holds, calls⟩ := creates
    refine Or.inr ⟨stamp, ⟨moment, data, next, holds, calls⟩, ?_⟩
    rw [move.eq_of_ready holds calls rfl]
    rcases scene.store.liveTeamTimes_perform moment (.createTeam stamp data) with
      ⟨other, _⟩ | ⟨_, _, same, added⟩
    · exact absurd rfl (other stamp data)
    · cases same
      exact added
  · push Not at creates
    refine Or.inl ⟨creates, ?_⟩
    rcases move.store_cases with same | ⟨call, next, moment, holds, calls, wrote⟩
    · rw [same]
    · rw [wrote]
      rcases scene.store.liveTeamTimes_perform moment call with ⟨_, fewer⟩ | ⟨stamp, data, rfl, _⟩
      · exact fewer
      · exact absurd ⟨moment, data, next, holds, calls⟩ (creates stamp)

theorem Scene.Move.listsTeamsInOrder_iff
    (move : Scene.Move (System.inMemory hasher tokens) moments position scene later)
    (inOrder : scene.store.ListsTeamsInOrder) :
    later.store.ListsTeamsInOrder ↔ ¬(Step.mk scene position).IsOvertaken := by
  rw [Store.listsTeamsInOrder_iff] at inOrder ⊢
  rcases move.liveTeamTimes with ⟨other, fewer⟩ | ⟨stamp, creates, added⟩
  · refine iff_of_true (inOrder.sublist fewer) ?_
    rintro ⟨stamp, creates, _⟩
    exact other stamp creates
  · rw [added, List.pairwise_append]
    constructor
    · rintro ⟨_, _, youngest⟩ ⟨_, creates', created, mem, younger⟩
      rw [← creates.unique creates'] at younger
      exact not_le.mpr younger (youngest created mem _ List.mem_cons_self)
    · intro inTime
      refine ⟨inOrder, List.pairwise_singleton _ _, fun created mem last same => ?_⟩
      rw [List.mem_singleton.mp same]
      exact not_lt.mp fun younger => inTime ⟨stamp, creates, created, mem, younger⟩

theorem Stepwise.listsTeamsInOrder_iff
    (run : Stepwise (System.inMemory hasher tokens) moments { programs } log scene) :
    ((∀ step ∈ log, step.scene.store.ListsTeamsInOrder) ∧ scene.store.ListsTeamsInOrder) ↔
      ∀ step ∈ log, ¬step.IsOvertaken := by
  induction run with
  | start => simp [Store.listsTeamsInOrder_iff, Store.liveTeamTimes, Store.liveTeams]
  | @step log scene run position ih =>
      have move := scene.move_step (System.inMemory hasher tokens) moments position
      rw [List.forall_mem_append, List.forall_mem_append, List.forall_mem_singleton,
        List.forall_mem_singleton, ← ih]
      constructor
      · rintro ⟨before, after⟩
        exact ⟨before, (move.listsTeamsInOrder_iff before.2).mp after⟩
      · rintro ⟨before, inTime⟩
        exact ⟨before, (move.listsTeamsInOrder_iff before.2).mpr inTime⟩

/-- Live teams bear the stamps with which they were created. -/
theorem Stepwise.exists_creation
    (run : Stepwise (System.inMemory hasher tokens) moments { programs } log scene)
    {created : Instant} (mem : created ∈ scene.store.liveTeamTimes) :
    ∃ step ∈ log, ∃ stamp, step.CreatesTeam stamp ∧ created = stamp.now := by
  induction run with
  | start => simp [Store.liveTeamTimes, Store.liveTeams] at mem
  | @step log scene run position ih =>
      have of_before (mem : created ∈ scene.store.liveTeamTimes) {last : Step α} :
          ∃ step ∈ log ++ [last], ∃ stamp, step.CreatesTeam stamp ∧ created = stamp.now := by
        obtain ⟨step, step_mem, creation⟩ := ih mem
        exact ⟨step, List.mem_append_left _ step_mem, creation⟩
      have move := scene.move_step (System.inMemory hasher tokens) moments position
      rcases move.liveTeamTimes with ⟨_, fewer⟩ | ⟨stamp, creates, added⟩
      · exact of_before (fewer.subset mem)
      · rw [added] at mem
        rcases List.mem_append.mp mem with mem | mem
        · exact of_before mem
        · exact ⟨_, List.mem_append_right log List.mem_cons_self, stamp, creates,
            List.mem_singleton.mp mem⟩

end Teams

/-! ## Who overtakes -/

/-- A program that writes at most once, and a team only with a stamp that it has read. -/
structure Program.StampsOnce {α : Type} (program : Program α) : Prop where
  once : program.Obeys (fun later _ => later.ReadsOnly) (fun _ _ => True) []
  stamps : program.Obeys History.Stamps (fun _ _ => True) []

/-- The step in which a client reads the time before it asks for the lock. -/
def Step.ReadsMoment {α : Type} (step : Step α) : Prop :=
  ∃ next, step.scene.programs[step.position]? = some (.call .readMoment next)

/-- What a client has heard so far, as far as the steps of a log tell. -/
structure History.IsToldBy {α : Type} (moments : Nat → Moment) (log : List (Step α))
    (position : Nat) (history : History) : Prop where
  read : ∀ moment, history.SawMoment moment → ∃ reading ∈ log, reading.position = position ∧
    reading.ReadsMoment ∧ moment = moments reading.scene.tick
  wrote : ∀ step ∈ log, step.position = position → ∀ stamp, step.CreatesTeam stamp →
    ¬history.ReadsOnly

section Clients

variable {α : Type} {hasher : Hasher} {tokens : TokenService} {moments : Nat → Moment}
  {position : Nat} {scene later : Scene α} {programs : List (Program α)} {log : List (Step α)}
  {step : Step α} {history : History}

theorem History.IsToldBy.pass (told : history.IsToldBy moments log position)
    (creates : step.position = position → ∀ stamp, ¬step.CreatesTeam stamp) :
    history.IsToldBy moments (log ++ [step]) position := by
  constructor
  · intro moment saw
    obtain ⟨reading, mem, mine, reads⟩ := told.read moment saw
    exact ⟨reading, List.mem_append_left _ mem, mine, reads⟩
  · intro other mem mine stamp created
    rcases List.mem_append.mp mem with mem | mem
    · exact told.wrote other mem mine stamp created
    · obtain rfl := List.mem_singleton.mp mem
      exact absurd created (creates mine stamp)

theorem History.IsToldBy.answer (told : history.IsToldBy moments log position)
    (mine : step.position = position) {effect : Effect} {next : effect.Answer → Program α}
    (calls : step.scene.programs[position]? = some (.call effect next)) {now : Moment}
    (timely : effect.isWrite = false → now = moments step.scene.tick) (store : Store) :
    History.IsToldBy moments (log ++ [step]) position
      (history ++ [⟨effect, ((System.inMemory hasher tokens).answer now store effect).1⟩]) := by
  constructor
  · intro moment saw
    rcases List.mem_append.mp saw with saw | saw
    · obtain ⟨reading, mem, read⟩ := told.read moment saw
      exact ⟨reading, List.mem_append_left _ mem, read⟩
    · cases List.mem_singleton.mp saw
      exact ⟨step, List.mem_append_right log List.mem_cons_self, mine, ⟨next, mine ▸ calls⟩,
        timely rfl⟩
  · intro other mem others stamp created
    rw [History.readsOnly_append_singleton]
    rcases List.mem_append.mp mem with mem | mem
    · exact fun reads => told.wrote other mem others stamp created reads.1
    · obtain rfl := List.mem_singleton.mp mem
      obtain ⟨_, data, _, _, asks⟩ := created
      rw [mine, calls] at asks
      cases asks
      exact fun reads => by cases reads.2

/-- A client goes on when it is answered; otherwise no program changes, and no team is created. -/
theorem Scene.Move.programs_cases {system : System}
    (move : Scene.Move system moments position scene later) :
    (later.programs = scene.programs ∧ ∀ stamp, ¬(Step.mk scene position).CreatesTeam stamp) ∨
      ∃ effect next now, scene.programs[position]? = some (.call effect next) ∧
        (effect.isWrite = false → now = moments scene.tick) ∧
          later.programs =
            scene.programs.set position (next (system.answer now scene.store effect).1) := by
  cases move with
  | wait idle =>
      refine Or.inl ⟨rfl, ?_⟩
      rintro stamp ⟨moment, data, next, holds, calls⟩
      cases idle moment _ next holds calls
  | take free =>
      refine Or.inl ⟨rfl, ?_⟩
      rintro stamp ⟨moment, data, next, holds, calls⟩
      cases free.symm.trans holds
  | prepare calls writes unprepared =>
      refine Or.inl ⟨rfl, ?_⟩
      rintro stamp ⟨moment, data, next, holds, calls⟩
      exact Lock.ne_ready_of_unprepared unprepared holds
  | @read effect next calls reads undisturbed =>
      exact Or.inr ⟨effect, next, _, calls, fun _ => rfl, rfl⟩
  | @write call next moment calls writes holds =>
      refine Or.inr ⟨.store call, next, moment, calls, fun reads => ?_, rfl⟩
      exact absurd writes (ne_true_of_eq_false reads)

/-- What is left of a program keeps to what is asked of it, given what its client has heard. -/
theorem Stepwise.exists_history (stampsOnce : ∀ program ∈ programs, program.StampsOnce)
    (run : Stepwise (System.inMemory hasher tokens) moments { programs } log scene)
    {program : Program α} (found : scene.programs[position]? = some program) :
    ∃ history : History, program.Obeys (fun later _ => later.ReadsOnly) (fun _ _ => True) history ∧
      program.Obeys History.Stamps (fun _ _ => True) history ∧
        history.IsToldBy moments log position := by
  induction run generalizing program with
  | start =>
      have judged := stampsOnce program (List.mem_of_getElem? found)
      exact ⟨[], judged.once, judged.stamps, by simp [History.SawMoment], by simp⟩
  | @step log scene run mover ih =>
      have move := scene.move_step (System.inMemory hasher tokens) moments mover
      rcases move.programs_cases with ⟨same, idle⟩ | ⟨effect, next, now, calls, timely, goesOn⟩
      · rw [same] at found
        obtain ⟨history, once, stamps, told⟩ := ih found
        exact ⟨history, once, stamps, told.pass fun _ => idle⟩
      · rw [goesOn] at found
        by_cases mine : mover = position
        · subst mine
          obtain ⟨inside, _⟩ := List.getElem?_eq_some_iff.mp calls
          obtain rfl : next _ = program := by simpa [inside] using found
          obtain ⟨history, once, stamps, told⟩ := ih calls
          exact ⟨_, once.2 _, stamps.2 _, told.answer rfl calls timely scene.store⟩
        · rw [List.getElem?_set_ne mine] at found
          obtain ⟨history, once, stamps, told⟩ := ih found
          exact ⟨history, once, stamps, told.pass fun same => absurd same mine⟩

/-- The stamp of a team was read by its client, which has created no other team. -/
theorem Stepwise.exists_reading (stampsOnce : ∀ program ∈ programs, program.StampsOnce)
    (run : Stepwise (System.inMemory hasher tokens) moments { programs } log scene)
    {stamp : Moment} (creates : (Step.mk scene position).CreatesTeam stamp) :
    (∃ reading ∈ log, reading.position = position ∧ reading.ReadsMoment ∧
        stamp = moments reading.scene.tick) ∧
      ∀ other ∈ log, ∀ stamp, other.CreatesTeam stamp → other.position ≠ position := by
  obtain ⟨moment, data, next, holds, calls⟩ := creates
  obtain ⟨history, once, stamps, told⟩ := run.exists_history stampsOnce calls
  constructor
  · exact told.read stamp (stamps.1 _ rfl rfl stamp data rfl)
  · intro other mem stamp created mine
    exact told.wrote other mem mine stamp created (once.1 _ rfl rfl)

end Clients

/--
A team is created with a stamp that its client read before another client read one, and after the
team of that one was created.
-/
def Step.IsOutrun {α : Type} (moments : Nat → Moment) (log : List (Step α)) (step : Step α) : Prop :=
  ∃ reading ∈ log, ∃ otherReading ∈ log, ∃ other ∈ log,
    (reading.position = step.position ∧ reading.ReadsMoment ∧
      step.CreatesTeam (moments reading.scene.tick)) ∧
    (otherReading.position = other.position ∧ otherReading.ReadsMoment ∧
      other.CreatesTeam (moments otherReading.scene.tick)) ∧
    other.position ≠ step.position ∧
    reading.scene.tick < otherReading.scene.tick ∧
      otherReading.scene.tick < other.scene.tick ∧ other.scene.tick < step.scene.tick

theorem Stepwise.isOutrun {α : Type} {hasher : Hasher} {tokens : TokenService}
    {moments : Nat → Moment} {programs : List (Program α)} {log : List (Step α)} {scene : Scene α}
    (steady : IsSteady moments) (stampsOnce : ∀ program ∈ programs, program.StampsOnce)
    (run : Stepwise (System.inMemory hasher tokens) moments { programs } log scene)
    {step : Step α} (mem : step ∈ log) (overtaken : step.IsOvertaken) :
    step.IsOutrun moments log := by
  obtain ⟨stamp, creates, created, created_mem, younger⟩ := overtaken
  obtain ⟨earlier, later, rfl⟩ := List.append_of_mem mem
  have before := run.at_step rfl
  obtain ⟨other, other_mem, stamp', creates', rfl⟩ := before.exists_creation created_mem
  have alone := (before.exists_reading stampsOnce creates).2 other other_mem stamp' creates'
  obtain ⟨reading, reading_mem, mine, reads, rfl⟩ :=
    (before.exists_reading stampsOnce creates).1
  obtain ⟨first, between, parts⟩ := List.append_of_mem other_mem
  have otherBefore := before.at_step parts
  obtain ⟨otherReading, otherReading_mem, others, otherReads, rfl⟩ :=
    (otherBefore.exists_reading stampsOnce creates').1
  refine ⟨reading, List.mem_append_left _ reading_mem, otherReading, ?_, other,
    List.mem_append_left _ other_mem, ⟨mine, reads, creates⟩, ⟨others, otherReads, creates'⟩, alone,
    ?_, otherBefore.tick_lt otherReading_mem, before.tick_lt other_mem⟩
  · rw [parts]
    exact List.mem_append_left _ (List.mem_append_left _ otherReading_mem)
  · -- An earlier reading would have given no later time.
    refine Nat.lt_of_not_le fun notLater => ?_
    exact not_le.mpr younger (steady _ _ notLater)

/--
However the steps of clients mix that use the store at the same time, listings of users are oldest
first. Listings of teams are oldest first exactly if no creation of a team is overtaken, and one is
overtaken only when another client reads the time after it and creates its team before it.
-/
theorem stepwise_listings_in_order_iff {α : Type} (hasher : Hasher) (tokens : TokenService)
    {moments : Nat → Moment} (steady : IsSteady moments) (programs : List (Program α))
    (schedule : List Nat) :
    let system := System.inMemory hasher tokens
    let start : Scene α := { programs }
    let log := start.steps system moments schedule
    let final := start.after system moments schedule
    final.store.ListsUsersInOrder ∧
      (((∀ step ∈ log, step.scene.store.ListsTeamsInOrder) ∧ final.store.ListsTeamsInOrder) ↔
        ∀ step ∈ log, ¬step.IsOvertaken) ∧
      ((∀ program ∈ programs, program.StampsOnce) →
        ∀ step ∈ log, step.IsOvertaken → step.IsOutrun moments log) := by
  intro system start log final
  have run : Stepwise system moments start log final :=
    Stepwise.ofSchedule system moments schedule start
  refine ⟨?_, run.listsTeamsInOrder_iff, fun stampsOnce step mem overtaken => ?_⟩
  · exact Store.listsUsersInOrder_of_pairwise (run.usersInOrder steady).inOrder
  · exact run.isOutrun steady stampsOnce mem overtaken

/-! ## A race of creations -/

/-- A row that is to be added to the store. -/
inductive Creation where
  | user (data : NewUser)
  | team (data : NewTeam)

/-- What a client does that adds the row. -/
def Creation.program : Creation → Program Unit
  | user data => do
    let _ ← (Workflow.store (.createUser data)).run
    return ()
  | team data => do
    let _ ← (Workflow.storeTeam data).run
    return ()

theorem Creation.program_user (data : NewUser) :
    (Creation.user data).program = .call (.store (.createUser data)) fun _ => .done () := rfl

theorem Creation.program_team (data : NewTeam) :
    (Creation.team data).program =
      .call .readMoment fun stamp => .call (.store (.createTeam stamp data)) fun _ => .done () := rfl

theorem Creation.stampsOnce (creation : Creation) : creation.program.StampsOnce := by
  cases creation with
  | user data =>
      rw [program_user]
      refine ⟨⟨fun _ _ _ => History.readsOnly_nil, fun _ => trivial⟩, ⟨?_, fun _ => trivial⟩⟩
      rintro _ ⟨⟩ _ stamp draft ⟨⟩
  | team data =>
      rw [program_team]
      constructor
      · refine ⟨by simp, fun stamp => ⟨fun _ _ _ => ?_, fun _ => trivial⟩⟩
        exact History.readsOnly_append_singleton.mpr ⟨History.readsOnly_nil, rfl⟩
      · refine ⟨by simp, fun stamp => ⟨?_, fun _ => trivial⟩⟩
        rintro _ ⟨⟩ _ _ _ ⟨⟩
        exact List.mem_singleton_self _

/-- A clock that moves on by a second with each step of the first minute. -/
def Moment.everySecond (tick : Nat) : Moment :=
  { Moment.numbered tick with
    now := {
      seconds := (min tick 60 : Nat), nanos := 0, inRange := by omega, nanosBound := by omega } }

theorem Moment.isSteady_everySecond : IsSteady Moment.everySecond := by
  intro first second notLater
  show ¬_ < _
  simp only [everySecond, Instant.lt_def]
  omega

/-- Two teams and two accounts that are created at the same time. -/
def creationRace : List (Program Unit) :=
  let account (email : String) : NewUser :=
    { email, passwordHash := "hash", firstName := "Ada", lastName := "Byron", phoneNumber := none,
      role := .employee, createdBy := none, teamId := none }
  let team (name : String) : NewTeam := { name, description := none, createdBy := ⟨1⟩ }
  [Creation.team (team "First"), .user (account "ada@example.org"), .team (team "Second"),
    .user (account "grace@example.org")].map Creation.program

/-- The first team has its time read first and is added last; one account waits for the other. -/
def creationSchedule : List Nat :=
  [0, 1, 2, 3, 1, 1, 3, 3, 3, 2, 2, 0, 0]

theorem creationRace_stampsOnce : ∀ program ∈ creationRace, program.StampsOnce :=
  List.forall_mem_map.mpr fun creation _ => creation.stampsOnce

/-- Where the race has come to. -/
def creationRaceEnd : Scene Unit :=
  Scene.after (System.inMemory .plain .unsigned) .everySecond creationSchedule
    { programs := creationRace }

theorem creationRaceEnd_disordered : ¬creationRaceEnd.store.ListsTeamsInOrder := by
  rw [Store.listsTeamsInOrder_iff]
  decide +kernel

/-- The second team is listed before the first one, which is two seconds older. -/
theorem creationRace_lists_younger_first :
    IsSteady .everySecond ∧ creationRaceEnd.lock = .free ∧
      ((creationRaceEnd.store.listTeams .all).map fun team => (team.name, team.createdAt.seconds)) =
        [("Second", 2), ("First", 0)] ∧
      ¬creationRaceEnd.store.ListsTeamsInOrder :=
  ⟨Moment.isSteady_everySecond, rfl, by decide +kernel, creationRaceEnd_disordered⟩

/-- In that race the accounts are in order, and the first team is outrun. -/
theorem creationRace_outrun :
    let log := Scene.steps (System.inMemory .plain .unsigned) .everySecond creationSchedule
      { programs := creationRace }
    IsSteady .everySecond ∧ (∀ program ∈ creationRace, program.StampsOnce) ∧
      creationRaceEnd.store.userTimes.length = 2 ∧ creationRaceEnd.store.ListsUsersInOrder ∧
        ∃ step ∈ log, step.IsOvertaken ∧ step.IsOutrun .everySecond log := by
  intro log
  obtain ⟨users, teams, outrun⟩ := stepwise_listings_in_order_iff .plain .unsigned
    Moment.isSteady_everySecond creationRace creationSchedule
  have notAllInTime : ¬∀ step ∈ log, ¬step.IsOvertaken := fun inTime =>
    creationRaceEnd_disordered (teams.mpr inTime).2
  push Not at notAllInTime
  obtain ⟨step, mem, overtaken⟩ := notAllInTime
  exact ⟨Moment.isSteady_everySecond, creationRace_stampsOnce, by decide +kernel, users, step, mem,
    overtaken, outrun creationRace_stampsOnce step mem overtaken⟩

end OrgAccess
