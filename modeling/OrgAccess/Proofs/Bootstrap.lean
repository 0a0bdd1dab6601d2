import OrgAccess.Proofs.Clients
import OrgAccess.Proofs.Rows

/-!
# The first admin under concurrency

As long as there is no admin, an anonymous registration creates one. It asks whether there is an
admin in one call on the store, hashes the password, and creates the account in a later call that
does not ask again. Of several anonymous registrations that take turns, more than one can therefore
succeed.

A creation is late if there is an admin by the time it comes (`Turn.IsLate`). At most one of the
registrations succeeds exactly if none of the creations is late, and a late one comes from a client
that had asked before another client created its account.
-/

namespace OrgAccess

/-- Whether an account was created. -/
def Exchange.isCreation : Exchange → Bool
  | ⟨.store (.createUser _), .ok _⟩ => true
  | _ => false

/-- An account is created when there is an admin already. -/
def Turn.IsLate (turn : Turn) : Prop :=
  turn.exchange.isCreation = true ∧ turn.before.store.adminExists = true

/-- Whether a user is an admin without a creator. -/
def User.isFounder (user : User) : Bool :=
  user.isAdmin && user.createdBy.isNone

/-- The operation at a position has ended with success. -/
def HasSucceeded (now : List (Program Outcome)) (position : Nat) : Prop :=
  ∃ outcome, now[position]? = some (.done outcome) ∧ outcome.Succeeded

instance (now : List (Program Outcome)) (position : Nat) : Decidable (HasSucceeded now position) :=
  match found : now[position]? with
  | some (.done ⟨operation, .ok value⟩) => isTrue ⟨⟨operation, .ok value⟩, found, value, rfl⟩
  | some (.done ⟨operation, .error failure⟩) =>
    isFalse (by
      rintro ⟨outcome, ended, value, succeeded⟩
      rw [found] at ended
      cases ended
      cases succeeded)
  | some (.call effect next) => isFalse (by simp [HasSucceeded, found])
  | none => isFalse (by simp [HasSucceeded, found])

/-- A late creation was allowed by a check that came before another client's creation. -/
def Turn.IsOutrun (turn : Turn) (log : List Turn) : Prop :=
  ∃ check ∈ log, ∃ other ∈ log, check.position = turn.position ∧ other.position ≠ turn.position ∧
    check.exchange = ⟨.store .adminExists, .ok false⟩ ∧ other.exchange.isCreation = true ∧
      check.before.tick < other.before.tick ∧ other.before.tick < turn.before.tick

namespace Exchange

theorem isCreation_of_leavesUsers {exchange : Exchange} (leaves : exchange.leavesUsers = true) :
    exchange.isCreation = false := by
  unfold isCreation
  split
  · simp [leavesUsers, StoreCall.isUserWrite, StoreCall.isRefused] at leaves
  · rfl

theorem eq_of_isCreation {exchange : Exchange} (creation : exchange.isCreation = true) :
    ∃ data user, exchange = ⟨.store (.createUser data), .ok user⟩ := by
  unfold isCreation at creation
  split at creation
  · exact ⟨_, _, rfl⟩
  · cases creation

theorem isWrite_of_isCreation {exchange : Exchange} (creation : exchange.isCreation = true) :
    exchange.effect.isWrite = true := by
  rcases eq_of_isCreation creation with ⟨data, user, rfl⟩
  rfl

end Exchange

/-- If the exchange is a write, it creates an admin without a creator. -/
def Exchange.CreatesFounder (exchange : Exchange) : Prop :=
  exchange.effect.isWrite = true → ∃ data, exchange.effect = .store (.createUser data) ∧
    data.role = .admin ∧ data.createdBy = none

/-- Where only founders are created, all users are live founders, one for each creation. -/
theorem UserStep.founders {store : Store} {moment : Moment} {exchange : Exchange}
    {users : List User} (step : UserStep store moment exchange users)
    (creates : exchange.CreatesFounder)
    (founders : ∀ user ∈ store.users, user.isLive = true ∧ user.isFounder = true) :
    (∀ user ∈ users, user.isLive = true ∧ user.isFounder = true) ∧
      users.length = store.users.length + if exchange.isCreation then 1 else 0 := by
  cases step with
  | keep leaves => exact ⟨founders, by simp [Exchange.isCreation_of_leavesUsers leaves]⟩
  | @create data =>
      rcases creates rfl with ⟨_, ⟨rfl⟩, isAdmin, uncreated⟩
      refine ⟨fun user mem => ?_, by simp [Exchange.isCreation]⟩
      rcases List.mem_append.mp mem with mem | mem
      · exact founders user mem
      · rw [List.mem_singleton.mp mem]
        simp [Store.newUserRecord, User.isLive, User.isFounder, User.isAdmin, isAdmin, uncreated]
  | update found => exact absurd (creates rfl) (by simp)
  | delete found => exact absurd (creates rfl) (by simp)
  | openSession found => exact absurd (creates rfl) (by simp)
  | renewSession found current => exact absurd (creates rfl) (by simp)
  | closeSession => exact absurd (creates rfl) (by simp)

/-- Anonymous registrations of these inputs take turns. -/
abbrev Bootstrapping (hasher : Hasher) (tokens : TokenService) (moments : Nat → Moment)
    (inputs : List Registration) (start : World) :
    List Turn → List (Program Outcome) → World → Prop :=
  TakingTurns hasher tokens moments (inputs.map (Operation.register none)) start

namespace Bootstrapping

variable {hasher : Hasher} {tokens : TokenService} {moments : Nat → Moment}
  {inputs : List Registration} {now : List (Program Outcome)} {start world : World}
  {log : List Turn} {turn : Turn}

/-- Whoever writes creates a founder, after it was told that there is no admin. -/
theorem checked_of_writes (run : Bootstrapping hasher tokens moments inputs start log now world)
    (mem : turn ∈ log) (writes : turn.exchange.effect.isWrite = true) :
    (∃ data, turn.exchange.effect = .store (.createUser data) ∧ data.role = .admin ∧
        data.createdBy = none) ∧
      ∃ check ∈ log, check.position = turn.position ∧
        check.exchange = ⟨.store .adminExists, .ok false⟩ ∧
          check.before.tick < turn.before.tick := by
  rcases List.append_of_mem mem with ⟨earlier, later, parts⟩
  obtain ⟨call, asks⟩ : ∃ call, turn.exchange.effect = .store call := by
    cases same : turn.exchange.effect with
    | store call => exact ⟨call, rfl⟩
    | _ => simp [same, Effect.isWrite] at writes
  rcases run.write_justified parts asks (by simpa [asks, Effect.isWrite] using writes) with
    ⟨_, operation, given, because⟩
  rw [List.getElem?_map, Option.map_eq_some_iff] at given
  rcases given with ⟨input, _, rfl⟩
  rcases because with ⟨adminExists, data, rfl, asked, admits, named⟩
  refine ⟨⟨data, asks, admits.anonymous rfl⟩, ?_⟩
  obtain rfl : adminExists = false := by
    refine eq_false_of_ne_true fun exists_admin => ?_
    rcases named exists_admin with ⟨creator, impossible, _⟩
    cases impossible
  rcases Interleaved.mem_historyOf.mp asked with ⟨check, check_earlier, mine, exchanged⟩
  rcases (run.mem_earlier_iff parts).mp check_earlier with ⟨check_mem, before⟩
  exact ⟨check, check_mem, mine, exchanged, before⟩

theorem founders (run : Bootstrapping hasher tokens moments inputs start log now world)
    (nobody : start.store.users = []) :
    (∀ user ∈ world.store.users, user.isLive = true ∧ user.isFounder = true) ∧
      world.store.users.length = log.countP fun turn => turn.exchange.isCreation := by
  induction run with
  | start => simp [nobody]
  | @turn log now world position effect next run calls ih =>
      have creates : Exchange.CreatesFounder
          ⟨effect, (((System.inMemory hasher tokens).handler moments).step effect world).1⟩ :=
        fun writes => (checked_of_writes (run.turn calls)
          (List.mem_append_right log List.mem_cons_self) writes).1
      have step := (System.inMemory_userStep hasher tokens moments effect world).founders creates
        ih.1
      refine ⟨step.1, step.2.trans ?_⟩
      rw [ih.2, List.countP_append, List.countP_singleton]

theorem adminExists_iff (run : Bootstrapping hasher tokens moments inputs start log now world)
    (nobody : start.store.users = []) :
    world.store.adminExists = true ↔ ∃ turn ∈ log, turn.exchange.isCreation = true := by
  rcases run.founders nobody with ⟨founders, created⟩
  rw [← List.countP_pos_iff, ← created, List.length_pos_iff_exists_mem, Store.adminExists,
    List.any_eq_true]
  constructor
  · rintro ⟨user, mem, _⟩
    exact ⟨user, mem⟩
  · rintro ⟨user, mem⟩
    have founder := founders user mem
    simp only [User.isFounder, Bool.and_eq_true] at founder
    exact ⟨user, mem, by simp [founder]⟩

/-- A creation is late exactly if another one came before it. -/
theorem isLate_iff (run : Bootstrapping hasher tokens moments inputs start log now world)
    (nobody : start.store.users = []) (mem : turn ∈ log) :
    turn.IsLate ↔ turn.exchange.isCreation = true ∧
      ∃ other ∈ log, other.exchange.isCreation = true ∧
        other.before.tick < turn.before.tick := by
  rcases List.append_of_mem mem with ⟨earlier, later, parts⟩
  rcases run.at_turn parts with ⟨_, _, _, before, _⟩
  rw [Turn.IsLate, adminExists_iff before nobody]
  refine and_congr_right fun _ => ⟨?_, ?_⟩
  · rintro ⟨other, other_earlier, creation⟩
    rcases (run.mem_earlier_iff parts).mp other_earlier with ⟨other_mem, first⟩
    exact ⟨other, other_mem, creation, first⟩
  · rintro ⟨other, other_mem, creation, first⟩
    exact ⟨other, (run.mem_earlier_iff parts).mpr ⟨other_mem, first⟩, creation⟩

theorem unique_iff (run : Bootstrapping hasher tokens moments inputs start log now world)
    (nobody : start.store.users = []) :
    (∀ first ∈ log, ∀ second ∈ log, first.exchange.isCreation = true →
        second.exchange.isCreation = true → first = second) ↔
      ∀ turn ∈ log, ¬turn.IsLate := by
  constructor
  · intro unique turn mem late
    rcases (run.isLate_iff nobody mem).mp late with ⟨creation, other, other_mem, other_creation, first⟩
    obtain rfl := unique turn mem other other_mem creation other_creation
    exact Nat.lt_irrefl _ first
  · intro inTime first first_mem second second_mem first_creates second_creates
    have not_before {turn other : Turn} (mem : turn ∈ log) (other_mem : other ∈ log)
        (creation : turn.exchange.isCreation = true)
        (other_creation : other.exchange.isCreation = true) :
        ¬other.before.tick < turn.before.tick := fun before =>
      inTime turn mem <|
        (run.isLate_iff nobody mem).mpr ⟨creation, other, other_mem, other_creation, before⟩
    have first_not_after := not_before first_mem second_mem first_creates second_creates
    have second_not_after := not_before second_mem first_mem second_creates first_creates
    exact run.eq_of_mem_of_tick_eq first_mem second_mem (by omega)

theorem hasSucceeded_iff (run : Bootstrapping hasher tokens moments inputs start log now world)
    (position : Nat) :
    HasSucceeded now position ↔
      ∃ turn ∈ log, turn.position = position ∧ turn.exchange.isCreation = true := by
  have told {outcome : Outcome} (ended : now[position]? = some (.done outcome)) :
      outcome.Succeeded ↔ (historyOf log position).SawCreated := by
    have each := TakingTurns.outcome_obeys (inputs.map (Operation.register none))
      (fun position later outcome => outcome.TellsCreation later ∧
        ∃ input, outcome.operation = .register none input)
      fun position operation given => ?_
    · rcases run.obeys each position _ ended with ⟨tells, input, asked⟩
      exact tells none input asked
    · rw [List.getElem?_map, Option.map_eq_some_iff] at given
      rcases given with ⟨input, _, rfl⟩
      refine (Operation.tellsCreation _).mono (fun _ _ _ allowed => allowed) ?_
      exact fun _ _ _ tells => ⟨tells, input, rfl⟩
  have saw_iff : (historyOf log position).SawCreated ↔
      ∃ turn ∈ log, turn.position = position ∧ turn.exchange.isCreation = true := by
    constructor
    · rintro ⟨data, user, saw⟩
      rcases Interleaved.mem_historyOf.mp saw with ⟨turn, mem, mine, exchanged⟩
      exact ⟨turn, mem, mine, by rw [exchanged]; rfl⟩
    · rintro ⟨turn, mem, mine, creation⟩
      rcases Exchange.eq_of_isCreation creation with ⟨data, user, exchanged⟩
      exact ⟨data, user, Interleaved.mem_historyOf.mpr ⟨turn, mem, mine, exchanged⟩⟩
  rw [← saw_iff]
  constructor
  · rintro ⟨outcome, ended, succeeded⟩
    exact (told ended).mp succeeded
  · intro created
    rcases saw_iff.mp created with ⟨turn, mem, rfl, creation⟩
    rcases run.done_of_writes mem (Exchange.isWrite_of_isCreation creation) with ⟨outcome, ended⟩
    exact ⟨outcome, ended, (told ended).mpr created⟩

theorem single_success_iff (run : Bootstrapping hasher tokens moments inputs start log now world)
    (nobody : start.store.users = []) :
    (∀ first second, HasSucceeded now first → HasSucceeded now second → first = second) ↔
      ∀ turn ∈ log, ¬turn.IsLate := by
  rw [← run.unique_iff nobody]
  simp only [run.hasSucceeded_iff]
  constructor
  · intro single first first_mem second second_mem first_creates second_creates
    have same := single first.position second.position ⟨first, first_mem, rfl, first_creates⟩
      ⟨second, second_mem, rfl, second_creates⟩
    exact run.eq_of_writes first_mem second_mem same (Exchange.isWrite_of_isCreation first_creates)
      (Exchange.isWrite_of_isCreation second_creates)
  · rintro unique _ _ ⟨first, first_mem, rfl, first_creates⟩ ⟨second, second_mem, rfl, second_creates⟩
    rw [unique first first_mem second second_mem first_creates second_creates]

theorem creations_le_one_iff
    (run : Bootstrapping hasher tokens moments inputs start log now world)
    (nobody : start.store.users = []) :
    (log.countP fun turn => turn.exchange.isCreation) ≤ 1 ↔ ∀ turn ∈ log, ¬turn.IsLate := by
  induction run with
  | start => simp
  | @turn log now world position effect next run calls ih =>
      have earlier : (log.countP fun turn => turn.exchange.isCreation) ≤ 1 ↔
          ∀ turn ∈ log, ¬turn.IsLate := ih
      have none_before : ¬world.store.adminExists = true ↔
          ¬0 < log.countP fun turn => turn.exchange.isCreation := by
        rw [adminExists_iff run nobody, List.countP_pos_iff]
      rw [List.countP_append, List.countP_singleton, List.forall_mem_append, ← earlier]
      cases creation : Exchange.isCreation
          ⟨effect, (((System.inMemory hasher tokens).handler moments).step effect world).1⟩ with
      | false => simp [Turn.IsLate, creation]
      | true =>
          simp only [Turn.IsLate, creation, List.mem_singleton, forall_eq, true_and, none_before,
            if_true]
          omega

theorem single_founder_iff (run : Bootstrapping hasher tokens moments inputs start log now world)
    (nobody : start.store.users = []) :
    world.store.users.countP User.isFounder ≤ 1 ↔ ∀ turn ∈ log, ¬turn.IsLate := by
  rcases run.founders nobody with ⟨founders, created⟩
  have all_founders : world.store.users.countP User.isFounder = world.store.users.length :=
    List.countP_eq_length.mpr fun user mem => (founders user mem).2
  rw [all_founders, created]
  exact run.creations_le_one_iff nobody

/-- A late creation comes from a client that had asked before another one created its account. -/
theorem isOutrun_of_isLate (run : Bootstrapping hasher tokens moments inputs start log now world)
    (nobody : start.store.users = []) (mem : turn ∈ log) (late : turn.IsLate) :
    turn.IsOutrun log := by
  rcases (run.isLate_iff nobody mem).mp late with ⟨creation, other, other_mem, other_creates, first⟩
  have writes := Exchange.isWrite_of_isCreation creation
  rcases (run.checked_of_writes mem writes).2 with ⟨check, check_mem, mine, exchanged, before⟩
  refine ⟨check, check_mem, other, other_mem, mine, fun same => ?_, exchanged, other_creates, ?_, first⟩
  · have one := run.eq_of_writes other_mem mem same (Exchange.isWrite_of_isCreation other_creates)
      writes
    rw [one] at first
    exact Nat.lt_irrefl _ first
  · -- When the client asked there was no admin, so no account had been created by then.
    have no_admin : check.before.store.adminExists = false :=
      (Except.ok.inj (run.answer_of_mem check_mem exchanged)).symm
    refine Nat.lt_of_not_le fun not_after => ?_
    rcases Nat.lt_or_eq_of_le not_after with earlier | same_tick
    · rcases List.append_of_mem check_mem with ⟨_, _, parts⟩
      rcases run.at_turn parts with ⟨_, _, _, reached, _⟩
      have exists_admin := (adminExists_iff reached nobody).mpr
        ⟨other, (run.mem_earlier_iff parts).mpr ⟨other_mem, earlier⟩, other_creates⟩
      rw [no_admin] at exists_admin
      cases exists_admin
    · obtain rfl := run.eq_of_mem_of_tick_eq other_mem check_mem same_tick
      rw [exchanged] at other_creates
      cases other_creates

end Bootstrapping

/--
Of anonymous registrations that take turns where there are no users, at most one succeeds, and at
most one admin is created by nobody, exactly if no creation is late; and a late creation comes from
a client that had asked before another one created its account.
-/
theorem interleaved_bootstrap_single_iff (hasher : Hasher) (tokens : TokenService)
    (moments : Nat → Moment) (teams : List Team) (links : List ManagerLink) (tick : Nat)
    (inputs : List Registration) (schedule : List Nat) :
    let handler := (System.inMemory hasher tokens).handler moments
    let start : World := { store := { teams, links }, tick }
    let programs := (inputs.map (Operation.register none)).map Operation.outcome
    let log := Program.turns handler schedule programs start
    let final := Program.interleave handler schedule programs start
    ((∀ first second, HasSucceeded final.1 first → HasSucceeded final.1 second → first = second) ↔
        ∀ turn ∈ log, ¬turn.IsLate) ∧
      (final.2.store.users.countP User.isFounder ≤ 1 ↔ ∀ turn ∈ log, ¬turn.IsLate) ∧
        ∀ turn ∈ log, turn.IsLate → turn.IsOutrun log := by
  intro handler start programs log final
  have run : Bootstrapping hasher tokens moments inputs start log final.1 final.2 :=
    Interleaved.ofSchedule handler schedule programs start
  have nobody : start.store.users = [] := rfl
  exact ⟨run.single_success_iff nobody, run.single_founder_iff nobody,
    fun turn mem late => run.isOutrun_of_isLate nobody mem late⟩

/-- Two people who register at the same time as the first ones. -/
def bootstrapRace : List Registration :=
  let person (email : String) : Registration :=
    { email, password := "password", firstName := "Ada", lastName := "Byron", phoneNumber := none,
      role := none, teamId := none }
  [person "first@example.org", person "second@example.org"]

/-- The second one registers in full after the first one has asked whether there is an admin. -/
def bootstrapSchedule : List Nat :=
  [0, 1, 1, 1, 0, 0]

theorem bootstrapRace_two_founders :
    let handler := (System.inMemory .plain .unsigned).handler .numbered
    let programs := (bootstrapRace.map (Operation.register none)).map Operation.outcome
    let final := Program.interleave handler bootstrapSchedule programs {}
    (HasSucceeded final.1 0 ∧ HasSucceeded final.1 1) ∧
      final.2.store.users.countP User.isFounder = 2 := by
  decide +kernel

end OrgAccess
