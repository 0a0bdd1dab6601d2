import OrgAccess.Proofs.History

/-!
# The store in memory

The answers of the store in memory tell whether anything was written: a question changes nothing,
and neither does a change that the answer calls refused. `Handler.Honest` says so of any handler,
and a run of such exchanges leaves the store as it was.
-/

namespace OrgAccess

/-- The system that keeps its store in memory. -/
def System.inMemory (hasher : Hasher) (tokens : TokenService) : System where
  backend := .memory
  hasher
  tokens

/-- A handler whose quiet answers leave the store as it was. -/
def Handler.Honest (handler : Handler) : Prop :=
  ∀ tick effect store,
    (Exchange.mk effect (handler tick effect store).1).isQuiet = true →
      (handler tick effect store).2 = store

/-- A question changes nothing, and neither does a change that is refused. -/
theorem Store.perform_quiet (store : Store) (moment : Moment) (call : StoreCall)
    (quiet : (Exchange.mk (.store call) (store.perform moment call).1).isQuiet = true) :
    (store.perform moment call).2 = store := by
  revert quiet
  cases call with
  | createUser data =>
      simp only [Store.perform, Store.createUser]
      split
      · simp
      · simp [Exchange.isQuiet, StoreCall.isWrite, StoreCall.isRefused]
  | updateUser id changes =>
      simp only [Store.perform, Store.updateUser]
      split
      · simp
      · split
        · simp
        · simp [Exchange.isQuiet, StoreCall.isWrite, StoreCall.isRefused]
  | deleteUser _ | storeRefreshToken _ _ _ | updateTeam _ _ | deleteTeam _ =>
      simp only [Store.perform, Store.deleteUser, Store.storeRefreshToken, Store.updateTeam,
        Store.deleteTeam, answered]
      split
      · simp
      · simp [Exchange.isQuiet, StoreCall.isWrite, StoreCall.isRefused]
  | rotateRefreshToken id old new expiresAt =>
      simp only [Store.perform, Store.rotateRefreshToken, answered]
      split
      · simp
      · split
        · simp [Exchange.isQuiet, StoreCall.isWrite, StoreCall.isRefused]
        · simp
  | revokeRefreshToken _ | createTeam _ _ | addManager _ _ | removeManager _ _ =>
      simp [Store.perform, answered, Exchange.isQuiet, StoreCall.isWrite, StoreCall.isRefused]
  | adminExists | findUser _ | findUserByEmail _ | listUsers _ | findTeam _ | listTeams _
  | managedTeamIds _ | listEmployees _ | listManagers _ | ping =>
      intro _
      rfl

theorem System.inMemory_honest (hasher : Hasher) (tokens : TokenService)
    (moments : Nat → Moment) : ((System.inMemory hasher tokens).handler moments).Honest := by
  intro tick effect store quiet
  cases effect with
  | store call => exact store.perform_quiet (moments tick) call quiet
  | checkToken kind token => cases kind <;> rfl
  | _ => rfl

namespace Program

variable {α : Type} {handler : Handler}

/-- A run of quiet exchanges leaves the store as it was. -/
theorem run_quiet (honest : handler.Honest) (program : Program α) (world : World)
    (quiet : History.Quiet (program.exchanges handler world)) :
    (program.run handler world).2.store = world.store := by
  induction program generalizing world with
  | done value => rfl
  | call effect next ih =>
      have first : (handler.step effect world).2.store = world.store := by
        apply honest world.tick effect world.store
        exact quiet ⟨effect, (handler.step effect world).1⟩ List.mem_cons_self
      rw [run_call, ih, first]
      intro exchange mem
      exact quiet exchange (List.mem_cons_of_mem _ mem)

end Program

/-! ## A small system -/

/-- A hasher that keeps passwords as they are. -/
def Hasher.plain : Hasher where
  hash := fun _ password => .ok password
  verify := fun stored password => .ok (stored == password)

/-- Tokens with an empty code, which count for an hour. -/
def TokenService.unsigned : TokenService where
  mac := ⟨fun _ _ => []⟩
  secret := ""
  accessLifetime := .ofSeconds 3600
  refreshLifetime := .ofSeconds 3600

/-- A moment whose identifiers are a number. -/
def Moment.numbered (number : Nat) : Moment where
  now := .epoch
  freshId := ⟨BitVec.ofNat 128 number⟩
  salt := []
  accessTokenId := ⟨BitVec.ofNat 128 number⟩
  refreshTokenId := ⟨BitVec.ofNat 128 number⟩

end OrgAccess
