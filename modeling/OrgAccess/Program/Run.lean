import OrgAccess.Program

/-!
# Running programs

A handler answers effects, one after the other, and may change the store in answering. A system
gives a handler: its backend answers the calls on the store, its hasher and its tokens the rest,
each effect at a moment of its own.
-/

namespace OrgAccess

/-- The store in the course of a run, with the number of effects answered so far. -/
structure World where
  store : Store := {}
  tick : Nat := 0

/-- Answers an effect, given how many were answered before and what is stored. -/
abbrev Handler := (tick : Nat) → (effect : Effect) → Store → effect.Answer × Store

/-- Answers an effect; the next one comes at a later tick. -/
def Handler.step (handler : Handler) (effect : Effect) (world : World) : effect.Answer × World :=
  let (answer, store) := handler world.tick effect world.store
  (answer, { store, tick := world.tick + 1 })

/-- Runs a program to its end. -/
def Program.run {α : Type} (handler : Handler) : Program α → World → α × World
  | done value, world => (value, world)
  | call effect next, world =>
    let (answer, world) := handler.step effect world
    (next answer).run handler world

@[simp]
theorem Program.run_done {α : Type} (handler : Handler) (value : α) (world : World) :
    (Program.done value).run handler world = (value, world) := rfl

theorem Program.run_call {α : Type} (handler : Handler) (effect : Effect)
    (next : effect.Answer → Program α) (world : World) :
    (Program.call effect next).run handler world =
      (next (handler.step effect world).1).run handler (handler.step effect world).2 := rfl

/-- A run of two programs in a row is the run of the second from where the first one ended. -/
theorem Program.run_bind {α β : Type} (handler : Handler) (program : Program α)
    (rest : α → Program β) (world : World) :
    (program >>= rest).run handler world =
      (rest (program.run handler world).1).run handler (program.run handler world).2 := by
  induction program generalizing world with
  | done value => rfl
  | call effect next ih => simp only [call_bind, run_call, ih]

/-- What answers the calls on the store. -/
structure Backend where
  answer : (call : StoreCall) → Moment → Store → Except StoreError call.Answer × Store

namespace Backend

/-- The backend that keeps everything in memory. -/
def memory : Backend where
  answer := fun call moment store => store.perform moment call

/-- A backend that cannot be reached. -/
def unreachable (reason : String) : Backend where
  answer := fun _ _ store => (.error (.unavailable reason), store)

/-- A backend whose connections have been closed. -/
def closed : Backend :=
  unreachable "attempted to acquire a connection on a closed pool"

end Backend

/-- Everything that runs the workflows, except what is stored. -/
structure System where
  backend : Backend
  hasher : Hasher
  tokens : TokenService

namespace System

/-- What an effect is answered at a moment, with the store that it leaves. -/
def answer (system : System) (moment : Moment) (store : Store) :
    (effect : Effect) → effect.Answer × Store
  | .store call => system.backend.answer call moment store
  | .hashPassword password => (system.hasher.hash moment.salt password, store)
  | .verifyPassword stored password => (system.hasher.verify stored password, store)
  | .issueTokens user => (system.tokens.issuePair moment user, store)
  | .checkToken .access token => (system.tokens.validateAccess moment.now token, store)
  | .checkToken .refresh token => (system.tokens.validateRefresh moment.now token, store)
  | .readMoment => (moment, store)

/-- Answers each effect at the moment that its position in the run has. -/
def handler (system : System) (moments : Nat → Moment) : Handler :=
  fun tick effect store => system.answer (moments tick) store effect

/-- Runs a program on a system from a world on. -/
def run {α : Type} (system : System) (moments : Nat → Moment) (program : Program α)
    (world : World) : α × World :=
  program.run (system.handler moments) world

end System

end OrgAccess
