import OrgAccess.Failure
import OrgAccess.Store.Call
import OrgAccess.Token.Signed

/-!
# Programs

A program is a tree: it is done, or it has one effect and goes on with the answer. Everything that
a workflow needs from outside is such an effect, so what a workflow does is laid open, effect by
effect, whoever answers and whatever happens in between.

`Workflow` adds failing: the first failure ends the program.
-/

namespace OrgAccess

/-- One thing that a program asks of its surroundings. -/
inductive Effect where
  | store (call : StoreCall)
  | hashPassword (password : String)
  | verifyPassword (stored password : String)
  | issueTokens (user : Uuid)
  | checkToken (kind : TokenKind) (token : String)
  | readMoment

/-- What an effect is answered with. -/
abbrev Effect.Answer : Effect → Type
  | store call => Except StoreError call.Answer
  | hashPassword _ => Except PasswordError String
  | verifyPassword _ _ => Except PasswordError Bool
  | issueTokens _ => Except TokenError TokenPair
  | checkToken _ _ => Except TokenError Claims
  | readMoment => Moment

/-- A program that gives a value after some effects. -/
inductive Program (α : Type) where
  | done (value : α)
  | call (effect : Effect) (next : effect.Answer → Program α)

namespace Program

/-- Goes on with what a program gives. -/
def andThen {α β : Type} : Program α → (α → Program β) → Program β
  | done value, rest => rest value
  | call effect next, rest => call effect fun answer => (next answer).andThen rest

/-- Programs one after the other. -/
instance : Monad Program where
  pure := done
  bind := andThen

/-- The program that is one effect. -/
def effect (effect : Effect) : Program effect.Answer :=
  call effect done

@[simp]
theorem pure_eq {α : Type} (value : α) : (pure value : Program α) = done value := rfl

@[simp]
theorem done_bind {α β : Type} (value : α) (rest : α → Program β) :
    (done value >>= rest) = rest value := rfl

@[simp]
theorem call_bind {α β : Type} (effect : Effect) (next : effect.Answer → Program α)
    (rest : α → Program β) :
    (call effect next >>= rest) = call effect fun answer => next answer >>= rest := rfl

@[simp]
theorem effect_bind {β : Type} (action : Effect) (rest : action.Answer → Program β) :
    (effect action >>= rest) = call action rest := rfl

theorem bind_done {α : Type} (program : Program α) : (program >>= done) = program := by
  induction program with
  | done value => rfl
  | call effect next ih => simp [ih]

theorem bind_bind {α β γ : Type} (program : Program α) (first : α → Program β)
    (second : β → Program γ) :
    ((program >>= first) >>= second) = (program >>= fun value => first value >>= second) := by
  induction program with
  | done value => rfl
  | call effect next ih => simp [ih]

/-- Only the order of the effects counts, not how a program is put together. -/
instance : LawfulMonad Program :=
  LawfulMonad.mk' Program bind_done (fun _ _ => rfl) bind_bind

end Program

/-- A program that gives a value or a failure. -/
abbrev Workflow (α : Type) := ExceptT Failure Program α

namespace Workflow

/-- A program whose errors are failures of an operation. -/
def lift {ε α : Type} (toFailure : ε → Failure) (program : Program (Except ε α)) : Workflow α :=
  ExceptT.mk do return (← program).mapError toFailure

/-- Asks the store. -/
def store (call : StoreCall) : Workflow call.Answer :=
  lift Failure.ofStore (Program.effect (.store call))

/-- Has a password hashed. -/
def hashPassword (password : String) : Workflow String :=
  lift Failure.ofPassword (Program.effect (.hashPassword password))

/-- Has a password compared with a stored hash. -/
def verifyPassword (stored password : String) : Workflow Bool :=
  lift Failure.ofPassword (Program.effect (.verifyPassword stored password))

/-- Has a pair of tokens issued to a user. -/
def issueTokens (user : Uuid) : Workflow TokenPair :=
  lift Failure.ofToken (Program.effect (.issueTokens user))

/-- What a rule gives; a denial ends the operation. -/
def permitted {α : Type} : Except Denial α → Workflow α
  | .ok value => pure value
  | .error denial => throw (.ofDenial denial)

/-- What has to be there; otherwise the operation fails. -/
def require {α : Type} (failure : Failure) : Option α → Workflow α
  | some value => pure value
  | none => throw failure

end Workflow

end OrgAccess
