import OrgAccess.Program.Run

/-!
# Interleaved runs

Several programs run side by side when their effects take turns in any order. A schedule names, for
each turn, the program that has its next effect; a turn of a finished program passes.
-/

namespace OrgAccess

namespace Program

/-- The next effect of a program; one that has ended stays as it is. -/
def step {α : Type} (handler : Handler) : Program α → World → Program α × World
  | done value, world => (done value, world)
  | call effect next, world =>
    let (answer, world) := handler.step effect world
    (next answer, world)

/-- A step of one of several programs; a position beyond them names none. -/
def stepAt {α : Type} (handler : Handler) :
    (position : Nat) → List (Program α) → World → List (Program α) × World
  | _, [], world => ([], world)
  | 0, program :: programs, world =>
    let (program, world) := program.step handler world
    (program :: programs, world)
  | position + 1, program :: programs, world =>
    let (programs, world) := stepAt handler position programs world
    (program :: programs, world)

/-- The programs after the steps of a schedule, which names whose turn it is each time. -/
def interleave {α : Type} (handler : Handler) :
    (schedule : List Nat) → List (Program α) → World → List (Program α) × World
  | [], programs, world => (programs, world)
  | position :: schedule, programs, world =>
    let (programs, world) := stepAt handler position programs world
    interleave handler schedule programs world

/-- Runs programs to their ends, one after the other. -/
def runEach {α : Type} (handler : Handler) : List (Program α) → World → List α × World
  | [], world => ([], world)
  | program :: programs, world =>
    let (value, world) := program.run handler world
    let (values, world) := runEach handler programs world
    (value :: values, world)

/-- Runs programs side by side in turns, and to their ends after the last turn. -/
def runInterleaved {α : Type} (handler : Handler) (schedule : List Nat)
    (programs : List (Program α)) (world : World) : List α × World :=
  let (programs, world) := interleave handler schedule programs world
  runEach handler programs world

end Program

end OrgAccess
