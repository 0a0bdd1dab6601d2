import OrgAccess.Proofs.JsonOutcomes

/-!
# Where a reader is in a JSON text

A scanner goes through a JSON text character by character and keeps no more than the kind of token
that it is in and how many brackets are open. It accepts more than the notation does, but it breaks
at whatever no reader can take at its place: at a comma, a colon or a closing bracket that has no
bracket around it, among others.

`Scanner.Leads` says that a scanner comes from the front of a text to a later place of it, and that
it would do so with any number of brackets open before. Every reader that gives a value leads the
scanner over the text that it has taken.
-/

namespace OrgAccess.Json

/-- The kind of token in which a scanner is. -/
inductive Mode where
  /-- Between tokens, or after a digit. -/
  | free
  | text
  /-- After the backslash of an escape. -/
  | escape
  /-- Before a digit of an escape, after which so many are left. -/
  | hex (left : Nat)
  /-- Before a letter of a word, after which so many are left. -/
  | word (left : Nat)
  /-- Before a digit that has to follow. -/
  | digit
  /-- After the letter of an exponent. -/
  | exponent
  | broken
deriving DecidableEq

/-- How many brackets are open, and the token in which a scanner is. -/
structure Scanner where
  mode : Mode
  depth : Nat
deriving DecidableEq

/-- Whether a character may come after the first one of a word. -/
def isWordLetter (character : Option Char) : Bool :=
  character.any fun letter => letter ∈ ['u', 'l', 'r', 'e', 'a', 's']

/-- Before the last digits of an escape. -/
def Mode.hexDigits : (left : Nat) → Mode
  | 0 => text
  | left + 1 => hex left

/-- Before the last letters of a word. -/
def Mode.letters : (left : Nat) → Mode
  | 0 => free
  | left + 1 => word left

/-- The token in which a scanner is after a character, brackets and separators apart. -/
def Mode.next : Mode → Option Char → Mode
  | free, character =>
    if character = some '"' then text
    else if character = some '-' ∨ character = some '.' then digit
    else if character = some 'e' ∨ character = some 'E' then exponent
    else if character = some 'n' ∨ character = some 't' then letters 3
    else if character = some 'f' then letters 4
    else if isSpace character ∨ beginsNumber character then free
    else broken
  | text, none => text
  | text, some character =>
    if character = '"' then free
    else if character = '\\' then escape
    else if character.toNat < 0x20 then broken
    else text
  | escape, character =>
    if character = some 'u' then hexDigits 4
    else if (character.bind shortEscape?).isSome then text
    else broken
  | hex left, character =>
    if (character.bind Text.hexValue?).isSome then hexDigits left else broken
  | word left, character =>
    if isWordLetter character then letters left else broken
  | digit, character => if beginsNumber character then free else broken
  | exponent, character =>
    if character = some '+' ∨ character = some '-' then digit
    else if beginsNumber character then free
    else broken
  | broken, _ => broken

namespace Scanner

/-- One closing bracket, comma or colon with so many brackets open around it. -/
def inside : (depth : Nat) → (after : Nat → Scanner) → Scanner
  | 0, _ => ⟨.broken, 0⟩
  | depth + 1, after => after depth

/-- What a character does to a scanner. -/
def step (scanner : Scanner) (character : Option Char) : Scanner :=
  match scanner with
  | ⟨.free, depth⟩ =>
    if character = some '[' ∨ character = some '{' then ⟨.free, depth + 1⟩
    else if character = some ']' ∨ character = some '}' then inside depth fun outer => ⟨.free, outer⟩
    else if character = some ',' ∨ character = some ':' then
      inside depth fun outer => ⟨.free, outer + 1⟩
    else ⟨Mode.free.next character, depth⟩
  | ⟨mode, depth⟩ => ⟨mode.next character, depth⟩

/-- Where a scanner is after a whole text. -/
def scan (scanner : Scanner) (input : Input) : Scanner :=
  input.foldl step scanner

/-- The same place with more brackets open around it. -/
def lift (more : Nat) (scanner : Scanner) : Scanner :=
  ⟨scanner.mode, more + scanner.depth⟩

/--
A scanner comes from the front of a text to another place before a rest of it, and in the same way
with any number of brackets open around the text.
-/
inductive Leads : Scanner → Input → Scanner → Input → Prop
  | refl (scanner : Scanner) (input : Input) : Leads scanner input scanner input
  | step {before after : Scanner} {character : Option Char} {input rest : Input}
      (middle : Scanner) (steps : ∀ more, (before.lift more).step character = middle.lift more)
      (later : Leads middle input after rest) : Leads before (character :: input) after rest

variable {before middle after : Scanner} {input between rest : Input} {character : Option Char}
  {mode : Mode} {depth : Nat}

theorem Leads.trans (first : Leads before input middle between)
    (second : Leads middle between after rest) : Leads before input after rest := by
  induction first with
  | refl => exact second
  | step middle steps _ ih => exact .step middle steps (ih second)

theorem Leads.scan_eq (leads : Leads before input after rest) (more : Nat) :
    (before.lift more).scan input = (after.lift more).scan rest := by
  induction leads with
  | refl => rfl
  | step middle steps _ ih =>
      rw [scan, List.foldl_cons, steps more]
      exact ih

/-- Two scanners from one place are on the same way: one of them comes to where the other is. -/
theorem Leads.linear {other : Scanner} {rest' : Input} (first : Leads before input after rest)
    (second : Leads before input other rest') :
    Leads after rest other rest' ∨ Leads other rest' after rest := by
  induction first with
  | refl => exact Or.inl second
  | step middle steps later ih =>
      cases second with
      | refl => exact Or.inr (.step middle steps later)
      | step middle' steps' later' =>
          have same : middle.lift 0 = middle'.lift 0 := (steps 0).symm.trans (steps' 0)
          simp only [lift, Nat.zero_add] at same
          cases middle
          cases middle'
          cases same
          exact ih later'

/-! ## Single characters -/

theorem step_of_ne_free (inside : mode ≠ .free) (character : Option Char) :
    step ⟨mode, depth⟩ character = ⟨mode.next character, depth⟩ := by
  cases mode <;> first | rfl | exact absurd rfl inside

theorem leads_next (inside : mode ≠ .free) (character : Option Char) (input : Input) :
    Leads ⟨mode, depth⟩ (character :: input) ⟨mode.next character, depth⟩ input :=
  .step ⟨_, depth⟩ (fun _ => step_of_ne_free inside character) (.refl _ _)

theorem leads_into {other : Mode} (inside : mode ≠ .free) (next : mode.next character = other)
    (input : Input) : Leads ⟨mode, depth⟩ (character :: input) ⟨other, depth⟩ input :=
  next ▸ leads_next inside character input

/-- Whether a character is a bracket or a separator. -/
def isMark (character : Option Char) : Bool :=
  character ∈ [some '[', some '{', some ']', some '}', some ',', some ':']

theorem step_free (plain : isMark character = false) :
    step ⟨.free, depth⟩ character = ⟨Mode.free.next character, depth⟩ := by
  have apart : ∀ mark ∈ [some '[', some '{', some ']', some '}', some ',', some ':'],
      character ≠ mark := by
    rintro mark mem rfl
    simp only [isMark, decide_eq_false_iff_not] at plain
    exact plain mem
  simp only [List.forall_mem_cons, List.not_mem_nil] at apart
  simp [step, apart]

theorem leads_free (plain : isMark character = false) (next : Mode.free.next character = mode)
    (input : Input) : Leads ⟨.free, depth⟩ (character :: input) ⟨mode, depth⟩ input :=
  .step ⟨mode, depth⟩ (fun _ => (step_free plain).trans (next ▸ rfl)) (.refl _ _)

theorem next_of_isSpace (blank : isSpace character = true) :
    isMark character = false ∧ Mode.free.next character = .free := by
  simp only [isSpace, Bool.or_eq_true, beq_iff_eq] at blank
  rcases blank with ((rfl | rfl) | rfl) | rfl
  all_goals exact ⟨rfl, rfl⟩

theorem next_of_beginsNumber (isDigit : beginsNumber character = true) :
    isMark character = false ∧ Mode.free.next character = .free := by
  have others : (['[', '{', ']', '}', ',', ':', '"', '-', '.', 'e', 'E', 'n', 't', 'f'].all
      fun other => !beginsNumber (some other)) = true := by decide
  have apart : ∀ other ∈ ['[', '{', ']', '}', ',', ':', '"', '-', '.', 'e', 'E', 'n', 't', 'f'],
      character ≠ some other := by
    rintro other mem rfl
    have known := List.all_eq_true.mp others other mem
    rw [isDigit] at known
    cases known
  simp only [List.forall_mem_cons, List.not_mem_nil] at apart
  constructor
  · simp [isMark, apart]
  · simp [Mode.next, apart, isDigit]

theorem leads_spaces (input : Input) :
    Leads ⟨.free, depth⟩ input ⟨.free, depth⟩ (fromToken input) := by
  induction input with
  | nil => exact .refl _ _
  | cons character input ih =>
      unfold fromToken
      rw [List.dropWhile_cons]
      split
      · rename_i blank
        obtain ⟨plain, stays⟩ := next_of_isSpace blank
        exact (leads_free plain stays input).trans ih
      · exact .refl _ _

theorem leads_digits (input : Input) :
    Leads ⟨.free, depth⟩ input ⟨.free, depth⟩ (input.dropWhile beginsNumber) := by
  induction input with
  | nil => exact .refl _ _
  | cons character input ih =>
      rw [List.dropWhile_cons]
      split
      · rename_i isDigit
        obtain ⟨plain, stays⟩ := next_of_beginsNumber isDigit
        exact (leads_free plain stays input).trans ih
      · exact .refl _ _

theorem leads_open (isOpening : character = some '[' ∨ character = some '{') (input : Input) :
    Leads ⟨.free, depth⟩ (character :: input) ⟨.free, depth + 1⟩ input := by
  rcases isOpening with rfl | rfl
  all_goals exact .step ⟨.free, depth + 1⟩ (fun _ => rfl) (.refl _ _)

theorem leads_close (isClosing : character = some ']' ∨ character = some '}') (input : Input) :
    Leads ⟨.free, depth + 1⟩ (character :: input) ⟨.free, depth⟩ input := by
  rcases isClosing with rfl | rfl
  all_goals exact .step ⟨.free, depth⟩ (fun _ => rfl) (.refl _ _)

theorem leads_separator (separates : character = some ',' ∨ character = some ':') (input : Input) :
    Leads ⟨.free, depth + 1⟩ (character :: input) ⟨.free, depth + 1⟩ input := by
  rcases separates with rfl | rfl
  all_goals exact .step ⟨.free, depth + 1⟩ (fun _ => rfl) (.refl _ _)

theorem leads_quote (input : Input) :
    Leads ⟨.free, depth⟩ (some '"' :: input) ⟨.text, depth⟩ input :=
  leads_free rfl rfl input

end Scanner

end OrgAccess.Json
