import OrgAccess.Proofs.JsonValues

/-!
# Two readers of one text

Two readers of the same value come to the same place, or one of them is lost: it takes the inside
of the value for what follows it. A lost reader goes on deeper in the text than it knows, or with
the inside and the outside of strings swapped. Either way the whole text does not end for it where
it ends for the scanner.
-/

namespace OrgAccess.Json

namespace Scanner

variable {before middle after scanner : Scanner} {input rest : Input} {character : Option Char}

theorem lift_zero (scanner : Scanner) : scanner.lift 0 = scanner := by
  cases scanner
  simp [lift]

theorem step_broken (broken : scanner.mode = .broken) (character : Option Char) :
    (scanner.step character).mode = .broken := by
  rcases scanner with ⟨mode, depth⟩
  cases broken
  rfl

theorem scan_broken (broken : scanner.mode = .broken) (input : Input) :
    (scanner.scan input).mode = .broken := by
  induction input generalizing scanner with
  | nil => exact broken
  | cons character input ih => exact ih (step_broken broken character)

theorem fromToken_cons (character : Option Char) (input : Input) :
    fromToken (character :: input) =
      if isSpace character then fromToken input else character :: input :=
  List.dropWhile_cons

/-- After blank space comes a comma or the bracket that closes an object. -/
def EndsMember (input : Input) : Prop :=
  (fromToken input).head? = some (some ',') ∨ (fromToken input).head? = some (some '}')

theorem not_endsMember_of_cut (cut : input.head? = some none) : ¬EndsMember input := by
  rw [EndsMember, fromToken_of_cut cut, cut]
  rintro (comma | bracket)
  · cases comma
  · cases bracket

theorem not_endsMember_nil : ¬EndsMember [] := by
  rintro (comma | bracket)
  · cases comma
  · cases bracket

/-- Where nothing is open, nothing leads over the end of a member. -/
theorem leads_outermost (ends : EndsMember input)
    (leads : Leads ⟨.free, 0⟩ input after rest) :
    after = ⟨.free, 0⟩ ∧ fromToken rest = fromToken input := by
  induction input with
  | nil => exact absurd ends not_endsMember_nil
  | cons character input ih =>
      cases leads with
      | refl => exact ⟨rfl, rfl⟩
      | step middle steps later =>
          rw [EndsMember, fromToken_cons] at ends
          rw [fromToken_cons]
          split at ends
          · rename_i blank
            obtain ⟨plain, stays⟩ := next_of_isSpace blank
            have same : ⟨.free, 0⟩ = middle := by
              rw [← lift_zero middle, ← steps 0, lift_zero, step_free plain, stays]
            rw [if_pos blank]
            exact ih ends (same ▸ later)
          · -- Outermost it breaks the scanner, and with a bracket around it does not.
            have mode_eq (more : Nat) :
                (step (lift more ⟨.free, 0⟩) character).mode = middle.mode := by
              rw [steps more]
              rfl
            have outermost := mode_eq 0
            have within := mode_eq 1
            rcases ends with comma | bracket
            · cases comma
              cases outermost.trans within.symm
            · cases bracket
              cases outermost.trans within.symm

/-! ## Swapped strings -/

/-- Between strings, as far as these are told apart by their quotes. -/
def IsOutside : Mode → Prop
  | .free | .word _ | .digit | .exponent => True
  | _ => False

/-- A character that may stand outside a string. -/
def isPlain (character : Option Char) : Bool :=
  isMark character || isSpace character || beginsNumber character || isWordLetter character ||
    character.any fun letter => letter ∈ ['-', '+', '.', 'e', 'E', 'n', 't', 'f']

theorem isOutside_letters (left : Nat) : IsOutside (.letters left) := by
  cases left with
  | zero => trivial
  | succ left => trivial

/-- A bracket or a separator leaves a scanner outside, if it does not break it. -/
theorem step_mark (mark : isMark character = true) (depth : Nat) :
    (step ⟨.free, depth⟩ character).mode = .broken ∨
      (step ⟨.free, depth⟩ character).mode = .free := by
  simp only [isMark, List.mem_cons, List.not_mem_nil, or_false, decide_eq_true_eq] at mark
  cases depth with
  | zero => rcases mark with rfl | rfl | rfl | rfl | rfl | rfl <;> simp [step, inside]
  | succ depth => rcases mark with rfl | rfl | rfl | rfl | rfl | rfl <;> simp [step, inside]

theorem IsOutside.step (outside : IsOutside scanner.mode) (character : Option Char) :
    (scanner.step character).mode = .broken ∨
      character = some '"' ∧ (scanner.step character).mode = .text ∨
      isPlain character = true ∧ IsOutside (scanner.step character).mode := by
  rcases scanner with ⟨mode, depth⟩
  cases mode with
  | free =>
      cases mark : isMark character with
      | true =>
          rcases step_mark mark depth with broken | free
          · exact Or.inl broken
          · exact Or.inr (Or.inr ⟨by simp [isPlain, mark], by rw [free]; trivial⟩)
      | false =>
          rw [step_free mark]
          simp only [Mode.next]
          split
          · exact Or.inr (Or.inl ⟨by assumption, rfl⟩)
          split
          · rename_i sign
            rcases sign with rfl | rfl <;> exact Or.inr (Or.inr ⟨by decide, trivial⟩)
          split
          · rename_i letter
            rcases letter with rfl | rfl <;> exact Or.inr (Or.inr ⟨by decide, trivial⟩)
          split
          · rename_i letter
            rcases letter with rfl | rfl <;> exact Or.inr (Or.inr ⟨by decide, trivial⟩)
          split
          · rename_i letter
            rw [letter]
            exact Or.inr (Or.inr ⟨by decide, trivial⟩)
          split
          · rename_i other
            refine Or.inr (Or.inr ⟨?_, trivial⟩)
            rcases other with blank | isDigit
            · simp [isPlain, blank]
            · simp [isPlain, isDigit]
          · exact Or.inl rfl
  | word left =>
      rw [step_of_ne_free (by simp)]
      simp only [Mode.next]
      split
      · rename_i letter
        exact Or.inr (Or.inr ⟨by simp [isPlain, letter], isOutside_letters left⟩)
      · exact Or.inl rfl
  | digit =>
      rw [step_of_ne_free (by simp)]
      simp only [Mode.next]
      split
      · rename_i isDigit
        exact Or.inr (Or.inr ⟨by simp [isPlain, isDigit], trivial⟩)
      · exact Or.inl rfl
  | exponent =>
      rw [step_of_ne_free (by simp)]
      simp only [Mode.next]
      split
      · rename_i sign
        rcases sign with rfl | rfl <;> exact Or.inr (Or.inr ⟨by decide, trivial⟩)
      split
      · rename_i isDigit
        exact Or.inr (Or.inr ⟨by simp [isPlain, isDigit], trivial⟩)
      · exact Or.inl rfl
  | text => exact absurd outside id
  | escape => exact absurd outside id
  | hex left => exact absurd outside id
  | broken => exact absurd outside id

/-- What may stand outside a string neither begins nor ends one. -/
theorem step_text_of_isPlain (plain : isPlain character = true) (depth : Nat) :
    (step ⟨.text, depth⟩ character).mode = .broken ∨
      (step ⟨.text, depth⟩ character).mode = .text := by
  have notQuote : character ≠ some '"' := by
    rintro rfl
    exact absurd plain (by decide)
  have notEscape : character ≠ some '\\' := by
    rintro rfl
    exact absurd plain (by decide)
  rw [step_of_ne_free (by simp)]
  cases character with
  | none => exact Or.inr rfl
  | some letter =>
      have notEnd : letter ≠ '"' := fun same => notQuote (congrArg some same)
      have notBackslash : letter ≠ '\\' := fun same => notEscape (congrArg some same)
      simp only [Mode.next, if_neg notEnd, if_neg notBackslash]
      split
      · exact Or.inl rfl
      · exact Or.inr rfl

/-- One of two scanners is in a string and the other is not, unless one is broken. -/
def Swapped (first second : Mode) : Prop :=
  IsOutside first ∧ second = .text ∨ first = .text ∧ IsOutside second ∨ first = .broken ∨
    second = .broken

theorem Swapped.step {other : Scanner} (swapped : Swapped scanner.mode other.mode)
    (character : Option Char) :
    Swapped (scanner.step character).mode (other.step character).mode := by
  have one {outer inner : Scanner} (outside : IsOutside outer.mode) (within : inner.mode = .text) :
      (outer.step character).mode = .broken ∨ (inner.step character).mode = .broken ∨
        (outer.step character).mode = .text ∧ IsOutside (inner.step character).mode ∨
        IsOutside (outer.step character).mode ∧ (inner.step character).mode = .text := by
    rcases inner with ⟨mode, depth⟩
    cases within
    rcases outside.step character with broken | ⟨rfl, enters⟩ | ⟨plain, stays⟩
    · exact Or.inl broken
    · exact Or.inr (Or.inr (Or.inl ⟨enters, trivial⟩))
    · rcases step_text_of_isPlain plain depth with broken | within
      · exact Or.inr (Or.inl broken)
      · exact Or.inr (Or.inr (Or.inr ⟨stays, within⟩))
  rcases swapped with ⟨outside, within⟩ | ⟨within, outside⟩ | broken | broken
  · rcases one outside within with broken | broken | ⟨enters, leaves⟩ | stays
    · exact Or.inr (Or.inr (Or.inl broken))
    · exact Or.inr (Or.inr (Or.inr broken))
    · exact Or.inr (Or.inl ⟨enters, leaves⟩)
    · exact Or.inl stays
  · rcases one outside within with broken | broken | ⟨enters, leaves⟩ | ⟨stays, remains⟩
    · exact Or.inr (Or.inr (Or.inr broken))
    · exact Or.inr (Or.inr (Or.inl broken))
    · exact Or.inl ⟨leaves, enters⟩
    · exact Or.inr (Or.inl ⟨remains, stays⟩)
  · exact Or.inr (Or.inr (Or.inl (step_broken broken character)))
  · exact Or.inr (Or.inr (Or.inr (step_broken broken character)))

theorem Swapped.scan {other : Scanner} (swapped : Swapped before.mode other.mode)
    (leads : Leads before input after rest) :
    ∃ last : Scanner, other.scan input = last.scan rest ∧ Swapped after.mode last.mode := by
  induction leads generalizing other with
  | refl => exact ⟨other, rfl, swapped⟩
  | step middle steps later ih =>
      rename_i before _ character _ _
      have first : before.step character = middle := by
        simpa only [lift_zero] using steps 0
      exact ih (first ▸ swapped.step character)

theorem IsOutside.scan_cons (outside : IsOutside scanner.mode) (notQuote : character ≠ some '"')
    (input : Input) :
    (scanner.scan (character :: input)).mode = .broken ∨
      isPlain character = true ∧ IsOutside (scanner.step character).mode := by
  rcases outside.step character with broken | ⟨quote, _⟩ | stays
  · exact Or.inl (scan_broken broken input)
  · exact absurd quote notQuote
  · exact Or.inr stays

/-- A string that is read where the scanner is outside is made of what may stand there. -/
theorem isPlain_of_textStep {letters : List Char} {isWhole : Bool} {text : String}
    (read : textStep letters isWhole input = (.ok text, rest)) (outside : IsOutside scanner.mode) :
    (scanner.scan input).mode = .broken ∨
      ∀ character ∈ text.toList, character ∈ letters ∨ isPlain (some character) = true := by
  fun_induction textStep letters isWhole input generalizing scanner with
  | case1 => cases read
  | case2 letters isWhole rest ih =>
      have notEnd : (none : Option Char) ≠ some '"' := by simp
      rcases outside.scan_cons notEnd rest with broken | ⟨plain, stays⟩
      · exact Or.inl broken
      · exact ih read stays
  | case3 letters isWhole rest =>
      split at read
      · cases read
        refine Or.inr fun character mem => Or.inl ?_
        simpa using mem
      · cases read
  | case4 letters isWhole rest escaped after found notQuote ih =>
      have notEnd : some '\\' ≠ some '"' := by simp
      rcases outside.scan_cons notEnd rest with broken | ⟨plain, _⟩
      · exact Or.inl broken
      · exact absurd plain (by decide)
  | case5 => cases read
  | case6 => cases read
  | case7 letters isWhole letter rest notQuote notEscape control ih =>
      have notEnd : some letter ≠ some '"' := by simpa using notQuote
      rcases outside.scan_cons notEnd rest with broken | ⟨plain, stays⟩
      · exact Or.inl broken
      · refine (ih read stays).imp id fun known character mem => ?_
        rcases known character mem with mem | isPlain
        · rcases List.mem_cons.mp mem with rfl | mem
          · exact Or.inr plain
          · exact Or.inl mem
        · exact Or.inr isPlain

/-! ## Lost readers -/

/-- A reader of members is lost before the end of a member if the scanner is deeper or in a token. -/
def IsLost (scanner : Scanner) : Prop :=
  scanner.mode = .free → 2 ≤ scanner.depth

/-- Nothing but a string goes on with blank space, a comma or a closing bracket. -/
theorem next_of_within {mode : Mode} (notFree : mode ≠ .free) (notText : mode ≠ .text)
    (between : isSpace character = true ∨ character = some ',' ∨ character = some '}') :
    mode.next character = .broken := by
  have cases_of : character ∈ [some ' ', some '\n', some '\t', some '\r', some ',', some '}'] := by
    simp only [isSpace, Bool.or_eq_true, beq_iff_eq] at between
    simp only [List.mem_cons, List.not_mem_nil, or_false]
    tauto
  simp only [List.mem_cons, List.not_mem_nil, or_false] at cases_of
  cases mode with
  | free => exact absurd rfl notFree
  | text => exact absurd rfl notText
  | broken => rfl
  | escape => rcases cases_of with rfl | rfl | rfl | rfl | rfl | rfl <;> rfl
  | hex left => rcases cases_of with rfl | rfl | rfl | rfl | rfl | rfl <;> rfl
  | word left => rcases cases_of with rfl | rfl | rfl | rfl | rfl | rfl <;> rfl
  | digit => rcases cases_of with rfl | rfl | rfl | rfl | rfl | rfl <;> rfl
  | exponent => rcases cases_of with rfl | rfl | rfl | rfl | rfl | rfl <;> rfl

/-- A lost scanner before the end of a member is deeper, in a string, or breaks. -/
theorem IsLost.cases (lost : IsLost scanner) (ends : EndsMember input) :
    (scanner.mode = .free ∧ 2 ≤ scanner.depth) ∨ scanner.mode = .text ∨
      (scanner.scan input).mode = .broken := by
  by_cases free : scanner.mode = .free
  · exact Or.inl ⟨free, lost free⟩
  by_cases within : scanner.mode = .text
  · exact Or.inr (Or.inl within)
  refine Or.inr (Or.inr ?_)
  cases input with
  | nil => exact absurd ends not_endsMember_nil
  | cons character input =>
      have between : isSpace character = true ∨ character = some ',' ∨ character = some '}' := by
        rw [EndsMember, fromToken_cons] at ends
        split at ends
        · exact Or.inl (by assumption)
        · simpa using Or.inr ends
      rcases scanner with ⟨mode, depth⟩
      refine scan_broken ?_ input
      rw [step_of_ne_free free]
      exact next_of_within free within between

/--
After the same value one reader is at its end and the other may have strayed: they are at the same
place, or the other is lost, if both go on with the end of a member.
-/
theorem aligned_or_lost {rest' : Input} {final : Scanner}
    (leads : Leads ⟨.free, 0⟩ input ⟨.free, 0⟩ rest) (strays : Strays 0 ⟨.free, 0⟩ input rest')
    (ends : EndsMember rest) (ends' : EndsMember rest')
    (scans : scan ⟨.free, 1⟩ rest = final) :
    fromToken rest' = fromToken rest ∨ ∃ scanner, IsLost scanner ∧ scanner.scan rest' = final := by
  rcases strays with cut | ⟨after, strayed, _⟩
  · exact absurd ends' (not_endsMember_of_cut cut)
  rcases leads.linear strayed with later | later
  · exact Or.inl (leads_outermost ends later).2
  by_cases same : after = ⟨.free, 0⟩
  · rw [same] at later
    exact Or.inl (leads_outermost ends' later).2.symm
  refine Or.inr ⟨after.lift 1, fun free => ?_, (later.scan_eq 1).trans scans⟩
  have deeper : after.depth ≠ 0 := fun zero => same (by
    rcases after with ⟨mode, depth⟩
    cases free
    cases zero
    rfl)
  simp only [lift]
  omega

end Scanner

end OrgAccess.Json
