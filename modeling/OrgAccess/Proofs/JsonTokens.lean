import OrgAccess.Json.Skipper
import OrgAccess.Proofs.JsonScanning

/-!
# Tokens on a scanner's way

A step that takes characters of one token leads a scanner over them, wherever the step stops. The
only step that leaves the way is one that takes a few bytes of a longer character.
-/

namespace OrgAccess.Json

namespace Scanner

variable {input between rest : Input} {character : Option Char} {mode : Mode} {depth : Nat}

/-! ## Steps within a token -/

/--
A step that takes characters of one token: it comes to the end of a part of the token, or it stops
at another place of it, unless it cuts a character in two.
-/
def Crosses {α : Type} (before after : Mode) (input : Input) :
    Except Malformation α × Input → Prop
  | (.ok _, rest) => ∀ depth, Leads ⟨before, depth⟩ input ⟨after, depth⟩ rest
  | (.error _, rest) =>
    rest.head? = some none ∨ ∃ mode, ∀ depth, Leads ⟨before, depth⟩ input ⟨mode, depth⟩ rest

variable {α : Type} {first last : Mode} {result : Except Malformation α × Input}
  {malformation : Malformation}

theorem Leads.crosses (leads : ∀ depth, Leads ⟨first, depth⟩ input ⟨mode, depth⟩ between)
    (crosses : Crosses mode last between result) : Crosses first last input result := by
  rcases result with ⟨malformation | value, rest⟩
  · rcases crosses with cut | ⟨stop, later⟩
    · exact Or.inl cut
    · exact Or.inr ⟨stop, fun depth => (leads depth).trans (later depth)⟩
  · exact fun depth => (leads depth).trans (crosses depth)

theorem crosses_ok {value : α} (leads : ∀ depth, Leads ⟨first, depth⟩ input ⟨last, depth⟩ rest) :
    Crosses first last input (.ok value, rest) :=
  leads

/-- A step that stops where it is. -/
theorem crosses_stop (mode last : Mode) (input : Input) (malformation : Malformation) :
    Crosses mode last input ((.error malformation, input) : Except Malformation α × Input) :=
  Or.inr ⟨mode, fun _ => .refl _ _⟩

theorem leads_broken (taken rest : Input) :
    Leads ⟨.broken, depth⟩ (taken ++ rest) ⟨.broken, depth⟩ rest := by
  induction taken with
  | nil => exact .refl _ _
  | cons character taken ih => exact (leads_next (by decide) character _).trans ih

theorem byteSize_pos (character : Option Char) : 0 < byteSize character := by
  cases character with
  | none => exact Nat.one_pos
  | some character => exact character.utf8Size_pos

/-- Characters are dropped whole unless one of them is cut in two. -/
theorem dropBytes_cases (count : Nat) (input : Input) :
    (dropBytes count input).head? = some none ∨
      ∃ taken, input = taken ++ dropBytes count input ∧ taken.length ≤ count := by
  induction input generalizing count with
  | nil => exact Or.inr ⟨[], rfl, Nat.zero_le _⟩
  | cons character input ih =>
      rw [dropBytes]
      split
      · exact Or.inr ⟨[], rfl, Nat.zero_le _⟩
      split
      · rename_i fits
        rcases ih (count - byteSize character) with cut | ⟨taken, same, short⟩
        · exact Or.inl cut
        · have positive := byteSize_pos character
          refine Or.inr ⟨character :: taken, congrArg _ same, ?_⟩
          rw [List.length_cons]
          omega
      · exact Or.inl rfl

theorem le_bytesAhead (count : Nat) (input : Input) :
    min count input.length ≤ bytesAhead count input := by
  induction input generalizing count with
  | nil => simp
  | cons character input ih =>
      cases count with
      | zero => simp
      | succ count =>
          have positive := byteSize_pos character
          have rest := ih count
          rw [bytesAhead, List.length_cons]
          omega

theorem leads_hexDigit {left : Nat} (isDigit : (character.bind Text.hexValue?).isSome = true)
    (input : Input) :
    Leads ⟨.hex left, depth⟩ (character :: input) ⟨.hexDigits left, depth⟩ input := by
  have next : Mode.next (.hex left) character = .hexDigits left := if_pos isDigit
  exact leads_into (by simp) next input

/-- No more characters than the digits of an escape do not end the string. -/
theorem leads_escapeDigits (taken rest : Input) {left : Nat} (short : taken.length ≤ left) :
    ∃ mode, ∀ depth, Leads ⟨.hexDigits left, depth⟩ (taken ++ rest) ⟨mode, depth⟩ rest := by
  induction taken generalizing left with
  | nil => exact ⟨_, fun _ => .refl _ _⟩
  | cons character taken ih =>
      cases left with
      | zero => cases short
      | succ left =>
          by_cases isDigit : (character.bind Text.hexValue?).isSome = true
          · rcases ih (Nat.le_of_succ_le_succ short) with ⟨mode, later⟩
            exact ⟨mode, fun depth => (leads_hexDigit isDigit _).trans (later depth)⟩
          · have next : Mode.next (.hex left) character = .broken := if_neg isDigit
            exact ⟨.broken, fun _ =>
              (leads_into (by simp) next _).trans (leads_broken taken rest)⟩

theorem leads_readHex {digits : List Char} {value soFar : Nat}
    (read : Text.readHex? digits soFar = some value) (rest : Input) :
    Leads ⟨.hexDigits digits.length, depth⟩ (digits.map some ++ rest) ⟨.text, depth⟩ rest := by
  induction digits generalizing soFar with
  | nil => exact .refl _ _
  | cons digit digits ih =>
      rw [Text.readHex?] at read
      split at read
      · rename_i found
        have isDigit : ((some digit).bind Text.hexValue?).isSome = true := by simp [found]
        exact (leads_hexDigit isDigit _).trans (ih read)
      · cases read

theorem crosses_hexStep (input : Input) : Crosses (.hexDigits 4) .text input (hexStep input) := by
  unfold hexStep
  split
  · rename_i value rest found
    unfold hex? at found
    split at found
    · split at found
      · rename_i read
        cases found
        exact fun depth => leads_readHex read _
      · cases found
    · cases found
  split
  · rename_i short
    have bound := le_bytesAhead 4 input
    have leads := leads_escapeDigits input [] (show input.length ≤ 4 by omega)
    rw [List.append_nil] at leads
    exact Or.inr leads
  · rcases dropBytes_cases 4 input with cut | ⟨taken, same, short⟩
    · exact Or.inl cut
    · have leads := leads_escapeDigits taken (dropBytes 4 input) short
      rw [← same] at leads
      exact Or.inr leads

theorem dropBytes_one (character : Option Char) (input : Input) :
    (dropBytes 1 (character :: input)).head? = some none ∨
      dropBytes 1 (character :: input) = input := by
  have positive := byteSize_pos character
  rw [dropBytes, if_neg Nat.one_ne_zero]
  split
  · rename_i fits
    have none_left : 1 - byteSize character = 0 := by omega
    rw [none_left]
    cases input with
    | nil => exact Or.inr rfl
    | cons next input => exact Or.inr (if_pos rfl)
  · exact Or.inl rfl

/-- One more character of a token may be dropped before a step stops. -/
theorem crosses_drop (inside : mode ≠ .free) (last : Mode) (input : Input)
    (malformation : Malformation) :
    Crosses mode last input ((.error malformation, dropBytes 1 input) : Except Malformation α × Input) := by
  cases input with
  | nil => exact crosses_stop _ _ _ _
  | cons character input =>
      rcases dropBytes_one character input with cut | same
      · exact Or.inl cut
      · rw [same]
        exact Or.inr ⟨_, fun _ => leads_next inside character input⟩

theorem crosses_unicodeStep (input : Input) :
    Crosses (.hexDigits 4) .text input (unicodeStep input) := by
  have digits := crosses_hexStep input
  unfold unicodeStep
  split
  · rename_i malformation rest read
    rw [read] at digits
    exact digits
  · rename_i unit rest read
    rw [read] at digits
    have escape (input : Input) (depth : Nat) :
        Leads ⟨.text, depth⟩ (some '\\' :: input) ⟨.escape, depth⟩ input := leads_next (by simp) _ _
    split
    · exact Leads.crosses digits (crosses_stop _ _ _ _)
    split
    · refine Leads.crosses digits ?_
      split
      · exact crosses_stop _ _ _ _
      · exact Or.inr ⟨.escape, escape []⟩
      · rename_i rest
        have second := crosses_hexStep rest
        refine Leads.crosses (escape _) (Leads.crosses (fun _ => leads_next (by simp) _ _) ?_)
        split
        · rename_i malformation last read
          rw [read] at second
          exact second
        · rename_i other last read
          rw [read] at second
          split
          · exact crosses_ok second
          · exact Leads.crosses second (crosses_stop _ _ _ _)
      · exact Leads.crosses (escape _) (crosses_drop (by simp) _ _ _)
      · exact crosses_drop (by simp) _ _ _
    · exact crosses_ok digits

theorem crosses_escapeStep (input : Input) : Crosses .escape .text input (escapeStep input) := by
  unfold escapeStep
  split
  · exact crosses_stop _ _ _ _
  · exact Leads.crosses (fun _ => leads_next (by simp) _ _) (crosses_unicodeStep _)
  · rename_i letter rest notUnicode
    split
    · rename_i character short
      have next : Mode.next .escape (some letter) = .text := by
        have differs : letter ≠ 'u' := notUnicode
        simp [Mode.next, differs, short]
      exact crosses_ok fun _ => leads_into (by simp) next _
    · exact crosses_drop (by simp) _ _ _
  · exact Or.inr ⟨_, fun _ => leads_next (by simp) _ _⟩

theorem crosses_textStep (read : List Char) (isWhole : Bool) (input : Input) :
    Crosses .text .free input (textStep read isWhole input) := by
  fun_induction textStep read isWhole input with
  | case1 => exact crosses_stop _ _ _ _
  | case2 read isWhole rest ih => exact Leads.crosses (fun _ => leads_next (by simp) _ _) ih
  | case3 read isWhole rest =>
      have ends (depth : Nat) : Leads ⟨.text, depth⟩ (some '"' :: rest) ⟨.free, depth⟩ rest :=
        leads_next (by simp) _ _
      split
      · exact crosses_ok ends
      · exact Leads.crosses ends (crosses_stop _ _ _ _)
  | case4 read isWhole rest escaped after found notQuote ih =>
      have escape := crosses_escapeStep rest
      rw [found] at escape
      exact Leads.crosses (fun depth => (leads_into (by simp) rfl _).trans (escape depth)) ih
  | case5 read isWhole rest malformation after found notQuote =>
      have escape := crosses_escapeStep rest
      rw [found] at escape
      exact Leads.crosses (fun _ => leads_into (by simp) rfl _) escape
  | case6 read isWhole character rest notQuote notEscape control =>
      exact Leads.crosses (fun _ => leads_next (by simp) _ _) (crosses_stop _ _ _ _)
  | case7 read isWhole character rest notQuote notEscape control ih =>
      have next : Mode.next .text (some character) = .text := by
        simp [Mode.next, notQuote, notEscape, control]
      exact Leads.crosses (fun _ => leads_into (by simp) next _) ih

theorem crosses_wordStep (letters : List Char)
    (areLetters : ∀ letter ∈ letters, isWordLetter (some letter) = true) (input : Input) :
    Crosses (.letters letters.length) .free input (wordStep letters input) := by
  induction letters generalizing input with
  | nil => exact crosses_ok fun _ => .refl _ _
  | cons letter letters ih =>
      cases input with
      | nil => exact crosses_stop _ _ _ _
      | cons character rest =>
          rw [wordStep]
          split
          · rename_i same
            have next : Mode.next (.word letters.length) character = .letters letters.length :=
              if_pos (same ▸ areLetters letter List.mem_cons_self)
            have others := fun other mem => areLetters other (List.mem_cons_of_mem _ mem)
            exact Leads.crosses (fun _ => leads_into (by simp) next _) (ih others rest)
          · exact crosses_drop (by simp [Mode.letters]) _ _ _

/-! ## Numbers -/

/-- After any digit, a scanner of this mode is free. -/
def TakesDigit (mode : Mode) : Prop :=
  ∀ character input depth, beginsNumber character = true →
    Leads ⟨mode, depth⟩ (character :: input) ⟨.free, depth⟩ input

theorem takesDigit_free : TakesDigit .free := by
  intro character input depth isDigit
  obtain ⟨plain, stays⟩ := next_of_beginsNumber isDigit
  exact leads_free plain stays input

theorem takesDigit_digit : TakesDigit .digit := by
  intro character input depth isDigit
  have next : Mode.next .digit character = .free := if_pos isDigit
  exact leads_into (by simp) next input

theorem takesDigit_exponent : TakesDigit .exponent := by
  intro character input depth isDigit
  have unsigned : ¬(character = some '+' ∨ character = some '-') := by
    rintro (rfl | rfl)
    · cases isDigit
    · cases isDigit
  have next : Mode.next .exponent character = .free := (if_neg unsigned).trans (if_pos isDigit)
  exact leads_into (by simp) next input

theorem takeDigits_cases (input : Input) :
    (takeDigits input = ([], input) ∧ input.head?.any beginsNumber = false) ∨
      ∃ first tail, input = first :: tail ∧ beginsNumber first = true ∧
        (takeDigits input).1 ≠ [] ∧ (takeDigits input).2 = tail.dropWhile beginsNumber := by
  cases input with
  | nil => exact Or.inl ⟨rfl, rfl⟩
  | cons first tail =>
      by_cases isDigit : beginsNumber first = true
      · refine Or.inr ⟨first, tail, rfl, isDigit, ?_, List.dropWhile_cons_of_pos isDigit⟩
        cases first with
        | none => cases isDigit
        | some digit =>
            have known : (some digit).any Text.isDigit = true := isDigit
            simp [takeDigits, known]
      · refine Or.inl ⟨?_, Bool.eq_false_iff.mpr isDigit⟩
        have unknown : ¬first.any Text.isDigit = true := isDigit
        simp [takeDigits, unknown]

theorem eq_of_takeDigits_nil (none : takeDigits input = ([], rest)) : rest = input := by
  rcases takeDigits_cases input with ⟨same, _⟩ | ⟨_, _, _, _, some, _⟩
  · cases none.symm.trans same
    rfl
  · exact absurd (congrArg Prod.fst none) some

/-- At least one digit was taken. -/
theorem TakesDigit.leads_takeDigits (takes : TakesDigit mode)
    (found : (takeDigits input).1 ≠ []) (depth : Nat) :
    Leads ⟨mode, depth⟩ input ⟨.free, depth⟩ (takeDigits input).2 := by
  rcases takeDigits_cases input with ⟨empty, _⟩ | ⟨first, tail, rfl, isDigit, _, rest⟩
  · rw [empty] at found
    exact absurd rfl found
  · rw [rest]
    exact (takes first tail depth isDigit).trans (leads_digits tail)

theorem TakesDigit.leads_of_takeDigits (takes : TakesDigit mode) {first : Char}
    {others : List Char} (found : takeDigits input = (first :: others, rest)) (depth : Nat) :
    Leads ⟨mode, depth⟩ input ⟨.free, depth⟩ rest := by
  have some : (takeDigits input).1 ≠ [] := by simp [found]
  simpa [found] using takes.leads_takeDigits some depth

/-- A step that takes nothing. -/
theorem crosses_here (mode : Mode) (input : Input) (result : Except Malformation α) :
    Crosses mode mode input (result, input) := by
  cases result with
  | error malformation => exact crosses_stop _ _ _ _
  | ok value => exact crosses_ok fun _ => .refl _ _

/-- A scanner may go on without a number, or a digit comes next. -/
def IsReady (mode : Mode) (input : Input) : Prop :=
  mode = .free ∨ input.head?.any beginsNumber = true

theorem TakesDigit.leads_exponentValue (takes : TakesDigit mode) (ready : IsReady mode input)
    (value depth : Nat) :
    (∀ size rest, exponentValue value input = (.ok size, rest) →
      Leads ⟨mode, depth⟩ input ⟨.free, depth⟩ rest) ∧
    ∀ unread rest, exponentValue value input = (.error unread, rest) →
      Leads ⟨mode, depth⟩ input ⟨.free, depth⟩ unread ∧
        Leads ⟨mode, depth⟩ input ⟨.free, depth⟩ rest := by
  induction input generalizing mode value with
  | nil =>
      rcases ready with rfl | none
      · refine ⟨fun size rest result => ?_, fun unread rest result => ?_⟩
        · cases result
          exact .refl _ _
        · cases result
      · cases none
  | cons character input ih =>
      rw [exponentValue]
      split
      · rename_i digit found
        have isDigit : beginsNumber character = true := by
          rcases Option.filter_eq_some_iff.mp found with ⟨rfl, known⟩
          exact known
        have first (input : Input) := takes character input depth isDigit
        dsimp only
        split
        · refine ⟨fun size rest result => ?_, fun unread rest result => ?_⟩
          · cases result
          · cases result
            exact ⟨first _, (first _).trans (leads_digits input)⟩
        · have later := ih takesDigit_free (Or.inl rfl) (10 * value + Text.digitValue digit)
          refine ⟨fun size rest result => (first _).trans (later.1 size rest result), ?_⟩
          intro unread rest result
          rcases later.2 unread rest result with ⟨toUnread, toRest⟩
          exact ⟨(first _).trans toUnread, (first _).trans toRest⟩
      · rename_i unknown
        rcases ready with rfl | isDigit
        · refine ⟨fun size rest result => ?_, fun unread rest result => ?_⟩
          · cases result
            exact .refl _ _
          · cases result
        · cases character with
          | none => cases isDigit
          | some digit =>
              have known : Text.isDigit digit = true := isDigit
              rw [Option.filter_some, if_pos known] at unknown
              cases unknown

theorem crosses_exponentStep (isNegative : Bool) (significand : Nat) (exponent : Int)
    (input : Input) :
    Crosses .exponent .free input (exponentStep isNegative significand exponent input) := by
  unfold exponentStep
  split
  rename_i isPositive digits signed
  have sign : ∃ mode, mode ≠ .free ∧ TakesDigit mode ∧
      ∀ depth, Leads ⟨.exponent, depth⟩ input ⟨mode, depth⟩ digits := by
    split at signed
    · cases signed
      exact ⟨.digit, by simp, takesDigit_digit, fun _ => leads_into (by simp) rfl _⟩
    · cases signed
      exact ⟨.digit, by simp, takesDigit_digit, fun _ => leads_into (by simp) rfl _⟩
    · cases signed
      exact ⟨.exponent, by simp, takesDigit_exponent, fun _ => .refl _ _⟩
  rcases sign with ⟨mode, inside, takes, leads⟩
  refine Leads.crosses leads ?_
  split
  · exact crosses_stop _ _ _ _
  rename_i character rest
  split
  · rename_i isDigit
    have ready : IsReady mode (character :: rest) := Or.inr isDigit
    have value := takes.leads_exponentValue ready 0
    split
    · rename_i size last found
      exact Leads.crosses (fun depth => (value depth).1 size last found) (crosses_here _ _ _)
    · rename_i unread last found
      split
      · exact Leads.crosses (fun depth => ((value depth).2 unread last found).1) (crosses_stop _ _ _ _)
      · exact crosses_ok fun depth => ((value depth).2 unread last found).2
  · exact crosses_drop inside _ _ _

theorem crosses_afterDigits (isNegative : Bool) (significand : Nat) (exponent : Int)
    (input : Input) :
    Crosses .free .free input (afterDigits isNegative significand exponent input) := by
  unfold afterDigits
  split
  · exact Leads.crosses (fun _ => leads_free rfl rfl _) (crosses_exponentStep _ _ _ _)
  · exact Leads.crosses (fun _ => leads_free rfl rfl _) (crosses_exponentStep _ _ _ _)
  · exact crosses_here _ _ _

theorem crosses_fractionStep (isNegative : Bool) (significand : Nat) (exponent : Int)
    (input : Input) :
    Crosses .digit .free input (fractionStep isNegative significand exponent input) := by
  unfold fractionStep
  split
  rename_i digits rest found
  split
  · cases eq_of_takeDigits_nil found
    split
    · exact crosses_stop _ _ _ _
    · exact crosses_stop _ _ _ _
  · rename_i some
    have leads := takesDigit_digit.leads_takeDigits (by rwa [found])
    rw [found] at leads
    exact Leads.crosses leads (crosses_afterDigits _ _ _ _)

theorem TakesDigit.crosses_numberStep (takes : TakesDigit mode)
    (begins : mode ≠ .free ∨ input.head?.any beginsNumber = true) (isNegative : Bool) :
    Crosses mode .free input (numberStep isNegative input) := by
  unfold numberStep
  rcases takeDigits_cases input with ⟨empty, notDigit⟩ | ⟨first, tail, rfl, isDigit, taken, _⟩
  · have inside : mode ≠ .free := by
      rcases begins with inside | isDigit
      · exact inside
      · rw [notDigit] at isDigit
        cases isDigit
    rw [empty]
    dsimp only
    split
    · exact crosses_stop _ _ _ _
    · exact crosses_drop inside _ _ _
  · have leads := takes.leads_takeDigits taken
    split
    rename_i digits rest found
    rw [found] at taken leads
    split
    · exact absurd rfl taken
    · exact Or.inr ⟨.free, fun depth => takes first tail depth isDigit⟩
    · refine Leads.crosses leads ?_
      dsimp only
      split
      · exact Leads.crosses (fun _ => leads_free rfl rfl _) (crosses_fractionStep _ _ _ _)
      · exact crosses_afterDigits _ _ _ _
      · exact crosses_afterDigits _ _ _ _
      · split
        · exact crosses_here _ _ _
        split
        · exact crosses_here _ _ _
        split
        · exact crosses_here _ _ _
        · exact crosses_here _ _ _

/-! ## Skipping -/

theorem crosses_skipText (input : Input) : Crosses .text .free input (skipText input) := by
  have escape (input : Input) (depth : Nat) :
      Leads ⟨.text, depth⟩ (some '\\' :: input) ⟨.escape, depth⟩ input :=
    leads_into (by simp) rfl input
  have opened (input : Input) (depth : Nat) :
      Leads ⟨.text, depth⟩ (some '\\' :: some 'u' :: input) ⟨.hex 3, depth⟩ input :=
    (escape _ _).trans (leads_into (by simp) rfl input)
  fun_induction skipText input with
  | case1 => exact crosses_stop _ _ _ _
  | case2 => exact Or.inr ⟨.escape, escape []⟩
  | case3 a b c d rest areDigits ih =>
      simp only [List.all_cons, List.all_nil, Bool.and_eq_true] at areDigits
      rcases areDigits with ⟨first, second, third, fourth, _⟩
      have digit {left : Nat} {letter : Char} (isDigit : (Text.hexValue? letter).isSome = true)
          (input : Input) (depth : Nat) :
          Leads ⟨.hex left, depth⟩ (some letter :: input) ⟨.hexDigits left, depth⟩ input := by
        have known : ((some letter).bind Text.hexValue?).isSome = true := isDigit
        exact leads_hexDigit known input
      have digits (depth : Nat) : Leads ⟨.hex 3, depth⟩
          (some a :: some b :: some c :: some d :: rest) ⟨.text, depth⟩ rest :=
        (digit first _ _).trans ((digit second _ _).trans
          ((digit third _ _).trans (digit fourth _ _)))
      exact Leads.crosses (opened _) (Leads.crosses digits ih)
  | case4 a b c d rest areDigits =>
      have leads := leads_escapeDigits [some a, some b, some c, some d] rest
        (show List.length _ ≤ 4 from Nat.le_refl 4)
      exact Leads.crosses (opened _) (Or.inr leads)
  | case5 rest notFour =>
      have none : hex? rest = none := by
        unfold hex?
        split
        · exact absurd rfl (notFour _ _ _ _ _)
        · rfl
      have digits := crosses_hexStep rest
      rcases result : hexStep rest with ⟨malformation | unit, last⟩
      · rw [result] at digits
        exact Leads.crosses (opened _) digits
      · rw [hexStep, none] at result
        dsimp only at result
        split at result
        · cases result
        · cases result
  | case6 letter rest _ notUnicode isShort ih =>
      have next : Mode.next .escape letter = .text := (if_neg notUnicode).trans (if_pos isShort)
      exact Leads.crosses (fun depth => (escape _ depth).trans (leads_into (by simp) next _)) ih
  | case7 letter rest _ notUnicode isShort =>
      exact Or.inr ⟨_, fun depth => (escape _ depth).trans (leads_next (by simp) letter rest)⟩
  | case8 rest => exact crosses_ok fun _ => leads_into (by simp) rfl _
  | case9 character rest => exact Or.inr ⟨_, fun _ => leads_next (by simp) character rest⟩
  | case10 character rest notLast _ _ notEscape notQuote printed ih =>
      have next : Mode.next .text character = .text := by
        cases character with
        | none => rfl
        | some letter =>
            have notBackslash : letter ≠ '\\' := by
              rintro rfl
              cases rest with
              | nil => exact notLast rfl rfl
              | cons other rest => exact notEscape other rest rfl rfl
            have notEnd : letter ≠ '"' := fun same => notQuote (congrArg some same)
            have notControl : ¬letter.toNat < 0x20 := by simpa using printed
            simp only [Mode.next, if_neg notEnd, if_neg notBackslash, if_neg notControl]
      exact Leads.crosses (fun _ => leads_into (by simp) next _) ih

theorem crosses_next (inside : mode ≠ .free) (last : Mode) (input : Input)
    (malformation : Malformation) :
    Crosses mode last input
      ((.error malformation, input.drop 1) : Except Malformation α × Input) := by
  cases input with
  | nil => exact crosses_stop _ _ _ _
  | cons character input => exact Or.inr ⟨_, fun _ => leads_next inside character input⟩

theorem crosses_skipExponent_letter (input : Input) :
    Crosses .exponent .free input (skipExponent (some 'e' :: input)) := by
  have none {mode : Mode} (inside : mode ≠ .free) {input rest : Input}
      (none : takeDigits input = ([], rest)) :
      Crosses mode .free input ((.error .invalidNumber, rest.drop 1) :
        Except Malformation Unit × Input) := by
    cases eq_of_takeDigits_nil none
    exact crosses_next inside _ _ _
  have sign {character : Char} (isSign : character = '+' ∨ character = '-') (input : Input)
      (depth : Nat) : Leads ⟨.exponent, depth⟩ (some character :: input) ⟨.digit, depth⟩ input := by
    rcases isSign with rfl | rfl
    · exact leads_into (by simp) rfl input
    · exact leads_into (by simp) rfl input
  simp only [skipExponent]
  split
  · rename_i found
    split at found
    · exact Leads.crosses (sign (Or.inl rfl) _) (none (by simp) found)
    · exact Leads.crosses (sign (Or.inr rfl) _) (none (by simp) found)
    · exact none (by simp) found
  · rename_i found
    split at found
    · exact crosses_ok fun depth => (sign (Or.inl rfl) _ depth).trans
        (takesDigit_digit.leads_of_takeDigits found depth)
    · exact crosses_ok fun depth => (sign (Or.inr rfl) _ depth).trans
        (takesDigit_digit.leads_of_takeDigits found depth)
    · exact crosses_ok (takesDigit_exponent.leads_of_takeDigits found)

theorem crosses_skipExponent (input : Input) :
    Crosses .free .free input (skipExponent input) := by
  unfold skipExponent
  split
  · exact Leads.crosses (fun _ => leads_free rfl rfl _) (crosses_skipExponent_letter _)
  · exact Leads.crosses (fun _ => leads_free rfl rfl _) (crosses_skipExponent_letter _)
  · exact crosses_here _ _ _

theorem TakesDigit.crosses_skipNumber (takes : TakesDigit mode)
    (begins : mode ≠ .free ∨ input.head?.any beginsNumber = true) :
    Crosses mode .free input (skipNumber input) := by
  unfold skipNumber
  rcases takeDigits_cases input with ⟨empty, notDigit⟩ | ⟨first, tail, rfl, isDigit, taken, _⟩
  · have inside : mode ≠ .free := by
      rcases begins with inside | isDigit
      · exact inside
      · rw [notDigit] at isDigit
        cases isDigit
    rw [empty]
    exact crosses_next inside _ _ _
  · split
    · rename_i found
      exact absurd (congrArg Prod.fst found) taken
    · exact Or.inr ⟨.free, fun depth => takes first tail depth isDigit⟩
    · rename_i found
      refine Leads.crosses (takes.leads_of_takeDigits found) ?_
      have point (input : Input) (depth : Nat) :
          Leads ⟨.free, depth⟩ (some '.' :: input) ⟨.digit, depth⟩ input := leads_free rfl rfl input
      refine Leads.crosses (point _) ?_
      split
      · rename_i none
        cases eq_of_takeDigits_nil none
        exact crosses_stop _ _ _ _
      · rename_i found
        exact Leads.crosses (takesDigit_digit.leads_of_takeDigits found) (crosses_skipExponent _)
    · rename_i found
      exact Leads.crosses (takes.leads_of_takeDigits found) (crosses_skipExponent _)

end Scanner

end OrgAccess.Json
