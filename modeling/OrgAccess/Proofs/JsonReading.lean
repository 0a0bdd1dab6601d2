import Mathlib.Data.List.Basic
import OrgAccess.Json.Decoder
import OrgAccess.Json.Value
import OrgAccess.Proofs.TextPieces

/-!
# Reading JSON that was written here

A record that was written as compact JSON is read back as the same record. `Reader.Reads` says that
a reader takes a value from the front of an input, and `Reader.Takes` that it takes it from a
written text, whatever comes after the text in an object. Readers are followed step by step: strings
with their escapes, whole numbers of 64 bits, and the members of an object, of which a record knows
some and skips the others (`Record.Fills`).
-/

namespace OrgAccess.Json

variable {α β : Type}

namespace Reader

/-- On this input a reader gives this value and leaves this rest. -/
def Reads (reader : Reader α) (input : Input) (value : α) (rest : Input) : Prop :=
  reader.run.run input = (.ok value, rest)

variable {reader : Reader α} {input middle rest : Input} {value : α}

/-! ## Rules -/

theorem reads_pure (value : α) (input : Input) : Reads (pure value) input value input :=
  rfl

theorem reads_pure_of_eq {result : α} (same : result = value) (input : Input) :
    Reads (pure result) input value input :=
  same ▸ reads_pure result input

theorem Reads.bind {next : α → Reader β} {result : β} (first : reader.Reads input value middle)
    (second : (next value).Reads middle result rest) :
    (reader >>= next).Reads input result rest := by
  rw [Reads, ExceptT.run_bind, StateT.run_bind, show reader.run.run input = _ from first]
  exact second

theorem reads_get (input : Input) : Reads get input input input :=
  rfl

theorem reads_ofStep {step : Input → Except Malformation α × Input}
    (stepped : step input = (.ok value, rest)) : (ofStep step).Reads input value rest := by
  refine (reads_get input).bind ?_
  simp only [stepped]
  rfl

theorem Reads.caught {handle : Refusal → Reader α} (reads : reader.Reads input value rest) :
    Reads (tryCatch reader handle) input value rest := by
  simp only [Reads, tryCatch, tryCatchThe, MonadExceptOf.tryCatch, ExceptT.tryCatch]
  apply (StateT.run_bind _ _ _).trans
  rw [show StateT.run reader input = _ from reads]
  rfl

theorem Reads.inside {place : Place} (reads : reader.Reads input value rest) :
    (inside place reader).Reads input value rest :=
  reads.caught

theorem Reads.thenAlways {last : Reader Unit} (reads : reader.Reads input value middle)
    (ends : last.Reads middle () rest) : (thenAlways reader last).Reads input value rest := by
  have first : Reads (Except.ok <$> reader) input (Except.ok value : Except Refusal α) middle := by
    rw [map_eq_pure_bind]
    exact reads.bind (reads_pure _ _)
  exact first.caught.bind (ends.bind (reads_pure _ _))

end Reader

theorem reads_peekToken {character : Option Char} (isToken : isSpace character = false)
    (rest : Input) : peekToken.Reads (character :: rest) (some character) (character :: rest) := by
  have run : peekToken.run.run (character :: rest) =
      (.ok ((character :: rest).dropWhile isSpace).head?,
        (character :: rest).dropWhile isSpace) := rfl
  rw [Reader.Reads, run]
  simp [isToken]

theorem reads_skip (character : Option Char) (rest : Input) :
    skip.Reads (character :: rest) () rest :=
  rfl

/-! ## Strings -/

/-- The three ways in which a character is written in a string. -/
theorem escape_cases (character : Char) :
    (∃ letter, escape character = ['\\', letter] ∧ letter ≠ 'u' ∧
      shortEscape? letter = some character) ∨
    (character.toNat < 0x20 ∧
      escape character = '\\' :: 'u' :: Text.hexDigits 4 character.toNat) ∨
    (escape character = [character] ∧ character ≠ '"' ∧ character ≠ '\\' ∧
      ¬character.toNat < 0x20) := by
  have named (code : Nat) (same : character.toNat = code) : character = Char.ofNat code := by
    rw [← same, Char.ofNat_toNat]
  unfold escape
  split
  · rename_i isQuote
    exact Or.inl ⟨'"', rfl, by decide, by rw [isQuote]; rfl⟩
  split
  · rename_i isBackslash
    exact Or.inl ⟨'\\', rfl, by decide, by rw [isBackslash]; rfl⟩
  split
  · rename_i isBackspace
    exact Or.inl ⟨'b', rfl, by decide, by rw [named _ isBackspace]; rfl⟩
  split
  · rename_i isFeed
    exact Or.inl ⟨'f', rfl, by decide, by rw [named _ isFeed]; rfl⟩
  split
  · rename_i isNewline
    exact Or.inl ⟨'n', rfl, by decide, by rw [isNewline]; rfl⟩
  split
  · rename_i isReturn
    exact Or.inl ⟨'r', rfl, by decide, by rw [isReturn]; rfl⟩
  split
  · rename_i isTab
    exact Or.inl ⟨'t', rfl, by decide, by rw [isTab]; rfl⟩
  split
  · rename_i isControl
    exact Or.inr (Or.inl ⟨isControl, rfl⟩)
  · rename_i isPlain
    exact Or.inr (Or.inr ⟨rfl, by assumption, by assumption, isPlain⟩)

theorem hexStep_hexDigits {value : Nat} (small : value < 0x10000) (rest : Input) :
    hexStep ((Text.hexDigits 4 value).map some ++ rest) = (.ok value, rest) := by
  have digits : ∃ a b c d, Text.hexDigits 4 value = [a, b, c, d] := ⟨_, _, _, _, rfl⟩
  rcases digits with ⟨a, b, c, d, written⟩
  have read : Text.readHex? (Text.hexDigits 4 value) 0 = some value :=
    Text.readHex?_hexDigits (by simpa using small)
  rw [written] at read ⊢
  simp [hexStep, hex?, read]

theorem escapeStep_shortEscape {letter character : Char} (notUnicode : letter ≠ 'u')
    (short : shortEscape? letter = some character) (rest : Input) :
    escapeStep (some letter :: rest) = (.ok character, rest) := by
  unfold escapeStep
  split
  · rename_i isNil
    cases isNil
  · rename_i isUnicode
    cases isUnicode
    exact absurd rfl notUnicode
  · rename_i same
    cases same
    rw [short]
  · rename_i isNone
    cases isNone

theorem unicodeStep_control {character : Char} (control : character.toNat < 0x20) (rest : Input) :
    unicodeStep ((Text.hexDigits 4 character.toNat).map some ++ rest) = (.ok character, rest) := by
  have notTrailing : isTrailing character.toNat = false := by
    simp only [isTrailing, Bool.and_eq_false_iff, decide_eq_false_iff_not]
    omega
  have notLeading : isLeading character.toNat = false := by
    simp only [isLeading, Bool.and_eq_false_iff, decide_eq_false_iff_not]
    omega
  rw [unicodeStep, hexStep_hexDigits (by omega)]
  simp [notTrailing, notLeading, Char.ofNat_toNat]

theorem textStep_backslash {input after : Input} {character : Char} (read : List Char)
    (escaped : escapeStep input = (.ok character, after)) :
    textStep read true (some '\\' :: input) = textStep (character :: read) true after := by
  rw [textStep, if_neg (by decide), if_pos rfl]
  split
  · rename_i same
    rw [escaped] at same
    cases same
    rfl
  · rename_i same
    rw [escaped] at same
    cases same

theorem textStep_escape (read : List Char) (character : Char) (rest : Input) :
    textStep read true ((escape character).map some ++ rest) =
      textStep (character :: read) true rest := by
  rcases escape_cases character with ⟨letter, written, notUnicode, short⟩ | ⟨control, written⟩ |
    ⟨written, notQuote, notBackslash, notControl⟩
  · rw [written]
    exact textStep_backslash read (escapeStep_shortEscape notUnicode short rest)
  · rw [written]
    exact textStep_backslash read (unicodeStep_control control rest)
  · rw [written, List.map_singleton, List.singleton_append, textStep, if_neg notQuote,
      if_neg notBackslash, if_neg notControl]

theorem textStep_written (text read : List Char) (rest : Input) :
    textStep read true ((text.flatMap escape).map some ++ some '"' :: rest) =
      (.ok (String.ofList (read.reverse ++ text)), rest) := by
  induction text generalizing read with
  | nil => simp [textStep]
  | cons character text ih =>
      rw [List.flatMap_cons, List.map_append, List.append_assoc, textStep_escape, ih,
        List.reverse_cons, List.append_assoc]
      rfl

/-- A string is read as it was written, after its opening quote. -/
theorem reads_textBody (value : String) (rest : Input) :
    textBody.Reads ((value.toList.flatMap escape).map some ++ some '"' :: rest) value rest := by
  apply Reader.reads_ofStep
  rw [textStep_written, List.reverse_nil, List.nil_append, String.ofList_toList]

theorem skipText_escape (character : Char) (rest : Input) :
    skipText ((escape character).map some ++ rest) = skipText rest := by
  rcases escape_cases character with ⟨letter, written, notUnicode, short⟩ | ⟨control, written⟩ |
    ⟨written, notQuote, notBackslash, notControl⟩
  · rw [written]
    cases rest <;> simp [skipText, short, notUnicode]
  · have isDigit (value : Nat) : (Text.hexValue? (Text.hexDigit (value % 16))).isSome := by
      rw [Text.hexValue?_hexDigit (Nat.mod_lt value (by decide))]
      rfl
    rw [written]
    simp [Text.hexDigits, skipText, isDigit]
  · rw [written]
    simp [skipText, notQuote, notBackslash, notControl]

theorem skipText_written (text : List Char) (rest : Input) :
    skipText ((text.flatMap escape).map some ++ some '"' :: rest) = (.ok (), rest) := by
  induction text with
  | nil => simp [skipText]
  | cons character text ih =>
      rw [List.flatMap_cons, List.map_append, List.append_assoc, skipText_escape, ih]

/-! ## Whole numbers -/

/-- The rest of an object after the value of a member. -/
def AfterValue (rest : Input) : Prop :=
  ∃ mark more, rest = some mark :: more ∧ (mark = ',' ∨ mark = '}')

/-- A reader takes a value from a written text, whatever comes after it in an object. -/
def Reader.Takes (reader : Reader α) (written : List Char) (value : α) : Prop :=
  ∀ rest, AfterValue rest → reader.Reads (written.map some ++ rest) value rest

theorem isDigit_of_mem_toDigits (value : Nat) (digit : Char) (mem : digit ∈ Nat.toDigits 10 value) :
    Text.isDigit digit = true := by
  have isDigit := Nat.isDigit_of_mem_toDigits (by decide) (by decide) mem
  simp only [Char.isDigit, Bool.and_eq_true, decide_eq_true_eq] at isDigit
  simp only [Text.isDigit, Bool.and_eq_true, decide_eq_true_eq]
  exact isDigit

theorem takeDigits_written {digits : List Char}
    (areDigits : ∀ digit ∈ digits, Text.isDigit digit = true) {rest : Input}
    (after : AfterValue rest) : takeDigits (digits.map some ++ rest) = (digits, rest) := by
  rcases after with ⟨mark, more, rfl, isMark⟩
  have notDigit : Text.isDigit mark = false := by
    rcases isMark with rfl | rfl <;> decide
  have allDigits : ∀ character ∈ digits.map some, character.any Text.isDigit = true := by
    intro character mem
    rcases List.mem_map.mp mem with ⟨digit, isMember, rfl⟩
    exact areDigits digit isMember
  have stops : ∀ next ∈ (some mark :: more).head?, next.any Text.isDigit = false := by
    rintro _ ⟨⟩
    exact notDigit
  simp only [takeDigits]
  rw [Text.takeWhile_run allDigits stops, Text.dropWhile_run allDigits stops]
  simp [List.filterMap_map]

theorem readDecimal_toDigits (value : Nat) : Text.readDecimal (Nat.toDigits 10 value) 0 = value :=
  Nat.ofDigitChars_ten_toDigits

theorem le_readDecimal (digits : List Char) (soFar : Nat) :
    soFar ≤ Text.readDecimal digits soFar := by
  induction digits generalizing soFar with
  | nil => exact Nat.le_refl _
  | cons digit digits ih =>
      have next : soFar ≤ 10 * soFar + Text.digitValue digit := by omega
      exact Nat.le_trans next (ih _)

theorem accumulate_of_le {digits : List Char} {soFar : Nat} (taken : Nat)
    (fits : Text.readDecimal digits soFar ≤ largestNatural) :
    accumulate digits soFar taken =
      (Text.readDecimal digits soFar, taken + digits.length, 0) := by
  induction digits generalizing soFar taken with
  | nil => rfl
  | cons digit digits ih =>
      have next := Nat.le_trans (le_readDecimal digits _) fits
      rw [accumulate, if_neg (Nat.not_lt.mpr next), ih _ fits, List.length_cons,
        Nat.add_assoc, Nat.add_comm 1]
      rfl

theorem head?_toDigits_ne {value : Nat} (positive : 0 < value) :
    (Nat.toDigits 10 value).head? ≠ some '0' := by
  induction value using Nat.strongRecOn with
  | ind value ih =>
      rcases Nat.lt_or_ge value 10 with small | large
      · have check : ∀ digit : Fin 10, 0 < digit.val → digit.val.digitChar ≠ '0' := by decide
        rw [Nat.toDigits_of_lt_base small, List.head?_cons]
        exact fun same => check ⟨value, small⟩ positive (Option.some.inj same)
      · rw [Nat.toDigits_of_base_le (by decide) large,
          List.head?_append_of_ne_nil _ Nat.toDigits_ne_nil]
        exact ih (value / 10) (by omega) (by omega)

/-- The digits of a number have no leading zero: they are one digit, or do not begin with one. -/
theorem toDigits_shape (value : Nat) :
    ∃ first more, Nat.toDigits 10 value = first :: more ∧ (first = '0' → more = []) := by
  cases digits : Nat.toDigits 10 value with
  | nil => exact absurd digits Nat.toDigits_ne_nil
  | cons first more =>
      refine ⟨first, more, rfl, fun isZero => ?_⟩
      rcases Nat.eq_zero_or_pos value with rfl | positive
      · cases digits
        rfl
      · have differs := head?_toDigits_ne positive
        rw [digits, isZero] at differs
        exact absurd rfl differs

theorem numberStep_toDigits (isNegative : Bool) {value : Nat} (fits : value ≤ largestNatural)
    {rest : Input} (after : AfterValue rest) :
    numberStep isNegative ((Nat.toDigits 10 value).map some ++ rest) =
      if !isNegative then (.ok (.natural value), rest)
      else if 0 < value ∧ value ≤ 0x8000000000000000 then (.ok (.negative value), rest)
      else (.ok (.decimal true (Binary64.ofNat value)), rest) := by
  have taken := takeDigits_written (isDigit_of_mem_toDigits value) after
  have read := readDecimal_toDigits value
  have counted := accumulate_of_le 0 (read.symm ▸ fits)
  rw [read] at counted
  rcases toDigits_shape value with ⟨first, more, written, single⟩
  rw [written] at taken counted ⊢
  rcases after with ⟨mark, beyond, rfl, isMark⟩
  simp only [numberStep, taken]
  split
  · rename_i isNil
    cases isNil
  · rename_i isZero
    cases isZero
    cases single rfl
  · rw [counted]
    rcases isMark with rfl | rfl <;> rfl

theorem ne_of_isDigit {digit other : Char} (isDigit : Text.isDigit digit = true)
    (isOther : Text.isDigit other = false) : digit ≠ other := by
  rintro rfl
  exact absurd isDigit (by rw [isOther]; decide)

theorem isSpace_of_isDigit {digit : Char} (isDigit : Text.isDigit digit = true) :
    isSpace (some digit) = false := by
  have differs {other : Char} (isOther : Text.isDigit other = false) :
      (some digit == some other) = false :=
    beq_false_of_ne fun same => ne_of_isDigit isDigit isOther (Option.some.inj same)
  rw [isSpace, differs (by decide), differs (by decide), differs (by decide), differs (by decide)]
  rfl

/-- A written number is seen by its first digit. -/
theorem reads_peekToken_toDigits (value : Nat) (rest : Input) :
    ∃ first, Text.isDigit first = true ∧
      peekToken.Reads ((Nat.toDigits 10 value).map some ++ rest) (some first)
        ((Nat.toDigits 10 value).map some ++ rest) := by
  rcases toDigits_shape value with ⟨first, more, written, -⟩
  have isDigit : Text.isDigit first = true :=
    isDigit_of_mem_toDigits _ first (written ▸ List.mem_cons_self)
  rw [written]
  exact ⟨first, isDigit, reads_peekToken (isSpace_of_isDigit isDigit) _⟩

theorem reads_natural {value : Nat} (fits : value ≤ largestNatural) :
    (number false).Takes (Nat.toDigits 10 value) (.natural value) :=
  fun _ after => Reader.reads_ofStep (numberStep_toDigits false fits after)

theorem reads_negative {value : Nat} (positive : 0 < value) (fits : value ≤ 0x8000000000000000) :
    (number true).Takes (Nat.toDigits 10 value) (.negative value) := by
  intro rest after
  have large : value ≤ largestNatural := Nat.le_trans fits (by decide)
  have small : 0 < value ∧ value ≤ 0x8000000000000000 := ⟨positive, fits⟩
  apply Reader.reads_ofStep
  rw [numberStep_toDigits true large after, if_neg (by decide), if_pos small]

theorem render_integer_of_nonneg {value : Int} (nonneg : 0 ≤ value) :
    (Json.integer value).render = Nat.toDigits 10 value.toNat := by
  rw [Json.render, Int.toString_eq_repr, Int.repr_eq_if, if_pos nonneg,
    ← Nat.toString_eq_repr, Nat.toString_eq_ofList_toDigits, String.toList_ofList]

theorem render_integer_of_neg {value : Int} (negative : value < 0) :
    (Json.integer value).render = '-' :: Nat.toDigits 10 (-value).toNat := by
  rw [Json.render, Int.toString_eq_repr, Int.repr_eq_if, if_neg (Int.not_le.mpr negative),
    String.toList_append, ← Nat.toString_eq_repr, Nat.toString_eq_ofList_toDigits]
  simp

theorem takes_integer {value : Int} (above : -0x8000000000000000 ≤ value)
    (below : value < 0x8000000000000000) :
    Decoder.integer.read.Takes (Json.integer value).render value := by
  intro rest after
  rcases Int.lt_or_le value 0 with negative | nonneg
  · rw [render_integer_of_neg negative]
    refine (reads_peekToken rfl _).bind ?_
    refine (reads_skip _ _).bind ?_
    have fits : (-value).toNat ≤ 0x8000000000000000 := by omega
    refine (reads_negative (by omega) fits rest after).bind ?_
    have back : -((-value).toNat : Int) = value := by omega
    exact Reader.reads_pure_of_eq back rest
  · rw [render_integer_of_nonneg nonneg]
    rcases reads_peekToken_toDigits value.toNat rest with ⟨first, isDigit, peeks⟩
    have large : value.toNat ≤ largestNatural := by
      rw [largestNatural]
      omega
    refine peeks.bind ?_
    have notMinus : (some first == some '-') = false :=
      beq_false_of_ne fun same => ne_of_isDigit isDigit rfl (Option.some.inj same)
    have begins : beginsNumber (some first) = true := isDigit
    have small : value.toNat < 0x8000000000000000 := by omega
    simp only [notMinus, begins, Bool.false_or, if_true]
    refine (reads_natural large rest after).bind ?_
    simp only [if_pos small]
    exact Reader.reads_pure_of_eq (Int.toNat_of_nonneg nonneg) rest

theorem reads_found_natural {value : Nat} (fits : value ≤ largestNatural) :
    found.Takes (Nat.toDigits 10 value) (.number (.natural value)) := by
  intro rest after
  rcases reads_peekToken_toDigits value rest with ⟨first, isDigit, peeks⟩
  refine peeks.bind ?_
  dsimp only
  split
  case h_8 =>
    rw [if_pos (show beginsNumber (some first) = true from isDigit)]
    exact (reads_natural fits rest after).bind (Reader.reads_pure _ _)
  all_goals
    rename_i same
    cases same
    cases isDigit

theorem reads_found_negative {value : Nat} (positive : 0 < value)
    (fits : value ≤ 0x8000000000000000) :
    found.Takes ('-' :: Nat.toDigits 10 value) (.number (.negative value)) := by
  intro rest after
  refine (reads_peekToken rfl _).bind ?_
  refine (reads_skip _ _).bind ?_
  exact (reads_negative positive fits rest after).bind (Reader.reads_pure _ _)

/-! ## Decoders -/

theorem map_renderText (text : String) (rest : Input) :
    (renderText text).map some ++ rest =
      some '"' :: ((text.toList.flatMap escape).map some ++ some '"' :: rest) := by
  simp [renderText]

theorem takes_ofText {expected text : String} {convert : String → Except String α} {value : α}
    (converted : convert text = .ok value) :
    (Decoder.ofText expected convert).read.Takes (renderText text) value := by
  intro rest _
  rw [map_renderText]
  refine (reads_peekToken rfl _).bind ?_
  rw [if_pos rfl]
  refine (reads_skip _ _).bind ((reads_textBody text rest).bind ?_)
  rw [converted]
  exact Reader.reads_pure _ _

theorem takes_text (text : String) : Decoder.text.read.Takes (renderText text) text :=
  takes_ofText rfl

theorem takes_uuid (id : Uuid) : Decoder.uuid.read.Takes (renderText id.text) id :=
  takes_ofText (by rw [Uuid.ofText?_text])

theorem takes_choice {known : List (String × α)} {name : String} {value : α}
    (found : known.find? (fun choice => choice.1 == name) = some (name, value)) :
    (Decoder.choice known).read.Takes (renderText name) value := by
  intro rest _
  rw [map_renderText]
  refine (reads_peekToken rfl _).bind ?_
  refine (reads_skip _ _).bind ((reads_textBody name rest).bind ?_)
  rw [Decoder.nameOf, found]
  exact Reader.reads_pure _ _

theorem takes_optional_text {decoder : Decoder α} {text : String} {value : α}
    (takes : decoder.read.Takes (renderText text) value) :
    decoder.optional.read.Takes (renderText text) (some value) := by
  intro rest after
  have read := takes rest after
  rw [map_renderText] at read ⊢
  refine (reads_peekToken rfl _).bind ?_
  rw [if_neg (by decide)]
  exact read.bind (Reader.reads_pure _ _)

/-- A value that may be missing is read as it was written, or from the null in its place. -/
theorem takes_ofOption {decoder : Decoder α} {toText : α → String}
    (takes : ∀ value, decoder.read.Takes (renderText (toText value)) value) (value : Option α) :
    decoder.optional.read.Takes (Json.ofOption (fun value => .text (toText value)) value).render
      value := by
  cases value with
  | some value =>
      have written := takes_optional_text (takes value)
      rwa [Json.ofOption, Json.render]
  | none =>
      intro rest _
      have letters : "null".toList = 'n' :: "ull".toList := rfl
      have word : (word "ull").Reads ("ull".toList.map some ++ rest) () rest :=
        Reader.reads_ofStep rfl
      rw [Json.ofOption, Json.render, letters, List.map_cons, List.cons_append]
      refine (reads_peekToken rfl _).bind ?_
      rw [if_pos rfl]
      exact (reads_skip _ _).bind (word.bind (Reader.reads_pure _ _))

theorem takes_field {decoder : Decoder β} {written : List Char} {content : β}
    (takes : decoder.read.Takes written content) (key : String) (set : β → α → α) (value : α) :
    ((Field.of key decoder set).read value).Takes written (set content value) :=
  fun rest after => (takes rest after).bind (Reader.reads_pure _ _)

/-! ## Skipping -/

theorem takes_skipValue {written : List Char} (head : skipHead.Takes written none) :
    skipValue.Takes written () := by
  intro rest after
  refine (Reader.reads_get _).bind ?_
  refine (head rest after).bind ?_
  exact (Reader.reads_pure _ _).bind (Reader.reads_pure _ _)

theorem takes_skipHead_text (text : String) : skipHead.Takes (renderText text) none := by
  intro rest _
  rw [map_renderText]
  refine (reads_peekToken rfl _).bind ?_
  refine (reads_skip _ _).bind ?_
  exact (Reader.reads_ofStep (skipText_written text.toList rest)).bind (Reader.reads_pure _ _)

theorem skipNumber_toDigits (value : Nat) {rest : Input} (after : AfterValue rest) :
    skipNumber ((Nat.toDigits 10 value).map some ++ rest) = (.ok (), rest) := by
  have taken := takeDigits_written (isDigit_of_mem_toDigits value) after
  rcases toDigits_shape value with ⟨first, more, written, single⟩
  rw [written] at taken ⊢
  rcases after with ⟨mark, beyond, rfl, isMark⟩
  rw [skipNumber, taken]
  split
  · rename_i isNil
    cases isNil
  · rename_i isZero
    cases isZero
    cases single rfl
  · rename_i same
    cases same
    rcases isMark with isMark | isMark <;> cases isMark
  · rename_i same
    cases same
    rcases isMark with rfl | rfl <;> rfl

theorem takes_skipHead_integer (value : Int) :
    skipHead.Takes (Json.integer value).render none := by
  intro rest after
  rcases Int.lt_or_le value 0 with negative | nonneg
  · rw [render_integer_of_neg negative]
    refine (reads_peekToken rfl _).bind ?_
    refine (reads_skip _ _).bind ?_
    exact (Reader.reads_ofStep (skipNumber_toDigits _ after)).bind (Reader.reads_pure _ _)
  · rw [render_integer_of_nonneg nonneg]
    rcases reads_peekToken_toDigits value.toNat rest with ⟨first, isDigit, peeks⟩
    refine peeks.bind ?_
    dsimp only
    split
    case h_8 =>
      have skips := Reader.reads_ofStep (skipNumber_toDigits value.toNat after)
      rw [if_pos (show beginsNumber (some first) = true from isDigit)]
      exact skips.bind (Reader.reads_pure _ _)
    all_goals
      rename_i same
      cases same
      cases isDigit

/-! ## Members -/

/-- What stands before the key of a member. -/
def memberMark (isFirst : Bool) : List Char :=
  if isFirst then ['"'] else [',', '"']

/-- The members of an object from one of them on. -/
def membersText (isFirst : Bool) : List (String × Json) → List Char
  | [] => []
  | (key, value) :: members =>
    memberMark isFirst ++ (key.toList.flatMap escape ++ '"' :: ':' :: value.render) ++
      membersText false members

theorem renderMembers_eq (members : List (String × Json)) :
    renderMembers members = membersText true members := by
  have later (members : List (String × Json)) (key : String) (value : Json) :
      renderMembers ((key, value) :: members) =
        renderText key ++ ':' :: value.render ++ membersText false members := by
    induction members generalizing key value with
    | nil => simp [renderMembers, membersText]
    | cons member members ih =>
        rcases member with ⟨other, content⟩
        rw [renderMembers, ih other content]
        · simp [membersText, memberMark, renderText]
        · intro isNil
          cases isNil
  cases members with
  | nil => rfl
  | cons member members =>
      rcases member with ⟨key, value⟩
      rw [later]
      simp [membersText, memberMark, renderText]

theorem length_le_membersText (isFirst : Bool) (members : List (String × Json)) :
    members.length ≤ (membersText isFirst members).length := by
  induction members generalizing isFirst with
  | nil => exact Nat.zero_le _
  | cons member members ih =>
      have rest := ih false
      simp only [membersText, List.length_append, List.length_cons]
      omega

theorem reads_hasMember (isFirst : Bool) (rest : Input) :
    (hasMember isFirst).Reads ((memberMark isFirst).map some ++ rest) true rest := by
  cases isFirst with
  | true =>
      refine (reads_peekToken rfl _).bind ?_
      exact (reads_skip _ _).bind (Reader.reads_pure _ _)
  | false =>
      refine (reads_peekToken rfl _).bind ?_
      refine (reads_skip _ _).bind ?_
      refine (reads_peekToken rfl _).bind ?_
      exact (reads_skip _ _).bind (Reader.reads_pure _ _)

theorem reads_hasMember_end (isFirst : Bool) (rest : Input) :
    (hasMember isFirst).Reads (some '}' :: rest) false (some '}' :: rest) :=
  (reads_peekToken rfl _).bind (Reader.reads_pure _ _)

theorem reads_colon (rest : Input) : colon.Reads (some ':' :: rest) () rest :=
  (reads_peekToken rfl _).bind (reads_skip _ _)

theorem reads_endObject (rest : Input) : endObject.Reads (some '}' :: rest) () rest :=
  (reads_peekToken rfl _).bind (reads_skip _ _)

theorem afterValue_members (members : List (String × Json)) (rest : Input) :
    AfterValue ((membersText false members).map some ++ some '}' :: rest) := by
  cases members with
  | nil => exact ⟨'}', rest, rfl, Or.inr rfl⟩
  | cons member members => exact ⟨',', _, rfl, Or.inl rfl⟩

/-! ## Records -/

namespace Record

/--
Reading these members fills a record in: each known one is new and its value is taken from its text,
and the text of each unknown one can be skipped.
-/
inductive Fills (record : Record α) :
    List String → α → List (String × Json) → List String → α → Prop
  | done (seen : List String) (value : α) : Fills record seen value [] seen value
  | known {seen last : List String} {value next final : α} {key : String} {content : Json}
      {members : List (String × Json)} {field : Field α}
      (found : record.fields.find? (fun field => field.key == key) = some field)
      (isNew : key ∉ seen) (takes : (field.read value).Takes content.render next)
      (later : Fills record (key :: seen) next members last final) :
      Fills record seen value ((key, content) :: members) last final
  | unknown {seen last : List String} {value final : α} {key : String} {content : Json}
      {members : List (String × Json)}
      (notFound : record.fields.find? (fun field => field.key == key) = none)
      (skips : skipValue.Takes content.render ())
      (later : Fills record seen value members last final) :
      Fills record seen value ((key, content) :: members) last final

variable {record : Record α} {seen last : List String} {value final : α}
  {members : List (String × Json)}

theorem Fills.reads_members (fills : record.Fills seen value members last final) {fuel : Nat}
    (enough : members.length < fuel) (isFirst : Bool) (rest : Input) :
    (record.readMembers fuel seen isFirst value).Reads
      ((membersText isFirst members).map some ++ some '}' :: rest) (last, final)
      (some '}' :: rest) := by
  induction fills generalizing fuel isFirst with
  | done seen value =>
      cases fuel with
      | zero => cases enough
      | succ fuel => exact (reads_hasMember_end isFirst rest).bind (Reader.reads_pure _ _)
  | @known seen last value next final key content members field found isNew takes later ih =>
      cases fuel with
      | zero => cases enough
      | succ fuel =>
          have first := takes _ (afterValue_members members rest)
          have others := ih (Nat.lt_of_succ_lt_succ enough) false
          simp only [membersText, List.map_append, List.map_cons, List.append_assoc,
            List.cons_append]
          refine (reads_hasMember isFirst _).bind ?_
          refine (reads_textBody key _).bind ?_
          simp only [found, if_neg isNew]
          refine (reads_colon _).bind ?_
          exact first.inside.bind others
  | @unknown seen last value final key content members notFound skips later ih =>
      cases fuel with
      | zero => cases enough
      | succ fuel =>
          have first := skips _ (afterValue_members members rest)
          have others := ih (Nat.lt_of_succ_lt_succ enough) false
          simp only [membersText, List.map_append, List.map_cons, List.append_assoc,
            List.cons_append]
          refine (reads_hasMember isFirst _).bind ?_
          refine (reads_textBody key _).bind ?_
          simp only [notFound]
          refine (reads_colon _).bind ?_
          exact first.inside.bind others

/-- A record is read from an object whose members fill it in, the absent fields included. -/
theorem Fills.reads {result : α} (fills : record.Fills [] record.blank members last final)
    (fillsAbsent : ∀ input,
      (fillAbsent last record.fields final).Reads input result input) (rest : Input) :
    record.read.Reads ((Json.object members).render.map some ++ rest) result rest := by
  have written : (Json.object members).render.map some ++ rest =
      some '{' :: ((membersText true members).map some ++ some '}' :: rest) := by
    simp [Json.render, renderMembers_eq]
  rw [written]
  refine (reads_peekToken rfl _).bind ?_
  refine (reads_skip _ _).bind ?_
  have enough : members.length <
      ((membersText true members).map some ++ some '}' :: rest).length + 1 := by
    have least := length_le_membersText true members
    simp only [List.length_append, List.length_map, List.length_cons]
    omega
  refine Reader.Reads.thenAlways ((Reader.reads_get _).bind ?_) (reads_endObject rest)
  exact (fills.reads_members enough true rest).bind (fillsAbsent _)

/-- The whole text of such an object is read as the record. -/
theorem Fills.runAll {result : α} (fills : record.Fills [] record.blank members last final)
    (fillsAbsent : ∀ input, (fillAbsent last record.fields final).Reads input result input) :
    record.read.runAll ((Json.object members).render.map some) = .ok result := by
  have read := fills.reads fillsAbsent []
  rw [List.append_nil] at read
  have ends : endOfText.Reads [] () [] := rfl
  have closed : Reader.Reads (do endOfText; return result) [] result [] :=
    ends.bind (Reader.reads_pure result [])
  exact congrArg Prod.fst (read.bind closed)

end Record

end OrgAccess.Json
