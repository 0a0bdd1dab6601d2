import OrgAccess.Json.Decoder
import OrgAccess.Proofs.JsonTokens

/-!
# Readers on a scanner's way

A reader tracks a scanner if the scanner is at a known place whenever the reader gives a value, and
if a refusal leaves the scanner within what it had come to: somewhere on the way with no bracket
closed that was open before. The one exception is a character that a reader cut in two. The readers
of values keep their place: after a value the scanner is where it was before.
-/

namespace OrgAccess.Json

namespace Scanner

variable {before middle after : Scanner} {input between rest : Input} {floor : Nat}

/-- On a refusal a text is left at a place with no fewer brackets open, or within a character. -/
def Strays (floor : Nat) (before : Scanner) (input rest : Input) : Prop :=
  rest.head? = some none ∨ ∃ after, Leads before input after rest ∧ floor ≤ after.depth

theorem Leads.strays (leads : Leads before input after rest) (above : floor ≤ after.depth) :
    Strays floor before input rest :=
  Or.inr ⟨after, leads, above⟩

theorem Strays.prepend (strays : Strays floor middle between rest)
    (leads : Leads before input middle between) : Strays floor before input rest := by
  rcases strays with cut | ⟨after, later, above⟩
  · exact Or.inl cut
  · exact (leads.trans later).strays above

theorem Strays.lower {lower : Nat} (strays : Strays floor before input rest)
    (below : lower ≤ floor) : Strays lower before input rest := by
  rcases strays with cut | ⟨after, leads, above⟩
  · exact Or.inl cut
  · exact leads.strays (Nat.le_trans below above)

end Scanner

open Scanner

namespace Reader

variable {α β : Type} {reader : Reader α} {floor depth : Nat} {before middle : Scanner}
  {after : α → Scanner} {input rest : Input}

/--
From one place a reader comes to places that its values tell, or strays without closing more than
the brackets that were opened since a floor.
-/
structure Tracks (reader : Reader α) (floor : Nat) (before : Scanner) (after : α → Scanner)
    (input : Input) : Prop where
  reads : ∀ value rest, reader.Reads input value rest → Leads before input (after value) rest
  refuses : ∀ rest, reader.Refuses input rest → Strays floor before input rest

theorem tracks_pure_of {value : α} (same : after value = before) (floor : Nat) (input : Input) :
    (pure value : Reader α).Tracks floor before after input where
  reads := by
    rintro result rest reads
    rcases reads_pure_iff.mp reads with ⟨rfl, rfl⟩
    exact same ▸ .refl _ _
  refuses := fun rest refuses => absurd refuses (not_refuses_pure value)

theorem tracks_pure (value : α) (floor : Nat) (place : Scanner) (input : Input) :
    (pure value : Reader α).Tracks floor place (fun _ => place) input :=
  tracks_pure_of (show (fun _ => place) value = place from rfl) floor input

theorem tracks_throw (refusal : Refusal) (above : floor ≤ before.depth) (after : α → Scanner)
    (input : Input) : (throw refusal : Reader α).Tracks floor before after input where
  reads := fun value rest reads => absurd reads (not_reads_throw refusal)
  refuses := by
    rintro rest refuses
    cases (refuses_throw_iff refusal).mp refuses
    exact (Leads.refl before input).strays above

theorem tracks_malformed (malformation : Malformation) (above : floor ≤ before.depth)
    (after : α → Scanner) (input : Input) :
    (malformed malformation : Reader α).Tracks floor before after input :=
  tracks_throw _ above after input

theorem tracks_mismatched (mismatch : Mismatch) (above : floor ≤ before.depth)
    (after : α → Scanner) (input : Input) :
    (mismatched mismatch : Reader α).Tracks floor before after input :=
  tracks_throw _ above after input

theorem Tracks.bind {next : α → Reader β} {last : β → Scanner}
    (first : reader.Tracks floor before after input)
    (later : ∀ value rest, reader.Reads input value rest →
      (next value).Tracks floor (after value) last rest) :
    (reader >>= next).Tracks floor before last input where
  reads := by
    intro result rest reads
    rcases reads_bind_iff.mp reads with ⟨value, between, read, readLater⟩
    exact (first.reads value between read).trans
      ((later value between read).reads result rest readLater)
  refuses := by
    intro rest refuses
    rcases refuses_bind_iff.mp refuses with refused | ⟨value, between, read, refused⟩
    · exact first.refuses rest refused
    · exact ((later value between read).refuses rest refused).prepend
        (first.reads value between read)

theorem Tracks.thenPure {place : Scanner} (tracks : reader.Tracks floor before (fun _ => place) input)
    (value : α → β) :
    (do return value (← reader) : Reader β).Tracks floor before (fun _ => place) input :=
  tracks.bind fun _ _ _ => tracks_pure _ _ _ _

theorem Tracks.prepend {between : Input} (tracks : reader.Tracks floor middle after between)
    (leads : Leads before input middle between) {whole : Reader α}
    (same : whole.outcome input = reader.outcome between) :
    whole.Tracks floor before after input where
  reads := fun value rest reads =>
    leads.trans (tracks.reads value rest (reads_iff.mpr (same.symm.trans (reads_iff.mp reads))))
  refuses := by
    rintro rest ⟨refusal, refused⟩
    exact (tracks.refuses rest ⟨refusal, same.symm.trans refused⟩).prepend leads

theorem Tracks.lower {lower : Nat} (tracks : reader.Tracks floor before after input)
    (below : lower ≤ floor) : reader.Tracks lower before after input where
  reads := tracks.reads
  refuses := fun rest refuses => (tracks.refuses rest refuses).lower below

theorem tracks_ofStep {step : Input → Except Malformation α × Input} {first last : Mode}
    (crosses : Crosses first last input (step input)) (above : floor ≤ depth) :
    (ofStep step).Tracks floor ⟨first, depth⟩ (fun _ => ⟨last, depth⟩) input where
  reads := by
    intro value rest reads
    rw [reads_ofStep_iff.mp reads] at crosses
    exact crosses depth
  refuses := by
    intro rest refuses
    rcases refuses_ofStep_iff.mp refuses with ⟨malformation, stopped⟩
    rw [stopped] at crosses
    rcases crosses with cut | ⟨mode, leads⟩
    · exact Or.inl cut
    · exact (leads depth).strays above

end Reader

/-! ## Tokens -/

section Tokens

variable {α : Type} {floor depth : Nat} {before middle : Scanner} {after : α → Scanner}
  {input rest : Input} {character : Option Char}

theorem tracks_peekToken_bind {next : Option (Option Char) → Reader α}
    (ends : (next none).Tracks floor ⟨.free, depth⟩ after [])
    (goesOn : ∀ character rest,
      (next (some character)).Tracks floor ⟨.free, depth⟩ after (character :: rest)) :
    (peekToken >>= next).Tracks floor ⟨.free, depth⟩ after input := by
  have later : (next (fromToken input).head?).Tracks floor ⟨.free, depth⟩ after
      (fromToken input) := by
    cases fromToken input with
    | nil => exact ends
    | cons character rest => exact goesOn character rest
  exact later.prepend (leads_spaces input) (outcome_peekToken_bind next input)

theorem tracks_skip_bind {next : Unit → Reader α}
    (later : (next ()).Tracks floor middle after rest)
    (leads : Leads before (character :: rest) middle rest) :
    (skip >>= next).Tracks floor before after (character :: rest) :=
  later.prepend leads (outcome_skip_bind next (character :: rest))

theorem tracks_skip {after : Unit → Scanner} (leads : Leads before (character :: rest) (after ()) rest)
    (floor : Nat) : skip.Tracks floor before after (character :: rest) :=
  (Reader.tracks_pure_of rfl floor rest).prepend leads rfl

theorem tracks_get_bind {next : Input → Reader α} (later : (next input).Tracks floor before after input) :
    ((get : Reader Input) >>= next).Tracks floor before after input :=
  later.prepend (.refl _ _) rfl

theorem tracks_word {letters : String} {length : Nat} (count : letters.toList.length = length)
    (areLetters : (letters.toList.all fun letter => isWordLetter (some letter)) = true)
    (above : floor ≤ depth) (input : Input) :
    (word letters).Tracks floor ⟨.letters length, depth⟩ (fun _ => ⟨.free, depth⟩) input := by
  have crosses := crosses_wordStep letters.toList (List.all_eq_true.mp areLetters) input
  exact Reader.tracks_ofStep (count ▸ crosses) above

theorem tracks_textBody (above : floor ≤ depth) (input : Input) :
    textBody.Tracks floor ⟨.text, depth⟩ (fun _ => ⟨.free, depth⟩) input :=
  Reader.tracks_ofStep (crosses_textStep [] true input) above

theorem tracks_number {mode : Mode} (takes : TakesDigit mode)
    (begins : mode ≠ .free ∨ input.head?.any beginsNumber = true) (above : floor ≤ depth)
    (isNegative : Bool) :
    (number isNegative).Tracks floor ⟨mode, depth⟩ (fun _ => ⟨.free, depth⟩) input :=
  Reader.tracks_ofStep (takes.crosses_numberStep begins isNegative) above

end Tokens

/-- A reader that starts and ends between two tokens, with the same brackets open. -/
def Reader.KeepsPlace {α : Type} (reader : Reader α) : Prop :=
  ∀ depth input, reader.Tracks depth ⟨.free, depth⟩ (fun _ => ⟨.free, depth⟩) input

theorem keepsPlace_found : found.KeepsPlace := by
  intro depth input
  have here := Nat.le_refl depth
  unfold found
  refine tracks_peekToken_bind (Reader.tracks_malformed _ here _ _) fun character rest => ?_
  dsimp only
  split
  · refine tracks_skip_bind ?_ (leads_free rfl rfl rest)
    exact (tracks_word rfl (by decide) here rest).thenPure _
  · refine tracks_skip_bind ?_ (leads_free rfl rfl rest)
    exact (tracks_word rfl (by decide) here rest).thenPure _
  · refine tracks_skip_bind ?_ (leads_free rfl rfl rest)
    exact (tracks_word rfl (by decide) here rest).thenPure _
  · refine tracks_skip_bind ?_ (leads_free rfl rfl rest)
    exact (tracks_number takesDigit_digit (Or.inl (by simp)) here true).thenPure _
  · refine tracks_skip_bind ?_ (leads_quote rest)
    exact (tracks_textBody here rest).thenPure _
  · exact Reader.tracks_pure _ _ _ _
  · exact Reader.tracks_pure _ _ _ _
  · split
    · rename_i begins
      have isDigit : (character :: rest).head?.any beginsNumber = true := begins
      exact (tracks_number takesDigit_free (Or.inr isDigit) here false).thenPure _
    · exact Reader.tracks_malformed _ here _ _

/-- How a value of a kind begins; of an array or an object nothing more than that is read. -/
def BeginsAs (character : Option Char) (tail rest : Input) : Found → Prop
  | .number value =>
    character = some '-' ∧ (number true).Reads tail value rest ∨
      beginsNumber character = true ∧ (number false).Reads (character :: tail) value rest
  | .list => character = some '[' ∧ rest = character :: tail
  | .object => character = some '{' ∧ rest = character :: tail
  | .null | .boolean _ | .text _ => True

theorem reads_found {what : Found} {input rest : Input} (reads : found.Reads input what rest) :
    ∃ character tail, fromToken input = character :: tail ∧ BeginsAs character tail rest what := by
  have told {α : Type} {reader : Reader α} {tell : α → Found} {input : Input}
      (reads : (do return tell (← reader) : Reader Found).Reads input what rest) :
      ∃ value, reader.Reads input value rest ∧ what = tell value := by
    obtain ⟨value, between, read, same⟩ := Reader.reads_bind_iff.mp reads
    obtain ⟨rfl, rfl⟩ := Reader.reads_pure_iff.mp same
    exact ⟨value, read, rfl⟩
  rw [found, reads_peekToken_bind_iff] at reads
  generalize fromToken input = tokens at reads
  rcases tokens with _ | ⟨character, tail⟩
  · exact absurd reads (Reader.not_reads_malformed _)
  refine ⟨character, tail, rfl, ?_⟩
  dsimp only [List.head?_cons] at reads
  split at reads
  · obtain ⟨_, _, rfl⟩ := told (reads_skip_bind_iff.mp reads)
    trivial
  · obtain ⟨_, _, rfl⟩ := told (reads_skip_bind_iff.mp reads)
    trivial
  · obtain ⟨_, _, rfl⟩ := told (reads_skip_bind_iff.mp reads)
    trivial
  · obtain ⟨value, read, rfl⟩ := told (reads_skip_bind_iff.mp reads)
    exact Or.inl ⟨rfl, read⟩
  · obtain ⟨_, _, rfl⟩ := told (reads_skip_bind_iff.mp reads)
    trivial
  · obtain ⟨rfl, rfl⟩ := Reader.reads_pure_iff.mp reads
    exact ⟨rfl, rfl⟩
  · obtain ⟨rfl, rfl⟩ := Reader.reads_pure_iff.mp reads
    exact ⟨rfl, rfl⟩
  · split at reads
    · rename_i isDigit
      obtain ⟨value, read, rfl⟩ := told reads
      exact Or.inr ⟨isDigit, read⟩
    · exact absurd reads (Reader.not_reads_malformed _)

theorem keepsPlace_refuse {α : Type} (expected : String) : (refuse expected : Reader α).KeepsPlace :=
  fun depth input => (keepsPlace_found depth input).bind fun _ _ _ =>
    Reader.tracks_mismatched _ (Nat.le_refl depth) _ _

/-! ## Values of a known shape -/

section Decoders

variable {α : Type}

theorem keepsPlace_ofText (expected : String) (convert : String → Except String α) :
    (Decoder.ofText expected convert).read.KeepsPlace := by
  intro depth input
  have here := Nat.le_refl depth
  refine tracks_peekToken_bind ?_ fun character rest => ?_
  · exact keepsPlace_refuse expected depth []
  split
  · rename_i quoted
    cases quoted
    refine tracks_skip_bind ?_ (leads_quote rest)
    refine (tracks_textBody here rest).bind fun text between _ => ?_
    split
    · exact Reader.tracks_pure _ _ _ _
    · exact Reader.tracks_mismatched _ here _ _
  · exact keepsPlace_refuse expected depth _

/-- The integer that a number is, if it fits. -/
def integerOf : Number → Reader Int
  | .natural value =>
    if value < 0x8000000000000000 then return value
    else .mismatched (.wrongValue (.number (.natural value)) "i64")
  | .negative value => return -value
  | other => .mismatched (.wrongKind (.number other) "i64")

theorem read_integer : Decoder.integer.read = (do
    match ← peekToken with
    | none => .malformed .endInValue
    | some character =>
      if character = some '-' then do
        skip
        integerOf (← number true)
      else if beginsNumber character then integerOf (← number false)
      else refuse "i64" : Reader Int) := by
  unfold Decoder.integer
  refine bind_congr fun next => ?_
  cases next with
  | none => rfl
  | some character =>
      by_cases minus : character = some '-'
      · cases minus
        refine bind_congr fun _ => bind_congr fun value => ?_
        cases value <;> rfl
      · have notNegative : (character == some '-') = false := beq_eq_false_iff_ne.mpr minus
        simp only [notNegative, if_neg minus, Bool.false_or, if_neg Bool.false_ne_true]
        split
        · refine bind_congr fun value => ?_
          cases value <;> rfl
        · rfl

theorem keepsPlace_integer : Decoder.integer.read.KeepsPlace := by
  intro depth input
  have here := Nat.le_refl depth
  have told (value : Number) (input : Input) : (integerOf value).Tracks depth ⟨.free, depth⟩
      (fun _ => ⟨.free, depth⟩) input := by
    unfold integerOf
    split
    · split
      · exact Reader.tracks_pure _ _ _ _
      · exact Reader.tracks_mismatched _ here _ _
    · exact Reader.tracks_pure _ _ _ _
    · exact Reader.tracks_mismatched _ here _ _
  rw [read_integer]
  refine tracks_peekToken_bind (Reader.tracks_malformed _ here _ _) fun character rest => ?_
  dsimp only
  split
  · rename_i minus
    cases minus
    refine tracks_skip_bind ?_ (leads_free rfl rfl rest)
    exact (tracks_number takesDigit_digit (Or.inl (by simp)) here true).bind
      fun value _ _ => told value _
  split
  · rename_i isDigit
    have begins : (character :: rest).head?.any beginsNumber = true := isDigit
    exact (tracks_number takesDigit_free (Or.inr begins) here false).bind
      fun value _ _ => told value _
  · exact keepsPlace_refuse "i64" depth _

theorem keepsPlace_unit : Decoder.unit.KeepsPlace := by
  intro depth input
  have here := Nat.le_refl depth
  refine tracks_peekToken_bind (keepsPlace_refuse "unit" depth []) fun character rest => ?_
  split
  · rename_i null
    cases null
    exact tracks_skip_bind (tracks_word rfl (by decide) here rest) (leads_free rfl rfl rest)
  · exact keepsPlace_refuse "unit" depth _

theorem keepsPlace_optional {decoder : Decoder α} (keeps : decoder.read.KeepsPlace) :
    decoder.optional.read.KeepsPlace := by
  intro depth input
  refine tracks_peekToken_bind ((keeps depth []).thenPure _) fun character rest => ?_
  split
  · rename_i null
    cases null
    refine tracks_skip_bind ?_ (leads_free rfl rfl rest)
    exact (tracks_word rfl (by decide) (Nat.le_refl depth) rest).thenPure _
  · exact (keeps depth _).thenPure _

theorem tracks_nameOf (known : List (String × α)) (name : String) {floor : Nat} {place : Scanner}
    (above : floor ≤ place.depth) (input : Input) :
    (Decoder.nameOf known name).Tracks floor place (fun _ => place) input := by
  unfold Decoder.nameOf
  split
  · exact Reader.tracks_pure _ _ _ _
  · exact Reader.tracks_mismatched _ above _ _

theorem keepsPlace_onlyKey : Decoder.onlyKey.KeepsPlace := by
  intro depth input
  have here := Nat.le_refl depth
  refine tracks_peekToken_bind (Reader.tracks_malformed _ here _ _) fun character rest => ?_
  dsimp only
  split
  · rename_i quoted
    cases quoted
    exact tracks_skip_bind (tracks_textBody here rest) (leads_quote rest)
  split
  · exact Reader.tracks_malformed _ here _ _
  · exact Reader.tracks_malformed _ here _ _

theorem tracks_colon {floor depth : Nat} (above : floor ≤ depth + 1) (input : Input) :
    colon.Tracks floor ⟨.free, depth + 1⟩ (fun _ => ⟨.free, depth + 1⟩) input := by
  refine tracks_peekToken_bind (Reader.tracks_malformed _ above _ _) fun character rest => ?_
  dsimp only
  split
  · rename_i isColon
    exact tracks_skip (leads_separator (Or.inr isColon) rest) floor
  · exact Reader.tracks_malformed _ above _ _

theorem keepsPlace_choice (known : List (String × α)) :
    (Decoder.choice known).read.KeepsPlace := by
  intro depth input
  have here := Nat.le_refl depth
  have inner := Nat.le_succ depth
  refine tracks_peekToken_bind (Reader.tracks_malformed _ here _ _) fun character rest => ?_
  dsimp only
  split
  · refine tracks_skip_bind ?_ (leads_quote rest)
    exact (tracks_textBody here rest).bind fun name _ _ => tracks_nameOf known name here _
  · refine tracks_skip_bind ?_ (leads_open (Or.inr rfl) rest)
    refine ((keepsPlace_onlyKey (depth + 1) rest).lower inner).bind fun name _ _ => ?_
    refine (tracks_nameOf known name inner _).bind fun value _ _ => ?_
    refine (tracks_colon inner _).bind fun _ _ _ => ?_
    refine ((keepsPlace_unit (depth + 1) _).lower inner).bind fun _ _ _ => ?_
    refine tracks_peekToken_bind (Reader.tracks_malformed _ inner _ _) fun character rest => ?_
    dsimp only
    split
    · rename_i closes
      exact tracks_skip_bind (Reader.tracks_pure _ _ _ _) (leads_close (Or.inr closes) rest)
    · exact Reader.tracks_malformed _ inner _ _
  · exact Reader.tracks_malformed _ here _ _

end Decoders

/-! ## Items and members -/

section Items

variable {floor depth : Nat} {before : Scanner} {input middle rest : Input}

theorem tracks_hasItem (isFirst : Bool) (above : floor ≤ depth + 1) (input : Input) :
    (hasItem isFirst).Tracks floor ⟨.free, depth + 1⟩ (fun _ => ⟨.free, depth + 1⟩) input := by
  refine tracks_peekToken_bind (Reader.tracks_malformed _ above _ _) fun character rest => ?_
  dsimp only
  split
  · exact Reader.tracks_pure _ _ _ _
  split
  · exact Reader.tracks_pure _ _ _ _
  split
  · rename_i isComma
    refine tracks_skip_bind ?_ (leads_separator (Or.inl isComma) rest)
    refine tracks_peekToken_bind (Reader.tracks_malformed _ above _ _) fun character rest => ?_
    dsimp only
    split
    · exact Reader.tracks_malformed _ above _ _
    · exact Reader.tracks_pure _ _ _ _
  · exact Reader.tracks_malformed _ above _ _

/-- The place of a scanner after it was asked whether there is another member. -/
def atMember (depth : Nat) (isThere : Bool) : Scanner :=
  ⟨if isThere then .text else .free, depth + 1⟩

theorem tracks_hasMember (isFirst : Bool) (above : floor ≤ depth + 1) (input : Input) :
    (hasMember isFirst).Tracks floor ⟨.free, depth + 1⟩ (atMember depth) input := by
  refine tracks_peekToken_bind (Reader.tracks_malformed _ above _ _) fun character rest => ?_
  dsimp only
  split
  · have here : atMember depth false = ⟨.free, depth + 1⟩ := rfl
    exact Reader.tracks_pure_of here _ _
  split
  · split
    · rename_i quoted
      cases quoted
      exact tracks_skip_bind (Reader.tracks_pure_of (by rfl) _ _) (leads_quote rest)
    · exact Reader.tracks_malformed _ above _ _
  split
  · rename_i isComma
    refine tracks_skip_bind ?_ (leads_separator (Or.inl isComma) rest)
    refine tracks_peekToken_bind (Reader.tracks_malformed _ above _ _) fun character rest => ?_
    dsimp only
    split
    · rename_i quoted
      cases quoted
      exact tracks_skip_bind (Reader.tracks_pure_of (by rfl) _ _) (leads_quote rest)
    split
    · exact Reader.tracks_malformed _ above _ _
    · exact Reader.tracks_malformed _ above _ _
  · exact Reader.tracks_malformed _ above _ _

/-- A reader that closes a bracket, and takes no more than one token if it does not. -/
structure Closes (last : Reader Unit) : Prop where
  tracks : ∀ {floor depth}, floor ≤ depth → ∀ input,
    last.Tracks floor ⟨.free, depth + 1⟩ (fun _ => ⟨.free, depth⟩) input
  leaves : ∀ input, (last.outcome input).2 = fromToken input ∨
    ∃ mark tail, fromToken input = some mark :: tail ∧
      ((last.outcome input).2 = tail ∨ (last.outcome input).2 = fromToken tail)

/-- Blank space does not open or close a bracket, in a string or not. -/
theorem leads_spaces_within (mode : Mode) (input : Input) :
    ∃ last, ∀ depth, Leads ⟨mode, depth⟩ input ⟨last, depth⟩ (fromToken input) := by
  induction input generalizing mode with
  | nil => exact ⟨mode, fun _ => .refl _ _⟩
  | cons character input ih =>
      unfold fromToken
      rw [List.dropWhile_cons]
      split
      · rename_i blank
        rcases ih (mode.next character) with ⟨last, later⟩
        refine ⟨last, fun depth => .trans ?_ (later depth)⟩
        by_cases free : mode = .free
        · rw [free]
          exact leads_free (next_of_isSpace blank).1 rfl input
        · exact leads_next free character input
      · exact ⟨mode, fun _ => .refl _ _⟩

/-- One character closes no more than one bracket. -/
theorem leads_character (mode : Mode) (character : Option Char) (input : Input) :
    ∃ after, Leads ⟨mode, depth + 1⟩ (character :: input) after input ∧ depth ≤ after.depth := by
  by_cases free : mode = .free
  · rw [free]
    cases plain : isMark character with
    | false => exact ⟨_, leads_free plain rfl input, Nat.le_succ depth⟩
    | true =>
        simp only [isMark, List.mem_cons, List.not_mem_nil, or_false, decide_eq_true_eq] at plain
        rcases plain with opens | opens | closes | closes | separates | separates
        · exact ⟨_, leads_open (Or.inl opens) input, by simp only; omega⟩
        · exact ⟨_, leads_open (Or.inr opens) input, by simp only; omega⟩
        · exact ⟨_, leads_close (Or.inl closes) input, Nat.le_refl depth⟩
        · exact ⟨_, leads_close (Or.inr closes) input, Nat.le_refl depth⟩
        · exact ⟨_, leads_separator (Or.inl separates) input, Nat.le_succ depth⟩
        · exact ⟨_, leads_separator (Or.inr separates) input, Nat.le_succ depth⟩
  · exact ⟨_, leads_next free character input, Nat.le_succ depth⟩

theorem fromToken_of_cut (cut : input.head? = some none) : fromToken input = input := by
  cases input with
  | nil => cases cut
  | cons character input =>
      cases cut
      rfl

/-- Wherever it is run, it closes no more than one bracket. -/
theorem Closes.strays {last : Reader Unit} (closes : Closes last)
    (strays : Strays (floor + 1) before input middle)
    (ended : last.Reads middle () rest ∨ last.Refuses middle rest) :
    Strays floor before input rest := by
  have left : (last.outcome middle).2 = rest := by
    rcases ended with reads | ⟨refusal, refused⟩
    · exact congrArg Prod.snd (Reader.reads_iff.mp reads)
    · exact congrArg Prod.snd refused
  have leaves := closes.leaves middle
  rw [left] at leaves
  rcases strays with cut | ⟨⟨mode, depth⟩, leads, above⟩
  · have here := fromToken_of_cut cut
    rcases leaves with rfl | ⟨mark, tail, token, _⟩
    · rw [here]
      exact Or.inl cut
    · rw [here] at token
      rw [token] at cut
      cases cut
  · rcases leads_spaces_within mode middle with ⟨last, spaces⟩
    have toToken := leads.trans (spaces depth)
    obtain ⟨outer, rfl⟩ : ∃ outer, depth = outer + 1 := ⟨depth - 1, by simp only at above; omega⟩
    have outside : floor ≤ outer := Nat.le_of_succ_le_succ above
    rcases leaves with rfl | ⟨mark, tail, token, left⟩
    · exact toToken.strays (Nat.le_succ_of_le outside)
    · rw [token] at toToken
      rcases leads_character last (some mark) tail with ⟨⟨inner, after⟩, taken, kept⟩
      have toTail := toToken.trans taken
      have high : floor ≤ after := Nat.le_trans outside kept
      rcases left with rfl | rfl
      · exact toTail.strays high
      · rcases leads_spaces_within inner tail with ⟨final, spaces⟩
        exact (toTail.trans (spaces after)).strays high

theorem tracks_thenAlways {α : Type} {first : Reader α} {last : Reader Unit}
    (tracks : first.Tracks (floor + 1) before (fun _ => ⟨.free, depth + 1⟩) input)
    (closes : Closes last) (above : floor ≤ depth) :
    (thenAlways first last).Tracks floor before (fun _ => ⟨.free, depth⟩) input where
  reads := by
    intro value rest reads
    rcases Reader.reads_thenAlways_iff.mp reads with ⟨middle, read, closed⟩
    exact (tracks.reads value middle read).trans ((closes.tracks above middle).reads () rest closed)
  refuses := by
    intro rest refuses
    rcases Reader.refuses_thenAlways_iff.mp refuses with
      ⟨value, middle, read, refused⟩ | ⟨middle, refused, ended⟩
    · have here := (tracks.reads value middle read).strays (Nat.succ_le_succ above)
      exact closes.strays here (Or.inr refused)
    · exact closes.strays (tracks.refuses middle refused) ended

theorem tracks_endList (above : floor ≤ depth) (input : Input) :
    endList.Tracks floor ⟨.free, depth + 1⟩ (fun _ => ⟨.free, depth⟩) input := by
  have inner := Nat.le_succ_of_le above
  refine tracks_peekToken_bind (Reader.tracks_malformed _ inner _ _) fun character rest => ?_
  dsimp only
  split
  · rename_i closes
    exact tracks_skip (leads_close (Or.inl closes) rest) floor
  split
  · rename_i isComma
    refine tracks_skip_bind ?_ (leads_separator (Or.inl isComma) rest)
    refine tracks_peekToken_bind (Reader.tracks_malformed _ inner _ _) fun character rest => ?_
    split
    · exact Reader.tracks_malformed _ inner _ _
    · exact Reader.tracks_malformed _ inner _ _
  · exact Reader.tracks_malformed _ inner _ _

theorem closes_endList : Closes endList where
  tracks := tracks_endList
  leaves := by
    intro input
    unfold endList
    rw [outcome_peekToken_bind]
    rcases fromToken input with _ | ⟨character, tail⟩
    · exact Or.inl rfl
    dsimp only [List.head?_cons]
    split
    · rename_i closes
      cases closes
      exact Or.inr ⟨']', tail, rfl, Or.inl rfl⟩
    split
    · rename_i isComma
      cases isComma
      refine Or.inr ⟨',', tail, rfl, Or.inr ?_⟩
      rw [outcome_skip_bind, outcome_peekToken_bind]
      split
      · rfl
      · rfl
    · exact Or.inl rfl

theorem tracks_endObject (above : floor ≤ depth) (input : Input) :
    endObject.Tracks floor ⟨.free, depth + 1⟩ (fun _ => ⟨.free, depth⟩) input := by
  have inner := Nat.le_succ_of_le above
  refine tracks_peekToken_bind (Reader.tracks_malformed _ inner _ _) fun character rest => ?_
  dsimp only
  split
  · rename_i closes
    exact tracks_skip (leads_close (Or.inr closes) rest) floor
  split
  · exact Reader.tracks_malformed _ inner _ _
  · exact Reader.tracks_malformed _ inner _ _

theorem closes_endObject : Closes endObject where
  tracks := tracks_endObject
  leaves := by
    intro input
    unfold endObject
    rw [outcome_peekToken_bind]
    rcases fromToken input with _ | ⟨character, tail⟩
    · exact Or.inl rfl
    dsimp only [List.head?_cons]
    split
    · rename_i closes
      cases closes
      exact Or.inr ⟨'}', tail, rfl, Or.inl rfl⟩
    split
    · exact Or.inl rfl
    · exact Or.inl rfl

end Items

end OrgAccess.Json
