import OrgAccess.Proofs.JsonReading

/-!
# What a reader must have read

`Reader.Reads` says that a reader gives a value, and `Reader.Refuses` that it refuses the text, each
time with the rest that is left. The rules here take either apart, from a reader back to the steps
of which it is made, so that what was read can be told from the outcome alone.
-/

namespace OrgAccess.Json

variable {α β : Type}

/-- A text from its next token on. -/
def fromToken (input : Input) : Input :=
  input.dropWhile isSpace

namespace Reader

/-- What a reader gives on an input, with the rest. -/
def outcome (reader : Reader α) (input : Input) : Except Refusal α × Input :=
  reader.run.run input

/-- On this input a reader refuses the text and leaves this rest. -/
def Refuses (reader : Reader α) (input rest : Input) : Prop :=
  ∃ refusal, reader.outcome input = (.error refusal, rest)

variable {reader : Reader α} {input middle rest : Input} {value : α}

theorem reads_iff : reader.Reads input value rest ↔ reader.outcome input = (.ok value, rest) :=
  Iff.rfl

theorem Reads.unique {other : α} {rest' : Input} (reads : reader.Reads input value rest)
    (reads' : reader.Reads input other rest') : value = other ∧ rest = rest' := by
  rw [reads_iff] at reads reads'
  rw [reads] at reads'
  cases reads'
  exact ⟨rfl, rfl⟩

/-! ## Outcomes of readers put together -/

theorem outcome_bind (reader : Reader α) (next : α → Reader β) (input : Input) :
    (reader >>= next).outcome input =
      match reader.outcome input with
      | (.ok value, middle) => (next value).outcome middle
      | (.error refusal, middle) => (.error refusal, middle) := by
  unfold outcome
  rw [ExceptT.run_bind, StateT.run_bind]
  generalize (reader.run.run input : Except Refusal α × Input) = first
  rcases first with ⟨refusal | value, middle⟩
  · rfl
  · rfl

theorem outcome_tryCatch (reader : Reader α) (handle : Refusal → Reader α) (input : Input) :
    (tryCatch reader handle : Reader α).outcome input =
      match reader.outcome input with
      | (.ok value, middle) => (.ok value, middle)
      | (.error refusal, middle) => (handle refusal).outcome middle := by
  rcases result : reader.outcome input with ⟨refusal | value, middle⟩
  all_goals
    simp only [outcome, tryCatch, tryCatchThe, MonadExceptOf.tryCatch, ExceptT.tryCatch]
    apply (StateT.run_bind _ _ _).trans
    rw [show StateT.run reader input = _ from result]
    rfl

@[simp]
theorem outcome_pure (value : α) (input : Input) :
    (pure value : Reader α).outcome input = (.ok value, input) := rfl

@[simp]
theorem outcome_throw (refusal : Refusal) (input : Input) :
    (throw refusal : Reader α).outcome input = (.error refusal, input) := rfl

/-- A refusal that is told as a value. -/
theorem outcome_told (reader : Reader α) (input : Input) :
    (tryCatch (Except.ok <$> reader) fun refusal => return .error refusal :
      Reader (Except Refusal α)).outcome input =
        (.ok (reader.outcome input).1, (reader.outcome input).2) := by
  rw [outcome_tryCatch, map_eq_pure_bind, outcome_bind]
  rcases reader.outcome input with ⟨refusal | value, middle⟩
  · rfl
  · rfl

theorem outcome_thenAlways (reader : Reader α) (last : Reader Unit) (input : Input) :
    (thenAlways reader last).outcome input =
      match reader.outcome input with
      | (.ok value, middle) => ((last.outcome middle).1.map fun _ => value, (last.outcome middle).2)
      | (.error refusal, middle) => (.error refusal, (last.outcome middle).2) := by
  unfold thenAlways
  rw [outcome_bind, outcome_told]
  rcases reader.outcome input with ⟨refusal | value, middle⟩
  · dsimp only
    rw [outcome_bind, outcome_told]
    rfl
  · dsimp only
    rw [outcome_bind]
    rcases last.outcome middle with ⟨refusal | ⟨⟩, rest⟩
    · rfl
    · rfl

theorem outcome_ofStep (step : Input → Except Malformation α × Input) (input : Input) :
    (ofStep step).outcome input =
      ((step input).1.mapError fun malformation => ⟨none, .malformed malformation⟩,
        (step input).2) := by
  have gets : (get : Reader Input).outcome input = (.ok input, input) := rfl
  have sets (after : Input) : (set after : Reader Unit).outcome input = (.ok (), after) := rfl
  unfold ofStep
  rw [outcome_bind, gets]
  dsimp only
  rw [outcome_bind, sets]
  rcases step input with ⟨malformation | value, rest⟩
  · rfl
  · rfl

/-! ## Successes -/

@[simp]
theorem reads_pure_iff {result : α} :
    Reads (pure result) input value rest ↔ result = value ∧ input = rest := by
  simp [reads_iff]

theorem reads_bind_iff {next : α → Reader β} {result : β} :
    (reader >>= next).Reads input result rest ↔
      ∃ value middle, reader.Reads input value middle ∧ (next value).Reads middle result rest := by
  simp only [reads_iff, outcome_bind]
  rcases reader.outcome input with ⟨refusal | value, middle⟩
  · simp
  · simp

@[simp]
theorem not_reads_throw (refusal : Refusal) : ¬Reads (throw refusal) input value rest := by
  simp [reads_iff]

@[simp]
theorem not_reads_malformed (malformation : Malformation) :
    ¬Reads (malformed malformation) input value rest :=
  not_reads_throw _

@[simp]
theorem not_reads_mismatched (mismatch : Mismatch) :
    ¬Reads (mismatched mismatch) input value rest :=
  not_reads_throw _

theorem reads_ofStep_iff {step : Input → Except Malformation α × Input} :
    (ofStep step).Reads input value rest ↔ step input = (.ok value, rest) := by
  rw [reads_iff, outcome_ofStep]
  rcases step input with ⟨malformation | result, middle⟩
  · simp [Except.mapError]
  · simp [Except.mapError]

@[simp]
theorem reads_inside_iff {place : Place} :
    (inside place reader).Reads input value rest ↔ reader.Reads input value rest := by
  rw [reads_iff, inside, outcome_tryCatch, reads_iff]
  rcases reader.outcome input with ⟨refusal | result, middle⟩
  · simp
  · simp

theorem reads_thenAlways_iff {last : Reader Unit} : (thenAlways reader last).Reads input value rest ↔
    ∃ middle, reader.Reads input value middle ∧ last.Reads middle () rest := by
  simp only [reads_iff, outcome_thenAlways]
  rcases reader.outcome input with ⟨refusal | result, middle⟩
  · simp
  · rcases ended : last.outcome middle with ⟨refusal | ⟨⟩, rest⟩
    · simp [ended, Except.map]
    · simp [ended, Except.map]

/-! ## Refusals -/

@[simp]
theorem not_refuses_pure (value : α) : ¬Refuses (pure value) input rest := by
  simp [Refuses]

theorem refuses_bind_iff {next : α → Reader β} :
    (reader >>= next).Refuses input rest ↔
      reader.Refuses input rest ∨
        ∃ value middle, reader.Reads input value middle ∧ (next value).Refuses middle rest := by
  simp only [Refuses, outcome_bind, reads_iff]
  rcases reader.outcome input with ⟨refusal | value, middle⟩
  · simp
  · simp

@[simp]
theorem refuses_throw_iff (refusal : Refusal) :
    Refuses (throw refusal : Reader α) input rest ↔ input = rest := by
  simp [Refuses]

theorem refuses_ofStep_iff {step : Input → Except Malformation α × Input} :
    (ofStep step).Refuses input rest ↔
      ∃ malformation, step input = (.error malformation, rest) := by
  rw [Refuses, outcome_ofStep]
  rcases step input with ⟨malformation | result, middle⟩
  · simp [Except.mapError]
  · simp [Except.mapError]

/-- What has to follow is run in any case; a refusal stands whatever comes of that. -/
theorem refuses_thenAlways_iff {last : Reader Unit} : (thenAlways reader last).Refuses input rest ↔
    (∃ value middle, reader.Reads input value middle ∧ last.Refuses middle rest) ∨
      ∃ middle, reader.Refuses input middle ∧
        (last.Reads middle () rest ∨ last.Refuses middle rest) := by
  simp only [Refuses, reads_iff, outcome_thenAlways]
  rcases reader.outcome input with ⟨refusal | result, middle⟩
  · rcases ended : last.outcome middle with ⟨other | ⟨⟩, rest⟩
    · simp [ended]
    · simp [ended]
  · rcases ended : last.outcome middle with ⟨refusal | ⟨⟩, rest⟩
    · simp [ended, Except.map]
    · simp [ended, Except.map]

end Reader

/-! ## Tokens -/

section Tokens

variable {next : Option (Option Char) → Reader β} {input rest : Input} {value : β}

theorem outcome_peekToken_bind (next : Option (Option Char) → Reader β) (input : Input) :
    (peekToken >>= next).outcome input =
      (next (fromToken input).head?).outcome (fromToken input) := rfl

theorem reads_peekToken_bind_iff : (peekToken >>= next).Reads input value rest ↔
    (next (fromToken input).head?).Reads (fromToken input) value rest := by
  rw [Reader.reads_iff, outcome_peekToken_bind, Reader.reads_iff]

theorem outcome_skip_bind (next : Unit → Reader β) (input : Input) :
    (skip >>= next).outcome input = (next ()).outcome (input.drop 1) := rfl

theorem reads_skip_bind_iff {next : Unit → Reader β} : (skip >>= next).Reads input value rest ↔
    (next ()).Reads (input.drop 1) value rest := by
  rw [Reader.reads_iff, outcome_skip_bind, Reader.reads_iff]

theorem reads_get_bind_iff {next : Input → Reader β} :
    ((get : Reader Input) >>= next).Reads input value rest ↔
      (next input).Reads input value rest :=
  Iff.rfl

end Tokens

end OrgAccess.Json
