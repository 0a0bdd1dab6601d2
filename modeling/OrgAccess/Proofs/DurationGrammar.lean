import OrgAccess.Proofs.TextPieces
import OrgAccess.Time.Duration

/-!
# The grammar of durations

A text without blank ends is a duration if it is a lone zero or a row of segments, each a number
and one of five units. A text is cut into pieces, each the longest run of digits and points and the
longest run of other characters behind it, and reading goes through the pieces from the left
(`Ends`), each of which has at least one character. It comes to the end exactly if all pieces are
segments, and otherwise the first piece that is none tells the error (`FirstFault`).
-/

namespace OrgAccess.Duration

/-! ## Segments -/

/-- The units in which a duration is written. -/
inductive TimeUnit where
  | millisecond
  | second
  | minute
  | hour
  | day
deriving DecidableEq

/-- How a unit is written. -/
def TimeUnit.symbol : TimeUnit → List Char
  | millisecond => "ms".toList
  | second => "s".toList
  | minute => "m".toList
  | hour => "h".toList
  | day => "d".toList

/-- A run of digits and points with a digit and no second point. -/
structure IsNumeral (text : List Char) : Prop where
  run : ∀ character ∈ text, isNumberCharacter character = true
  digit : ∃ character ∈ text, Text.isDigit character = true
  point : text.count '.' ≤ 1

/-- A number and its unit. -/
structure Segment where
  number : List Char
  unit : TimeUnit
  isNumeral : IsNumeral number

namespace Segment

/-- How a segment is written. -/
def text (segment : Segment) : List Char :=
  segment.number ++ segment.unit.symbol

/-- Segments one after the other. -/
def written (segments : List Segment) : List Char :=
  segments.flatMap text

end Segment

/-- A text of at least one segment. -/
def IsWritten (text : List Char) : Prop :=
  ∃ segments : List Segment, segments ≠ [] ∧ text = Segment.written segments

/-! ## Pieces -/

/-- A text goes on with a digit or a point, unless it is at its end. -/
def BeginsPiece (rest : List Char) : Prop :=
  ∀ first ∈ rest.head?, isNumberCharacter first = true

/-- The first piece of a text and the rest; neither of the two runs could be longer. -/
structure Cut (text number unit rest : List Char) : Prop where
  parts : text = number ++ (unit ++ rest)
  isNumber : ∀ character ∈ number, isNumberCharacter character = true
  isUnit : ∀ character ∈ unit, isNumberCharacter character = false
  longestNumber : unit = [] → rest = []
  longestUnit : BeginsPiece rest

/-- A piece that is no segment, and the error that it gives. -/
inductive Offends (input : String) : (number unit : List Char) → DurationError → Prop where
  | noNumber (unit : List Char) : Offends input [] unit (.expectedNumber input)
  | badNumber {number : List Char} (nonempty : number ≠ []) (bad : ¬IsNumeral number)
      (unit : List Char) : Offends input number unit (.invalidNumber input)
  | noUnit {number : List Char} (isNumeral : IsNumeral number) :
      Offends input number [] (.missingUnit input)
  | badUnit {number unit : List Char} (isNumeral : IsNumeral number) (nonempty : unit ≠ [])
      (unknown : ∀ known : TimeUnit, known.symbol ≠ unit) :
      Offends input number unit (.unknownUnit (String.ofList unit) input)

/-- The error that the first piece which is no segment gives. -/
inductive FirstFault (input : String) : List Char → DurationError → Prop where
  | here {text number unit rest : List Char} {error : DurationError} (nonempty : text ≠ [])
      (cut : Cut text number unit rest) (offends : Offends input number unit error) :
      FirstFault input text error
  | later (segment : Segment) {rest : List Char} {error : DurationError}
      (begins : BeginsPiece rest) (fault : FirstFault input rest error) :
      FirstFault input (segment.text ++ rest) error

/-- Reading a text piece by piece ends with a result after so many pieces. -/
inductive Ends (input : String) :
    (pieces : Nat) → List Char → Binary64 → Except DurationError Binary64 → Prop where
  | finished (total : Binary64) : Ends input 0 [] total (.ok total)
  | refused {text number unit rest : List Char} {error : DurationError} (total : Binary64)
      (nonempty : text ≠ []) (cut : Cut text number unit rest)
      (refuses : segmentSeconds input number unit = .error error) :
      Ends input 1 text total (.error error)
  | next {text number unit rest : List Char} {total seconds : Binary64} {pieces : Nat}
      {result : Except DurationError Binary64} (nonempty : text ≠ [])
      (cut : Cut text number unit rest)
      (gives : segmentSeconds input number unit = .ok seconds)
      (more : Ends input pieces rest (total.add seconds) result) :
      Ends input (pieces + 1) text total result

/-! ## Cutting -/

section Cutting

variable {text number unit rest : List Char}

theorem isUnitCharacter_iff {character : Char} :
    isUnitCharacter character = true ↔ isNumberCharacter character = false := by
  simp [isUnitCharacter]

/-- Every text has a first piece. -/
theorem cut_text (text : List Char) :
    Cut text (text.takeWhile isNumberCharacter)
      ((text.dropWhile isNumberCharacter).takeWhile isUnitCharacter)
      ((text.dropWhile isNumberCharacter).dropWhile isUnitCharacter) where
  parts := by rw [List.takeWhile_append_dropWhile, List.takeWhile_append_dropWhile]
  isNumber := fun _ mem => List.mem_takeWhile_imp mem
  isUnit := fun _ mem => isUnitCharacter_iff.mp (List.mem_takeWhile_imp mem)
  longestNumber := by
    intro none
    cases after : text.dropWhile isNumberCharacter with
    | nil => rfl
    | cons first rest =>
        have head : first ∈ (text.dropWhile isNumberCharacter).head? := by simp [after]
        have other := isUnitCharacter_iff.mpr (Text.not_belongs_of_head?_dropWhile head)
        simp [after, other] at none
  longestUnit := by
    intro first head
    simpa [isUnitCharacter] using Text.not_belongs_of_head?_dropWhile head

/-- The first piece of a text is what the two searches of a pass find. -/
theorem Cut.found (cut : Cut text number unit rest) :
    text.takeWhile isNumberCharacter = number ∧
      text.dropWhile isNumberCharacter = unit ++ rest ∧
      (unit ++ rest).takeWhile isUnitCharacter = unit ∧
      (unit ++ rest).dropWhile isUnitCharacter = rest := by
  have stops : ∀ first ∈ (unit ++ rest).head?, isNumberCharacter first = false := by
    intro first head
    cases unit with
    | nil =>
        rw [cut.longestNumber rfl] at head
        cases head
    | cons other more =>
        obtain rfl := Option.some.inj head
        exact cut.isUnit _ List.mem_cons_self
  have begins : ∀ first ∈ rest.head?, isUnitCharacter first = false := by
    intro first head
    simp [isUnitCharacter, cut.longestUnit first head]
  have isUnit : ∀ character ∈ unit, isUnitCharacter character = true :=
    fun character mem => isUnitCharacter_iff.mpr (cut.isUnit character mem)
  rw [cut.parts]
  exact ⟨Text.takeWhile_run cut.isNumber stops, Text.dropWhile_run cut.isNumber stops,
    Text.takeWhile_run isUnit begins, Text.dropWhile_run isUnit begins⟩

end Cutting

/-! ## Reading one piece -/

section Piece

variable {input : String} {text number unit rest : List Char}

/-- One pass reads the first piece and leaves the rest. -/
theorem addSegments_of_cut (nonempty : text ≠ []) (cut : Cut text number unit rest)
    (total : Binary64) :
    addSegments input text total =
      match segmentSeconds input number unit with
      | .error error => .error error
      | .ok seconds => addSegments input rest (total.add seconds) := by
  obtain ⟨number_eq, after, unit_eq, rest_eq⟩ := cut.found
  cases text with
  | nil => exact absurd rfl nonempty
  | cons first text =>
      rw [addSegments]
      by_cases isNumber : isNumberCharacter first = true
      · rw [List.takeWhile_cons_of_pos isNumber] at number_eq
        rw [List.dropWhile_cons_of_pos isNumber] at after
        cases read : segmentSeconds input number unit <;>
          simp only [isNumber, if_true, after, unit_eq, rest_eq, number_eq, read]
      · rw [List.takeWhile_cons_of_neg isNumber] at number_eq
        subst number_eq
        simp only [isNumber, segmentSeconds, List.isEmpty_nil, if_true]
        rfl

theorem unitSeconds?_isSome_iff :
    (unitSeconds? unit).isSome ↔ ∃ known : TimeUnit, known.symbol = unit := by
  constructor
  · intro found
    unfold unitSeconds? at found
    split at found
    · exact ⟨.millisecond, (by assumption : unit = _).symm⟩
    split at found
    · exact ⟨.second, (by assumption : unit = _).symm⟩
    split at found
    · exact ⟨.minute, (by assumption : unit = _).symm⟩
    split at found
    · exact ⟨.hour, (by assumption : unit = _).symm⟩
    split at found
    · exact ⟨.day, (by assumption : unit = _).symm⟩
    · cases found
  · rintro ⟨known, rfl⟩
    cases known <;> rfl

theorem isNumberCharacter_of_isDigit {character : Char} (isDigit : Text.isDigit character = true) :
    isNumberCharacter character = true := by
  simp [isNumberCharacter, isDigit]

theorem isDigit_of_isNumberCharacter {character : Char}
    (allowed : isNumberCharacter character = true) (noPoint : character ≠ '.') :
    Text.isDigit character = true := by
  simpa [isNumberCharacter, noPoint] using allowed

theorem ne_point_of_isDigit {character : Char} (isDigit : Text.isDigit character = true) :
    character ≠ '.' := by
  rintro rfl
  cases isDigit

theorem isNumeral_of_digits {digits : List Char} (nonempty : digits ≠ [])
    (areDigits : ∀ digit ∈ digits, Text.isDigit digit = true) : IsNumeral digits where
  run := fun digit mem => isNumberCharacter_of_isDigit (areDigits digit mem)
  digit := by
    obtain ⟨digit, mem⟩ := List.exists_mem_of_ne_nil digits nonempty
    exact ⟨digit, mem, areDigits digit mem⟩
  point := by
    rw [List.count_eq_zero.mpr fun mem => ne_point_of_isDigit (areDigits '.' mem) rfl]
    exact Nat.zero_le 1

/-- With a point after its first digits, a run is a numeral if only digits follow. -/
theorem isNumeral_point_iff {whole fraction : List Char}
    (areDigits : ∀ digit ∈ whole, Text.isDigit digit = true)
    (run : ∀ character ∈ fraction, isNumberCharacter character = true) :
    IsNumeral (whole ++ '.' :: fraction) ↔
      (∀ digit ∈ fraction, Text.isDigit digit = true) ∧ whole ++ fraction ≠ [] := by
  have noPoint : whole.count '.' = 0 :=
    List.count_eq_zero.mpr fun mem => ne_point_of_isDigit (areDigits '.' mem) rfl
  constructor
  · intro isNumeral
    constructor
    · intro digit mem
      refine isDigit_of_isNumberCharacter (run digit mem) ?_
      rintro rfl
      have point := isNumeral.point
      have again := List.count_pos_iff.mpr mem
      rw [List.count_append, List.count_cons_self] at point
      omega
    · obtain ⟨digit, mem, isDigit⟩ := isNumeral.digit
      have other : digit ∈ whole ++ fraction := by
        simpa [ne_point_of_isDigit isDigit] using mem
      exact List.ne_nil_of_mem other
  · rintro ⟨moreDigits, nonempty⟩
    have allDigits : ∀ digit ∈ whole ++ fraction, Text.isDigit digit = true := fun digit mem =>
      (List.mem_append.mp mem).elim (areDigits digit) (moreDigits digit)
    have numeral := isNumeral_of_digits nonempty allDigits
    obtain ⟨digit, mem, isDigit⟩ := numeral.digit
    refine ⟨?_, ⟨digit, ?_, isDigit⟩, ?_⟩
    · intro character mem
      rcases List.mem_append.mp mem with mem | mem
      · exact isNumberCharacter_of_isDigit (areDigits character mem)
      · rcases List.mem_cons.mp mem with rfl | mem
        · rfl
        · exact run character mem
    · rw [List.mem_append, List.mem_cons]
      exact (List.mem_append.mp mem).imp_right Or.inr
    · rw [List.count_append, List.count_cons_self, noPoint,
        List.count_eq_zero.mpr fun mem => ne_point_of_isDigit (moreDigits '.' mem) rfl]

/-- A run of digits and points writes a number exactly if it is a numeral. -/
theorem number?_isSome_iff (run : ∀ character ∈ number, isNumberCharacter character = true) :
    (number? number).isSome ↔ IsNumeral number := by
  have parts : number.takeWhile Text.isDigit ++ number.dropWhile Text.isDigit = number :=
    List.takeWhile_append_dropWhile
  have digits : ∀ digit ∈ number.takeWhile Text.isDigit, Text.isDigit digit = true :=
    fun _ mem => List.mem_takeWhile_imp mem
  have stops : ∀ first ∈ (number.dropWhile Text.isDigit).head?, Text.isDigit first = false :=
    fun _ => Text.not_belongs_of_head?_dropWhile
  have decided : (number? number).isSome ↔
      (∀ digit ∈ (number.dropWhile Text.isDigit).drop 1, Text.isDigit digit = true) ∧
        number.takeWhile Text.isDigit ++ (number.dropWhile Text.isDigit).drop 1 ≠ [] := by
    simp [number?, imp_iff_not_or]
  rw [decided]
  generalize number.takeWhile Text.isDigit = whole at parts digits
  generalize number.dropWhile Text.isDigit = tail at parts stops
  subst parts
  cases tail with
  | nil =>
      simp only [List.drop_nil, List.append_nil, List.not_mem_nil, false_implies, implies_true,
        true_and]
      exact ⟨fun nonempty => isNumeral_of_digits nonempty digits,
        fun isNumeral => List.ne_nil_of_mem isNumeral.digit.choose_spec.1⟩
  | cons first fraction =>
      have isPoint : first = '.' := by
        by_contra other
        have isDigit := isDigit_of_isNumberCharacter (run first (by simp)) other
        rw [stops first rfl] at isDigit
        cases isDigit
      subst isPoint
      have fraction_run : ∀ character ∈ fraction, isNumberCharacter character = true :=
        fun character mem => run character (by simp [mem])
      exact (isNumeral_point_iff digits fraction_run).symm

/-- A piece is a segment, or there is an error that tells why not. -/
theorem segment_or_offends (input : String) (number unit : List Char) :
    (∃ segment : Segment, segment.number = number ∧ segment.unit.symbol = unit) ∨
      ∃ error, Offends input number unit error := by
  by_cases none : number = []
  · rw [none]
    exact Or.inr ⟨_, .noNumber unit⟩
  by_cases isNumeral : IsNumeral number
  · by_cases known : ∃ known : TimeUnit, known.symbol = unit
    · obtain ⟨known, rfl⟩ := known
      exact Or.inl ⟨⟨number, known, isNumeral⟩, rfl, rfl⟩
    by_cases empty : unit = []
    · rw [empty]
      exact Or.inr ⟨_, .noUnit isNumeral⟩
    · exact Or.inr ⟨_, .badUnit isNumeral empty (not_exists.mp known)⟩
  · exact Or.inr ⟨_, .badNumber none isNumeral unit⟩

theorem IsNumeral.ne_nil (isNumeral : IsNumeral number) : number ≠ [] :=
  List.ne_nil_of_mem isNumeral.digit.choose_spec.1

/-- The seconds of a numeral with any unit. -/
theorem segmentSeconds_of_isNumeral (input : String) (isNumeral : IsNumeral number)
    (unit : List Char) :
    ∃ value, number? number = some value ∧
      segmentSeconds input number unit =
        match unitSeconds? unit with
        | some seconds => .ok (value.mul seconds)
        | none =>
          if unit.isEmpty then .error (.missingUnit input)
          else .error (.unknownUnit (String.ofList unit) input) := by
  obtain ⟨value, isValue⟩ :=
    Option.isSome_iff_exists.mp ((number?_isSome_iff isNumeral.run).mpr isNumeral)
  have nonempty : ¬number.isEmpty = true := by simpa using isNumeral.ne_nil
  refine ⟨value, isValue, ?_⟩
  cases known : unitSeconds? unit <;>
    simp only [segmentSeconds, if_neg nonempty, isValue, known]

theorem segmentSeconds_segment (input : String) (segment : Segment) :
    ∃ value seconds, number? segment.number = some value ∧
      unitSeconds? segment.unit.symbol = some seconds ∧
      segmentSeconds input segment.number segment.unit.symbol = .ok (value.mul seconds) := by
  obtain ⟨value, isValue, read⟩ :=
    segmentSeconds_of_isNumeral input segment.isNumeral segment.unit.symbol
  obtain ⟨seconds, isKnown⟩ :=
    Option.isSome_iff_exists.mp (unitSeconds?_isSome_iff.mpr ⟨segment.unit, rfl⟩)
  refine ⟨value, seconds, isValue, isKnown, ?_⟩
  rw [read, isKnown]

theorem segmentSeconds_of_offends {error : DurationError}
    (run : ∀ character ∈ number, isNumberCharacter character = true)
    (offends : Offends input number unit error) :
    segmentSeconds input number unit = .error error := by
  cases offends with
  | noNumber => rfl
  | badNumber nonempty bad =>
      have noNumber : number? number = none := by
        rw [← Option.not_isSome_iff_eq_none, number?_isSome_iff run]
        exact bad
      rw [segmentSeconds, if_neg (by simpa using nonempty), noNumber]
  | noUnit isNumeral =>
      obtain ⟨value, -, read⟩ := segmentSeconds_of_isNumeral input isNumeral []
      exact read
  | badUnit isNumeral nonempty unknown =>
      obtain ⟨value, -, read⟩ := segmentSeconds_of_isNumeral input isNumeral unit
      have noUnit : unitSeconds? unit = none := by
        rw [← Option.not_isSome_iff_eq_none, unitSeconds?_isSome_iff]
        exact not_exists.mpr unknown
      rw [read, noUnit]
      exact if_neg (by simpa using nonempty)

end Piece

/-! ## Reading all pieces -/

section Pieces

variable {input : String} {text rest : List Char} {total : Binary64}

theorem TimeUnit.isNumberCharacter_of_mem_symbol {unit : TimeUnit} {character : Char}
    (mem : character ∈ unit.symbol) : isNumberCharacter character = false := by
  have none : unit.symbol.any isNumberCharacter = false := by cases unit <;> rfl
  simpa using List.any_eq_false.mp none character mem

theorem TimeUnit.symbol_ne_nil (unit : TimeUnit) : unit.symbol ≠ [] := by
  cases unit <;> decide

namespace Segment

/-- A segment is a piece of its own in front of the next one. -/
theorem cut (segment : Segment) (begins : BeginsPiece rest) :
    Cut (segment.text ++ rest) segment.number segment.unit.symbol rest where
  parts := List.append_assoc ..
  isNumber := segment.isNumeral.run
  isUnit := fun _ => TimeUnit.isNumberCharacter_of_mem_symbol
  longestNumber := fun none => absurd none segment.unit.symbol_ne_nil
  longestUnit := begins

theorem text_ne_nil (segment : Segment) : segment.text ≠ [] := by
  simp [text, segment.isNumeral.ne_nil]

theorem beginsPiece_written (segments : List Segment) : BeginsPiece (written segments) := by
  cases segments with
  | nil => nofun
  | cons segment segments =>
      intro first head
      have nonempty := segment.isNumeral.ne_nil
      cases number : segment.number with
      | nil => exact absurd number nonempty
      | cons digit more =>
          have isFirst : digit = first := by
            simpa [written, text, number] using head
          rw [← isFirst]
          exact segment.isNumeral.run digit (number ▸ List.mem_cons_self)

end Segment

/-- Reading adds the seconds of a segment and goes on behind it. -/
theorem addSegments_segment (input : String) (total : Binary64) (segment : Segment)
    (begins : BeginsPiece rest) :
    ∃ value seconds, number? segment.number = some value ∧
      unitSeconds? segment.unit.symbol = some seconds ∧
      addSegments input (segment.text ++ rest) total =
        addSegments input rest (total.add (value.mul seconds)) := by
  obtain ⟨value, seconds, isValue, isKnown, gives⟩ := segmentSeconds_segment input segment
  refine ⟨value, seconds, isValue, isKnown, ?_⟩
  rw [addSegments_of_cut (by simp [segment.text_ne_nil]) (segment.cut begins), gives]

theorem addSegments_written (segments : List Segment) (total : Binary64) :
    ∃ sum, addSegments input (Segment.written segments) total = .ok sum := by
  induction segments generalizing total with
  | nil => exact ⟨total, by rw [Segment.written, List.flatMap_nil, addSegments]⟩
  | cons segment segments ih =>
      obtain ⟨value, seconds, -, -, goesOn⟩ :=
        addSegments_segment input total segment (Segment.beginsPiece_written segments)
      rw [Segment.written, List.flatMap_cons]
      rw [Segment.written] at goesOn
      rw [goesOn]
      exact ih _

theorem addSegments_of_firstFault {error : DurationError} (fault : FirstFault input text error)
    (total : Binary64) : addSegments input text total = .error error := by
  induction fault generalizing total with
  | here nonempty cut offends =>
      rw [addSegments_of_cut nonempty cut, segmentSeconds_of_offends cut.isNumber offends]
  | later segment begins fault ih =>
      obtain ⟨value, seconds, -, -, goesOn⟩ := addSegments_segment input total segment begins
      rw [goesOn]
      exact ih _

theorem Cut.length_lt {number unit : List Char} (nonempty : text ≠ [])
    (cut : Cut text number unit rest) : rest.length < text.length := by
  have positive := List.length_pos_iff.mpr nonempty
  have length := congrArg List.length cut.parts
  simp only [List.length_append] at length
  by_cases none : unit = []
  · rw [cut.longestNumber none]
    exact positive
  · have := List.length_pos_iff.mpr none
    omega

/-- Reading ends after at most as many pieces as the text has characters. -/
theorem addSegments_ends (input : String) (text : List Char) (total : Binary64) :
    ∃ pieces ≤ text.length, Ends input pieces text total (addSegments input text total) := by
  by_cases nonempty : text = []
  · subst nonempty
    refine ⟨0, Nat.le_refl 0, ?_⟩
    rw [addSegments]
    exact .finished total
  have cut := cut_text text
  have shorter := cut.length_lt nonempty
  rw [addSegments_of_cut nonempty cut]
  split
  · rename_i error refuses
    exact ⟨1, by omega, .refused total nonempty cut refuses⟩
  · rename_i seconds gives
    obtain ⟨pieces, few, ends⟩ := addSegments_ends input
      ((text.dropWhile isNumberCharacter).dropWhile isUnitCharacter) (total.add seconds)
    exact ⟨pieces + 1, by omega, .next nonempty cut gives ends⟩
termination_by text.length

/-- Reading that comes to the end has read segments only. -/
theorem Ends.written {pieces : Nat} {result : Except DurationError Binary64}
    (ends : Ends input pieces text total result) :
    (∃ segments, text = Segment.written segments) ∨
      ∃ error, result = .error error ∧ FirstFault input text error := by
  induction ends with
  | finished total => exact Or.inl ⟨[], rfl⟩
  | @refused text number unit rest error total nonempty cut refuses =>
      refine Or.inr ⟨error, rfl, .here nonempty cut ?_⟩
      rcases segment_or_offends input number unit with ⟨segment, rfl, rfl⟩ | ⟨other, offends⟩
      · obtain ⟨_, _, -, -, gives⟩ := segmentSeconds_segment input segment
        cases gives.symm.trans refuses
      · cases (segmentSeconds_of_offends cut.isNumber offends).symm.trans refuses
        exact offends
  | @next text number unit rest total seconds pieces result nonempty cut gives more ih =>
      rcases segment_or_offends input number unit with ⟨segment, rfl, rfl⟩ | ⟨other, offends⟩
      · have parts : text = segment.text ++ rest := by
          rw [cut.parts, Segment.text, List.append_assoc]
        rcases ih with ⟨segments, rfl⟩ | ⟨error, refused, fault⟩
        · exact Or.inl ⟨segment :: segments, parts⟩
        · rw [parts]
          exact Or.inr ⟨error, refused, .later segment cut.longestUnit fault⟩
      · cases (segmentSeconds_of_offends cut.isNumber offends).symm.trans gives

/-- What was added up before does not matter for whether a text is read. -/
theorem addSegments_eq_ok_iff (input : String) (total : Binary64) :
    (∃ sum, addSegments input text total = .ok sum) ↔
      ∃ segments, text = Segment.written segments := by
  constructor
  · rintro ⟨sum, read⟩
    obtain ⟨pieces, -, ends⟩ := addSegments_ends input text total
    rw [read] at ends
    rcases ends.written with written | ⟨error, refused, -⟩
    · exact written
    · cases refused
  · rintro ⟨segments, rfl⟩
    exact addSegments_written segments total

theorem addSegments_eq_error_iff (input : String) (total : Binary64) {error : DurationError} :
    addSegments input text total = .error error ↔ FirstFault input text error := by
  constructor
  · intro refused
    obtain ⟨pieces, -, ends⟩ := addSegments_ends input text total
    rcases ends.written with ⟨segments, rfl⟩ | ⟨other, same, fault⟩
    · obtain ⟨sum, read⟩ := addSegments_written segments total
      cases read.symm.trans refused
    · cases same.symm.trans refused
      exact fault
  · exact fun fault => addSegments_of_firstFault fault total

end Pieces

/-! ## Durations -/

section Durations

variable {text : String} {error : DurationError}

theorem ofText_of_empty (empty : Text.trim text = "") : ofText text = .error .empty := by
  rw [ofText]
  exact if_pos empty

theorem ofText_of_zero (zero : Text.trim text = "0") : ofText text = .ok ⟨0⟩ := by
  rw [ofText, zero]
  rfl

/-- What a text that is neither empty nor a lone zero is read as. -/
theorem ofText_eq (nonempty : Text.trim text ≠ "") (notZero : Text.trim text ≠ "0") :
    ofText text =
      match addSegments (Text.trim text) (Text.trim text).toList (.finite 0 0) with
      | .error error => .error error
      | .ok seconds =>
        match ofSeconds? seconds with
        | some duration => .ok duration
        | none => .error (.outOfRange (Text.trim text)) := by
  cases read : addSegments (Text.trim text) (Text.trim text).toList (.finite 0 0) with
  | error error => simp only [ofText, if_neg nonempty, if_neg notZero, read]
  | ok seconds =>
      cases fits : ofSeconds? seconds <;>
        simp only [ofText, if_neg nonempty, if_neg notZero, read, fits]

theorem not_isWritten_nil : ¬IsWritten [] := by
  rintro ⟨segments, nonempty, written⟩
  obtain ⟨segment, mem⟩ := List.exists_mem_of_ne_nil segments nonempty
  have all := List.flatMap_eq_nil_iff.mp written.symm
  exact segment.text_ne_nil (all segment mem)

theorem isWritten_iff {text : List Char} (nonempty : text ≠ []) :
    IsWritten text ↔ ∃ segments, text = Segment.written segments := by
  constructor
  · rintro ⟨segments, -, written⟩
    exact ⟨segments, written⟩
  · rintro ⟨segments, rfl⟩
    refine ⟨segments, ?_, rfl⟩
    rintro rfl
    exact nonempty rfl

theorem FirstFault.ne_nil {input : String} {text : List Char}
    (fault : FirstFault input text error) : text ≠ [] := by
  cases fault with
  | here nonempty cut offends => exact nonempty
  | later segment begins fault => simp [segment.text_ne_nil]

theorem FirstFault.ne_of_piece {input : String} {text : List Char}
    (fault : FirstFault input text error) : error ≠ .empty ∧ error ≠ .outOfRange input := by
  induction fault with
  | here nonempty cut offends => cases offends <;> exact ⟨nofun, nofun⟩
  | later segment begins fault ih => exact ih

/-- A text is refused if there is nothing in it, or else for its first piece that is no segment. -/
theorem ofText_refuses_iff (inRange : error ≠ .outOfRange (Text.trim text)) :
    ofText text = .error error ↔
      Text.trim text = "" ∧ error = .empty ∨
        Text.trim text ≠ "0" ∧ FirstFault (Text.trim text) (Text.trim text).toList error := by
  by_cases empty : Text.trim text = ""
  · rw [ofText_of_empty empty]
    constructor
    · rintro ⟨⟩
      exact Or.inl ⟨empty, rfl⟩
    · rintro (⟨-, rfl⟩ | ⟨-, fault⟩)
      · rfl
      · exact absurd (by simp [empty]) fault.ne_nil
  by_cases zero : Text.trim text = "0"
  · rw [ofText_of_zero zero]
    simp [zero]
  simp only [empty, zero, false_and, false_or, ne_eq, not_false_eq_true, true_and]
  rw [ofText_eq empty zero, ← addSegments_eq_error_iff _ (.finite 0 0)]
  cases addSegments (Text.trim text) (Text.trim text).toList (.finite 0 0) with
  | error other => simp
  | ok seconds =>
      refine iff_of_false (fun same => ?_) nofun
      dsimp only at same
      split at same
      · cases same
      · cases same
        exact inRange rfl

/-- A text is read as a number of seconds exactly if it is a lone zero or a row of segments. -/
theorem ofText_reads_iff :
    (∃ duration, ofText text = .ok duration) ∨
        ofText text = .error (.outOfRange (Text.trim text)) ↔
      Text.trim text = "0" ∨ IsWritten (Text.trim text).toList := by
  by_cases empty : Text.trim text = ""
  · rw [ofText_of_empty empty, empty]
    exact iff_of_false (by simp) (by simpa using not_isWritten_nil)
  by_cases zero : Text.trim text = "0"
  · rw [ofText_of_zero zero]
    exact iff_of_true (Or.inl ⟨_, rfl⟩) (Or.inl zero)
  rw [isWritten_iff (by simpa using empty),
    ← addSegments_eq_ok_iff (Text.trim text) (.finite 0 0)]
  rw [ofText_eq empty zero]
  cases read : addSegments (Text.trim text) (Text.trim text).toList (.finite 0 0) with
  | error error =>
      have fault := ((addSegments_eq_error_iff _ _).mp read).ne_of_piece
      simp [zero, fault.2]
  | ok seconds =>
      refine iff_of_true ?_ (Or.inr ⟨seconds, rfl⟩)
      dsimp only
      cases ofSeconds? seconds with
      | none => exact Or.inr rfl
      | some duration => exact Or.inl ⟨duration, rfl⟩

end Durations

/--
Reading a text ends, after at most as many pieces as it has characters between its blank ends. It
gives a duration or one that is out of range exactly if this is a lone zero or a row of segments.
If there is nothing it says so, and every other text gives the error of its first piece that is no
segment.
-/
theorem ofText_follows_grammar (text : String) :
    let input := Text.trim text
    (∃ pieces ≤ input.toList.length, Ends input pieces input.toList (.finite 0 0)
      (addSegments input input.toList (.finite 0 0))) ∧
    ((∃ duration, ofText text = .ok duration) ∨ ofText text = .error (.outOfRange input) ↔
      input = "0" ∨ IsWritten input.toList) ∧
    ∀ error, error ≠ .outOfRange input →
      (ofText text = .error error ↔
        input = "" ∧ error = .empty ∨
          input ≠ "0" ∧ FirstFault input input.toList error) :=
  ⟨addSegments_ends .., ofText_reads_iff, fun _ => ofText_refuses_iff⟩

/-- Of two bad segments behind a good one, the first is told. -/
theorem firstBadSegment_told :
    DurationError.unknownUnit "x" "1h2x3y" ≠ .outOfRange (Text.trim " 1h2x3y ") ∧
      ofText " 1h2x3y " = .error (.unknownUnit "x" "1h2x3y") := by
  have trimmed : Text.trim " 1h2x3y " = "1h2x3y" := by decide +kernel
  have characters : "1h2x3y".toList = ['1', 'h', '2', 'x', '3', 'y'] := by decide +kernel
  have numeral (digit : Char) (isDigit : Text.isDigit digit = true) : IsNumeral [digit] :=
    isNumeral_of_digits (by simp) (by simpa using isDigit)
  have offends : Offends "1h2x3y" ['2'] ['x'] (.unknownUnit "x" "1h2x3y") :=
    .badUnit (numeral '2' rfl) nofun (by rintro (_ | _) <;> decide)
  have second : Cut ['2', 'x', '3', 'y'] ['2'] ['x'] ['3', 'y'] :=
    ⟨rfl, List.forall_mem_singleton.mpr rfl, List.forall_mem_singleton.mpr rfl, nofun,
      by rintro _ ⟨⟩; rfl⟩
  have fault : FirstFault "1h2x3y" "1h2x3y".toList (.unknownUnit "x" "1h2x3y") := by
    rw [characters]
    exact .later ⟨['1'], .hour, numeral '1' rfl⟩ (by rintro _ ⟨⟩; rfl) (.here nofun second offends)
  have told := (ofText_follows_grammar " 1h2x3y ").2.2 (.unknownUnit "x" "1h2x3y") nofun
  rw [trimmed] at told
  exact ⟨nofun, told.mpr (Or.inr ⟨by decide, fault⟩)⟩

end OrgAccess.Duration
