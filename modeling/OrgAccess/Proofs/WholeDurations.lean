import OrgAccess.Proofs.DurationGrammar
import OrgAccess.Proofs.TokenReading
import OrgAccess.Proofs.WholeNumbers
import OrgAccess.Proofs.WrittenInstants

/-!
# Durations in whole seconds

A duration that is written in whole numbers of seconds, minutes, hours and days is read without any
rounding as long as it has fewer than `2 ^ 53` seconds: each segment is a whole number in floating
point, so is each sum of segments, and the last sum becomes as many nanoseconds exactly. So the
order of the segments does not matter.
-/

namespace OrgAccess.Duration

/-! ## Segments of whole seconds -/

/-- How many whole seconds a unit has; there is none in a millisecond. -/
def TimeUnit.wholeSeconds : TimeUnit → Nat
  | millisecond => 0
  | second => 1
  | minute => 60
  | hour => 3600
  | day => 86400

/-- A whole number, with zeros on its left up to some width, and a unit of whole seconds. -/
structure WholeSegment where
  width : Nat
  value : Nat
  unit : TimeUnit
  isWhole : unit ≠ .millisecond

namespace WholeSegment

/-- The segment in which the value is written with leading zeros up to its width. -/
def toSegment (segment : WholeSegment) : Segment where
  number := Text.padded segment.width segment.value
  unit := segment.unit
  isNumeral := isNumeral_of_digits (Text.padded_ne_nil _ _) fun _ => Text.isDigit_of_mem_padded

/-- How many seconds the segment stands for. -/
def seconds (segment : WholeSegment) : Nat :=
  segment.value * segment.unit.wholeSeconds

/-- The seconds of all segments together. -/
def total (segments : List WholeSegment) : Nat :=
  (segments.map seconds).sum

/-- The segments one after the other. -/
def written (segments : List WholeSegment) : String :=
  String.ofList (Segment.written (segments.map toSegment))

end WholeSegment

/-! ## Exact sums -/

section Sums

variable {segment : WholeSegment}

theorem unitSeconds?_wholeSeconds {unit : TimeUnit} (isWhole : unit ≠ .millisecond) :
    ∃ seconds, unitSeconds? unit.symbol = some seconds ∧ seconds.IsWhole unit.wholeSeconds := by
  cases unit with
  | millisecond => exact absurd rfl isWhole
  | second => exact ⟨_, rfl, Binary64.isWhole_ofNat (by decide)⟩
  | minute => exact ⟨_, rfl, Binary64.isWhole_ofNat (by decide)⟩
  | hour => exact ⟨_, rfl, Binary64.isWhole_ofNat (by decide)⟩
  | day => exact ⟨_, rfl, Binary64.isWhole_ofNat (by decide)⟩

theorem TimeUnit.wholeSeconds_pos {unit : TimeUnit} (isWhole : unit ≠ .millisecond) :
    0 < unit.wholeSeconds := by
  cases unit with
  | millisecond => exact absurd rfl isWhole
  | _ => decide

/-- Digits without a point write a whole number. -/
theorem number?_padded {value : Nat} (width : Nat) (small : value < 2 ^ 53) :
    ∃ number, number? (Text.padded width value) = some number ∧ number.IsWhole value := by
  have digits : ∀ digit ∈ Text.padded width value, Text.isDigit digit = true :=
    fun _ => Text.isDigit_of_mem_padded
  have all : (Text.padded width value).takeWhile Text.isDigit = Text.padded width value :=
    List.takeWhile_eq_self_iff.mpr digits
  have none : (Text.padded width value).dropWhile Text.isDigit = [] :=
    List.dropWhile_eq_nil_iff.mpr digits
  have nonempty := Text.padded_ne_nil width value
  refine ⟨Binary64.ofNat value, ?_, Binary64.isWhole_ofNat small⟩
  simp [number?, all, none, nonempty, Text.decimalValue_padded, Binary64.ofDecimal, Binary64.ofNat]

/-- Reading adds the seconds of a segment exactly. -/
theorem addSegments_wholeSegment (input : String) {rest : List Char} (begins : BeginsPiece rest)
    {sum : Nat} {total : Binary64} (isSum : total.IsWhole sum)
    (small : sum + segment.seconds < 2 ^ 53) :
    ∃ next : Binary64, next.IsWhole (sum + segment.seconds) ∧
      addSegments input (segment.toSegment.text ++ rest) total = addSegments input rest next := by
  have unit_pos := TimeUnit.wholeSeconds_pos segment.isWhole
  have value_le : segment.value ≤ segment.seconds := Nat.le_mul_of_pos_right _ unit_pos
  obtain ⟨number, isNumber, exactNumber⟩ :=
    number?_padded segment.width (show segment.value < 2 ^ 53 by omega)
  obtain ⟨unit, isUnit, exactUnit⟩ := unitSeconds?_wholeSeconds segment.isWhole
  obtain ⟨value, seconds, isValue, isSeconds, goesOn⟩ :=
    addSegments_segment input total segment.toSegment begins
  obtain rfl : value = number := Option.some.inj (isValue.symm.trans isNumber)
  obtain rfl : seconds = unit := Option.some.inj (isSeconds.symm.trans isUnit)
  have product : (value.mul seconds).IsWhole segment.seconds :=
    exactNumber.mul exactUnit (by unfold WholeSegment.seconds at small; omega)
  exact ⟨_, isSum.add product small, goesOn⟩

theorem addSegments_wholeSegments (input : String) (segments : List WholeSegment) {sum : Nat}
    {total : Binary64} (isSum : total.IsWhole sum)
    (small : sum + WholeSegment.total segments < 2 ^ 53) :
    ∃ last : Binary64, last.IsWhole (sum + WholeSegment.total segments) ∧
      addSegments input (Segment.written (segments.map WholeSegment.toSegment)) total =
        .ok last := by
  induction segments generalizing sum total with
  | nil =>
      refine ⟨total, isSum, ?_⟩
      rw [List.map_nil, Segment.written, List.flatMap_nil, addSegments]
  | cons segment segments ih =>
      have sums : sum + WholeSegment.total (segment :: segments) =
          sum + segment.seconds + WholeSegment.total segments := by
        simp [WholeSegment.total, Nat.add_assoc]
      rw [sums] at small ⊢
      obtain ⟨next, isNext, goesOn⟩ := addSegments_wholeSegment input
        (Segment.beginsPiece_written (segments.map WholeSegment.toSegment)) isSum
        (Nat.lt_of_le_of_lt (Nat.le_add_right _ _) small)
      obtain ⟨last, isLast, read⟩ := ih isNext small
      refine ⟨last, isLast, ?_⟩
      rw [List.map_cons, Segment.written, List.flatMap_cons]
      exact goesOn.trans read

end Sums

/-- A whole number of seconds becomes as many nanoseconds. -/
theorem ofSeconds?_of_isWhole {number : Binary64} {value : Nat} (isWhole : number.IsWhole value)
    (small : value < 2 ^ 64) : ofSeconds? number = some ⟨value * 1000000000⟩ := by
  obtain ⟨mantissa, exponent, rfl, exact⟩ := isWhole
  have positive := Binary64.toQuotient_pos mantissa exponent
  have inRange : (Binary64.toQuotient mantissa exponent).1 <
      0x10000000000000000 * (Binary64.toQuotient mantissa exponent).2 := by
    rw [exact]
    exact Nat.mul_lt_mul_of_pos_right small positive
  simp only [ofSeconds?, if_pos inRange]
  rw [exact, Nat.mul_right_comm, roundDiv_mul _ positive]

/-! ## Written durations -/

theorem TimeUnit.isVisible_of_mem_symbol {unit : TimeUnit} {character : Char}
    (mem : character ∈ unit.symbol) : Text.IsVisible character := by
  have all : unit.symbol.all fun character => decide (Text.IsVisible character) := by
    cases unit <;> rfl
  simpa using List.all_eq_true.mp all character mem

theorem isVisible_of_isNumberCharacter {character : Char}
    (isNumber : isNumberCharacter character = true) : Text.IsVisible character := by
  simp only [isNumberCharacter, Bool.or_eq_true, beq_iff_eq] at isNumber
  rcases isNumber with isDigit | rfl
  · exact Text.isVisible_of_isDigit isDigit
  · decide

/-- Segments have no blank ends. -/
theorem trim_written (segments : List Segment) :
    Text.trim (String.ofList (Segment.written segments)) =
      String.ofList (Segment.written segments) := by
  apply Text.trim_of_visible
  intro character mem
  rw [String.toList_ofList] at mem
  obtain ⟨segment, -, mem⟩ := List.mem_flatMap.mp mem
  rcases List.mem_append.mp mem with mem | mem
  · exact isVisible_of_isNumberCharacter (segment.isNumeral.run character mem)
  · exact TimeUnit.isVisible_of_mem_symbol mem

/-- Segments are longer than a lone zero. -/
theorem length_written {segments : List Segment} (nonempty : segments ≠ []) :
    2 ≤ (Segment.written segments).length := by
  obtain ⟨segment, more, rfl⟩ := List.exists_cons_of_ne_nil nonempty
  have number := List.length_pos_iff.mpr segment.isNumeral.ne_nil
  have unit := List.length_pos_iff.mpr segment.unit.symbol_ne_nil
  simp only [Segment.written, List.flatMap_cons, List.length_append, Segment.text]
  omega

theorem ofText_written {segments : List Segment} (nonempty : segments ≠ []) {sum : Binary64}
    (read : addSegments (String.ofList (Segment.written segments)) (Segment.written segments)
      (.finite 0 0) = .ok sum) {duration : Duration} (fits : ofSeconds? sum = some duration) :
    ofText (String.ofList (Segment.written segments)) = .ok duration := by
  have long := length_written nonempty
  have trimmed := trim_written segments
  have notEmpty : Text.trim (String.ofList (Segment.written segments)) ≠ "" := by
    intro same
    rw [trimmed, String.ofList_eq_empty_iff] at same
    simp [same] at long
  have notZero : Text.trim (String.ofList (Segment.written segments)) ≠ "0" := by
    intro same
    rw [trimmed, ← String.toList_inj, String.toList_ofList] at same
    simp [same] at long
  rw [ofText_eq notEmpty notZero, trimmed, String.toList_ofList, read]
  simp only [fits]

/--
A row of whole numbers of seconds, minutes, hours and days with fewer than `2 ^ 53` seconds in all
is read as exactly that many seconds, in whatever order the segments stand.
-/
theorem whole_durations_exact {segments : List WholeSegment} (nonempty : segments ≠ [])
    (small : WholeSegment.total segments < 2 ^ 53) :
    (∃ duration, ofText (WholeSegment.written segments) = .ok duration ∧
      duration.seconds = WholeSegment.total segments ∧ duration.subsecondNanos = 0) ∧
    ∀ other : List WholeSegment, other.Perm segments →
      ofText (WholeSegment.written other) = ofText (WholeSegment.written segments) := by
  have exact (order : List WholeSegment) (same : order.Perm segments) :
      ofText (WholeSegment.written order) = .ok ⟨WholeSegment.total segments * 1000000000⟩ := by
    have total : WholeSegment.total order = WholeSegment.total segments :=
      (same.map WholeSegment.seconds).sum_nat
    have order_nonempty : order.map WholeSegment.toSegment ≠ [] := by
      rw [ne_eq, List.map_eq_nil_iff]
      rintro rfl
      exact nonempty same.nil_eq.symm
    obtain ⟨sum, isSum, read⟩ := addSegments_wholeSegments (WholeSegment.written order) order
      Binary64.isWhole_zero (by omega)
    rw [total, Nat.zero_add] at isSum
    exact ofText_written order_nonempty read (ofSeconds?_of_isWhole isSum (by omega))
  refine ⟨⟨_, exact segments (.refl _), ?_, ?_⟩, fun other same => ?_⟩
  · exact Nat.mul_div_cancel _ (by decide)
  · exact Nat.mul_mod_left ..
  · rw [exact other same, exact segments (.refl _)]

/-- The same time written in two orders, once with zeros on the left. -/
theorem twoOrders_read_alike :
    let day : WholeSegment := ⟨0, 7, .day, nofun⟩
    let minutes : WholeSegment := ⟨3, 90, .minute, nofun⟩
    [day, minutes] ≠ [] ∧ WholeSegment.total [day, minutes] < 2 ^ 53 ∧
      WholeSegment.written [minutes, day] = "090m7d" ∧
      ofText "090m7d" = ofText "7d090m" ∧
      ∃ duration, ofText "7d090m" = .ok duration ∧ duration.seconds = 610200 := by
  intro day minutes
  have nonempty : [day, minutes] ≠ [] := nofun
  have sum : WholeSegment.total [day, minutes] = 610200 := by
    simp [WholeSegment.total, WholeSegment.seconds, TimeUnit.wholeSeconds, day, minutes]
  have small : WholeSegment.total [day, minutes] < 2 ^ 53 := by
    rw [sum]
    norm_num
  have forwards : WholeSegment.written [day, minutes] = "7d090m" := by decide +kernel
  have backwards : WholeSegment.written [minutes, day] = "090m7d" := by decide +kernel
  obtain ⟨⟨duration, read, seconds, -⟩, anyOrder⟩ := whole_durations_exact nonempty small
  have alike := anyOrder [minutes, day] (.swap ..)
  rw [forwards] at read alike
  rw [backwards] at alike
  exact ⟨nonempty, small, backwards, alike, duration, read, seconds.trans sum⟩

end OrgAccess.Duration
