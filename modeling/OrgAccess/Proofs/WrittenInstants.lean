import OrgAccess.Proofs.CalendarDays
import OrgAccess.Proofs.JsonReading
import OrgAccess.Time.Rfc3339

/-!
# Written instants are read back

Every instant is read back from its RFC 3339 form: the year with or without a sign, the fraction of
a second in as many digits as it was given, and a leap second, which is written as a second 60.
Each reader is followed on the part that the writer made for it, whatever comes after.
-/

namespace OrgAccess

/-! ## Digits -/

namespace Text

theorem isDigit_of_mem_padded {width value : Nat} {digit : Char}
    (mem : digit ∈ padded width value) : isDigit digit = true := by
  rcases List.mem_append.mp mem with mem | mem
  · rw [List.eq_of_mem_replicate mem]
    rfl
  · exact Json.isDigit_of_mem_toDigits value digit mem

theorem padded_ne_nil (width value : Nat) : padded width value ≠ [] :=
  List.append_ne_nil_of_right_ne_nil _ Nat.toDigits_ne_nil

/-- Zeros on the left do not change the number that digits write. -/
theorem decimalValue_padded (width value : Nat) : decimalValue (padded width value) = value := by
  have zeros (count : Nat) : readDecimal (List.replicate count '0') 0 = 0 := by
    induction count with
    | zero => rfl
    | succ count ih => exact ih
  rw [decimalValue, padded, readDecimal, List.foldl_append]
  exact (congrArg _ (zeros _)).trans (Json.readDecimal_toDigits value)

theorem length_padded {width value : Nat} (positive : 0 < width) (small : value < 10 ^ width) :
    (padded width value).length = width := by
  have fits : (Nat.toDigits 10 value).length ≤ width :=
    (Nat.length_toDigits_le_iff (by decide) positive).mpr small
  simp only [padded, List.length_append, List.length_replicate]
  omega

theorem trimLeft_cons {first : Char} (notBlank : isBlank first = false) (rest : List Char) :
    trimLeft (first :: rest) = first :: rest := by
  apply trimLeft_eq_self
  rintro _ ⟨⟩
  exact notBlank

theorem trimLeft_padded (width value : Nat) (rest : List Char) :
    trimLeft (padded width value ++ rest) = padded width value ++ rest := by
  cases digits : padded width value with
  | nil => exact absurd digits (padded_ne_nil width value)
  | cons first more =>
      have notBlank := isBlank_of_visible (isVisible_of_isDigit
        (isDigit_of_mem_padded (digits ▸ List.mem_cons_self : first ∈ padded width value)))
      exact trimLeft_cons notBlank _

end Text

namespace Instant

/-- No digit comes next. -/
def EndsDigits (rest : List Char) : Prop :=
  ∀ next ∈ rest.head?, Text.isDigit next = false

theorem takeWhile_padded {width value : Nat} {rest : List Char} (ends : EndsDigits rest) :
    (Text.padded width value ++ rest).takeWhile Text.isDigit = Text.padded width value :=
  Text.takeWhile_run (fun _ mem => Text.isDigit_of_mem_padded mem) ends

theorem readDigits_padded {most : Option Nat} {width value : Nat} {rest : List Char}
    (fits : ∀ limit ∈ most, (Text.padded width value).length ≤ limit) (ends : EndsDigits rest) :
    readDigits most (Text.padded width value ++ rest) = .ok (value, rest) := by
  have taken : (most.map (Text.padded width value).take).getD (Text.padded width value) =
      Text.padded width value := by
    cases most with
    | none => rfl
    | some limit => exact List.take_of_length_le (fits limit rfl)
  have nonempty := Text.padded_ne_nil width value
  unfold readDigits
  split
  · rename_i isNil
    exact absurd (List.append_eq_nil_iff.mp isNil).1 nonempty
  · simp only [takeWhile_padded ends, taken, Text.decimalValue_padded, List.drop_left,
      List.isEmpty_iff, nonempty, if_false]

/-! ## Parts -/

theorem readPart_padded {least greatest value : Nat} {rest : List Char}
    (bounds : least ≤ value ∧ value ≤ greatest) (small : value < 100) (ends : EndsDigits rest) :
    readPart least greatest (Text.padded 2 value ++ rest) = .ok (value, rest) := by
  have length : (Text.padded 2 value).length = 2 := Text.length_padded (by decide) small
  have read : readDigits (some 2) (Text.padded 2 value ++ rest) = .ok (value, rest) :=
    readDigits_padded (fun limit isLimit => by cases isLimit; omega) ends
  rw [readPart, Text.trimLeft_padded, read]
  exact if_pos bounds

/-- Four digits with no sign are read as they stand. -/
theorem readYear_padded {count : Nat} (small : count ≤ 9999) {rest : List Char}
    (ends : EndsDigits rest) :
    readYear (Text.padded 4 count ++ rest) = .ok ((count : Int), rest) := by
  have length : (Text.padded 4 count).length = 4 := Text.length_padded (by decide) (by omega)
  have read : readDigits (some 4) (Text.padded 4 count ++ rest) = .ok (count, rest) :=
    readDigits_padded (fun limit isLimit => by cases isLimit; omega) ends
  have inRange : -0x80000000 ≤ (count : Int) ∧ (count : Int) < 0x80000000 := by omega
  rw [readYear, Text.trimLeft_padded]
  cases digits : Text.padded 4 count with
  | nil => exact absurd digits (Text.padded_ne_nil _ _)
  | cons first more =>
      -- The first character is a digit, so neither branch of a sign is taken.
      have isDigit : Text.isDigit first = true :=
        Text.isDigit_of_mem_padded (digits ▸ List.mem_cons_self)
      rw [digits] at read
      rw [List.cons_append] at read ⊢
      split
      · rename_i same
        exact absurd (List.cons.inj same).1 (Json.ne_of_isDigit isDigit rfl)
      · rename_i same
        exact absurd (List.cons.inj same).1 (Json.ne_of_isDigit isDigit rfl)
      · simp only [read, Except.map, bind, Except.bind]
        exact if_pos inRange

/-- After a sign there is no limit on the digits but the range of the year they give. -/
theorem readYear_signed {year : Int} (small : -0x80000000 ≤ year ∧ year < 0x80000000)
    {rest : List Char} (ends : EndsDigits rest) :
    readYear ((if year < 0 then '-' else '+') :: Text.padded 4 year.natAbs ++ rest) =
      .ok (year, rest) := by
  have read : readDigits none (Text.padded 4 year.natAbs ++ rest) = .ok (year.natAbs, rest) :=
    readDigits_padded (fun limit isLimit => nomatch isLimit) ends
  split
  · have back : -(year.natAbs : Int) = year := by omega
    simp only [readYear, List.cons_append, read,
      Text.trimLeft_cons (by decide : Text.isBlank '-' = false), Except.map, bind, Except.bind,
      back]
    exact if_pos small
  · have back : (year.natAbs : Int) = year := by omega
    simp only [readYear, List.cons_append, read,
      Text.trimLeft_cons (by decide : Text.isBlank '+' = false), Except.map, bind, Except.bind,
      back]
    exact if_pos small

theorem readYear_renderYear {year : Int} (small : -0x80000000 ≤ year ∧ year < 0x80000000)
    {rest : List Char} (ends : EndsDigits rest) :
    readYear (renderYear year ++ rest) = .ok (year, rest) := by
  unfold renderYear
  split
  · rename_i plain
    have back : (year.toNat : Int) = year := Int.toNat_of_nonneg plain.1
    rw [readYear_padded (by omega) ends, back]
  · exact readYear_signed small ends

theorem readFraction_renderFraction {nanos : Nat} (small : nanos < 1000000000) {rest : List Char}
    (ends : EndsDigits rest) (noPoint : ∀ next ∈ rest.head?, next ≠ '.') :
    readFraction (renderFraction nanos ++ rest) = .ok (nanos, rest) := by
  have digits {width value : Nat} (positive : 0 < width) (least : width ≤ 9)
      (small : value < 10 ^ width) (back : value * Nat.pow 10 (9 - width) = nanos) :
      readFraction ('.' :: Text.padded width value ++ rest) = .ok (nanos, rest) := by
    have read : readDigits none (Text.padded width value ++ rest) = .ok (value, rest) :=
      readDigits_padded (fun limit isLimit => nomatch isLimit) ends
    have length := Text.length_padded positive small
    have taken : (Text.padded width value).take 9 = Text.padded width value :=
      List.take_of_length_le (by omega)
    simp only [readFraction, List.cons_append, read, takeWhile_padded ends, taken, length,
      Text.decimalValue_padded, back]
    rfl
  unfold renderFraction
  split
  · rename_i isZero
    rw [List.nil_append, isZero, readFraction]
    intro rest' same
    exact noPoint '.' (by rw [same]; rfl) rfl
  split
  · have back : nanos / 1000000 * 10 ^ 6 = nanos := by omega
    exact digits (by decide) (by decide) (by omega) back
  split
  · have back : nanos / 1000 * 10 ^ 3 = nanos := by omega
    exact digits (by decide) (by decide) (by omega) back
  · exact digits (by decide) (by decide) small (Nat.mul_one nanos)

theorem endsDigits_cons {next : Char} (notDigit : Text.isDigit next = false) (rest : List Char) :
    EndsDigits (next :: rest) := by
  rintro _ ⟨⟩
  exact notDigit

theorem endsDigits_renderFraction (nanos : Nat) {rest : List Char} (ends : EndsDigits rest) :
    EndsDigits (renderFraction nanos ++ rest) := by
  unfold renderFraction
  split
  · exact ends
  split
  · exact endsDigits_cons rfl _
  split
  · exact endsDigits_cons rfl _
  · exact endsDigits_cons rfl _

theorem readMark_cons {mark : Char} (notBlank : Text.isBlank mark = false) (rest : List Char) :
    readMark mark (mark :: rest) = .ok rest := by
  rw [readMark, Text.trimLeft_cons notBlank]
  exact if_pos rfl

/-! ## Whole texts -/

/-- The written parts of a date and a time of day are read as these parts in UTC. -/
theorem ofRfc3339_parts {date : Calendar.Date} {hour minute second nanos : Nat}
    (years : -262143 ≤ date.year ∧ date.year ≤ 262142) (months : 1 ≤ date.month ∧ date.month ≤ 12)
    (days : 1 ≤ date.day ∧ date.day ≤ 31) (hours : hour ≤ 23) (minutes : minute ≤ 59)
    (seconds : second ≤ 60) (fits : nanos < 1000000000) :
    ofRfc3339 (String.ofList (renderYear date.year ++ '-' :: Text.padded 2 date.month ++
      '-' :: Text.padded 2 date.day ++ 'T' :: Text.padded 2 hour ++ ':' :: Text.padded 2 minute ++
      ':' :: Text.padded 2 second ++ renderFraction nanos ++ ['Z'])) =
      ofParts date hour minute second nanos 0 := by
  have year (rest : List Char) : readYear (renderYear date.year ++ '-' :: rest) =
      .ok (date.year, '-' :: rest) :=
    readYear_renderYear (by omega) (endsDigits_cons rfl _)
  have part {least greatest value : Nat} (bounds : least ≤ value ∧ value ≤ greatest)
      (small : greatest < 100) (next : Char) (notDigit : Text.isDigit next = false)
      (rest : List Char) : readPart least greatest (Text.padded 2 value ++ next :: rest) =
        .ok (value, next :: rest) :=
    readPart_padded bounds (by omega) (endsDigits_cons notDigit _)
  have lastPart : readPart 0 60 (Text.padded 2 second ++ (renderFraction nanos ++ ['Z'])) =
      .ok (second, renderFraction nanos ++ ['Z']) :=
    readPart_padded ⟨Nat.zero_le _, seconds⟩ (by omega)
      (endsDigits_renderFraction nanos (endsDigits_cons rfl _))
  have fraction : readFraction (renderFraction nanos ++ ['Z']) = .ok (nanos, ['Z']) :=
    readFraction_renderFraction fits (endsDigits_cons rfl _) (by rintro _ ⟨⟩; decide)
  have offset : readOffset (Text.trimLeft ['Z']) = .ok (0, []) := rfl
  have dash (rest : List Char) : readMark '-' ('-' :: rest) = .ok rest := readMark_cons rfl rest
  have colon (rest : List Char) : readMark ':' (':' :: rest) = .ok rest := readMark_cons rfl rest
  simp only [ofRfc3339, String.toList_ofList, List.append_assoc, List.cons_append, year, dash,
    part months (by decide) '-' rfl, part days (by decide) 'T' rfl, colon, readSeparator,
    part ⟨Nat.zero_le _, hours⟩ (by decide) ':' rfl,
    part ⟨Nat.zero_le _, minutes⟩ (by decide) ':' rfl, lastPart, fraction, offset, bind,
    Except.bind]
  rfl

/-- A valid date and a time of day in UTC make the instant that is their count of seconds. -/
theorem ofParts_of_seconds {date : Calendar.Date} {clock second nanos : Nat} {instant : Instant}
    (valid : date.isValid = true) (years : -262143 ≤ date.year ∧ date.year ≤ 262142)
    (counted : instant.seconds = date.toDays * 86400 + clock)
    (isPart : if second = 60 then clock % 60 = 59 ∧ instant.nanos = nanos + 1000000000
      else clock % 60 = second ∧ instant.nanos = nanos) :
    ofParts date (clock / 3600) (clock / 60 % 60) second nanos 0 = .ok instant := by
  have accepted : ¬((!date.isValid || decide (date.year < -262143) ||
      decide (date.year > 262142)) = true) := by
    simp only [valid, Bool.not_true, Bool.false_or, Bool.or_eq_true, decide_eq_true_eq]
    omega
  have made {second' nanos' : Nat} (seconds : clock % 60 = second')
      (nanos_eq : instant.nanos = nanos') :
      ofUnix? (date.toDays * 86400 +
        ((clock / 3600) * 3600 + (clock / 60 % 60) * 60 + second' : Nat) - 0) nanos' =
        some instant :=
    ofUnix?_eq_some_iff.mpr ⟨by omega, nanos_eq⟩
  rw [ofParts, if_neg accepted, if_neg (by decide)]
  split at isPart
  · rename_i isLeap
    simp only [isLeap, if_true, made isPart.1 isPart.2]
  · rename_i isPlain
    simp only [isPlain, if_false, made isPart.1 isPart.2]

/-- Every instant is read back from its written form. -/
theorem ofRfc3339_toRfc3339 (instant : Instant) : ofRfc3339 instant.toRfc3339 = .ok instant := by
  have inRange := instant.inRange
  have nanosBound := instant.nanosBound
  obtain ⟨days, days_eq⟩ : ∃ days, days = instant.seconds / 86400 := ⟨_, rfl⟩
  obtain ⟨clock, clock_eq⟩ : ∃ clock, clock = (instant.seconds % 86400).toNat := ⟨_, rfl⟩
  have onDay : -96465292 ≤ days ∧ days ≤ 95026236 := by omega
  have years := Calendar.year_ofDays onDay
  have valid := Calendar.isValid_ofDays days
  have counted : instant.seconds = (Calendar.Date.ofDays days).toDays * 86400 + clock := by
    rw [Calendar.toDays_ofDays]
    omega
  have ⟨months, daysOfMonth⟩ : (1 ≤ (Calendar.Date.ofDays days).month ∧
      (Calendar.Date.ofDays days).month ≤ 12) ∧
      (1 ≤ (Calendar.Date.ofDays days).day ∧ (Calendar.Date.ofDays days).day ≤ 31) :=
    Calendar.bounds_of_isValid valid
  simp only [toRfc3339, render, ← days_eq, ← clock_eq]
  rw [ofRfc3339_parts years months daysOfMonth (by omega) (by omega)]
  · apply ofParts_of_seconds valid years counted
    split <;> split <;> omega
  · split <;> omega
  · split <;> omega

end Instant

end OrgAccess
