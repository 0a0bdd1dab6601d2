import Mathlib.Data.List.TakeWhile
import OrgAccess.Text.Blank
import OrgAccess.Text.Decimal
import OrgAccess.Text.Fields

/-!
# Pieces of a text

What is found in a text is told by what the text is made of: a run of items of one kind ends before
the first item of another kind, trimming finds what stands between the blank characters at the two
ends (`Text.IsCore`), and the fields are the only cut of a text at its separators
(`Text.fields_eq_iff`).
-/

namespace OrgAccess.Text

/-! ## Runs -/

section Runs

variable {Item : Type} {belongs : Item → Bool} {run rest : List Item}

/-- A run is taken whole and no more if the next item is none of it. -/
theorem takeWhile_run (isRun : ∀ item ∈ run, belongs item = true)
    (stops : ∀ next ∈ rest.head?, belongs next = false) :
    (run ++ rest).takeWhile belongs = run := by
  rw [List.takeWhile_append_of_pos isRun]
  cases rest with
  | nil => simp
  | cons next rest => simp [stops next rfl]

theorem dropWhile_run (isRun : ∀ item ∈ run, belongs item = true)
    (stops : ∀ next ∈ rest.head?, belongs next = false) :
    (run ++ rest).dropWhile belongs = rest := by
  rw [List.dropWhile_append_of_pos isRun]
  cases rest with
  | nil => rfl
  | cons next rest => simp [stops next rfl]

theorem not_belongs_of_head?_dropWhile {items : List Item} {first : Item}
    (head : first ∈ (items.dropWhile belongs).head?) : belongs first = false := by
  have stops := List.head?_dropWhile_not belongs items
  rw [Option.mem_def.mp head] at stops
  exact stops

end Runs

/-! ## Trimming -/

section Trimming

variable {text core : List Char}

/-- What stands between the blank characters at the two ends of a piece. -/
structure IsCore (core piece : List Char) : Prop where
  surrounded : ∃ before after, piece = before ++ core ++ after ∧
    (∀ character ∈ before, isBlank character = true) ∧
    ∀ character ∈ after, isBlank character = true
  first : ∀ character ∈ core.head?, isBlank character = false
  last : ∀ character ∈ core.getLast?, isBlank character = false

theorem trimLeft_append {before : List Char}
    (blank : ∀ character ∈ before, isBlank character = true)
    (first : ∀ character ∈ text.head?, isBlank character = false) :
    trimLeft (before ++ text) = text :=
  dropWhile_run blank first

theorem trimLeft_eq_self (first : ∀ character ∈ text.head?, isBlank character = false) :
    trimLeft text = text :=
  trimLeft_append (List.forall_mem_nil _) first

theorem head_trimLeft : ∀ character ∈ (trimLeft text).head?, isBlank character = false :=
  fun _ => not_belongs_of_head?_dropWhile

theorem exists_blank_append_trimLeft (text : List Char) :
    ∃ before, text = before ++ trimLeft text ∧
      ∀ character ∈ before, isBlank character = true :=
  ⟨text.takeWhile isBlank, List.takeWhile_append_dropWhile.symm,
    List.all_eq_true.mp List.all_takeWhile⟩

/-- Trimming finds what stands between the blank characters at the ends, and nothing else does. -/
theorem toList_trim_eq_iff {text : String} :
    (trim text).toList = core ↔ IsCore core text.toList := by
  rw [trim, String.toList_ofList, trimRight]
  constructor
  · intro trimmed
    obtain ⟨before, cut, blank_before⟩ := exists_blank_append_trimLeft text.toList
    obtain ⟨after, cut_again, blank_after⟩ :=
      exists_blank_append_trimLeft (trimLeft text.toList).reverse
    have whole : trimLeft text.toList = core ++ after.reverse := by
      rw [← trimmed, ← List.reverse_append, ← List.reverse_eq_iff]
      exact cut_again
    refine ⟨⟨before, after.reverse, ?_, blank_before, ?_⟩, ?_, ?_⟩
    · rw [List.append_assoc, ← whole]
      exact cut
    · exact fun character mem => blank_after character (List.mem_reverse.mp mem)
    · intro character isFirst
      refine @head_trimLeft text.toList character ?_
      rw [whole, List.head?_append, Option.mem_def.mp isFirst]
      rfl
    · intro character isLast
      rw [← trimmed, List.getLast?_reverse] at isLast
      exact head_trimLeft character isLast
  · rintro ⟨⟨before, after, surrounded, blank_before, blank_after⟩, first, last⟩
    rw [surrounded, List.append_assoc]
    cases core with
    | nil =>
        have none : trimLeft (before ++ after ++ []) = [] :=
          trimLeft_append (List.forall_mem_append.mpr ⟨blank_before, blank_after⟩) nofun
        rw [List.append_nil] at none
        rw [List.nil_append, none]
        rfl
    | cons character rest =>
        have left : trimLeft (before ++ (character :: rest ++ after)) =
            character :: rest ++ after := trimLeft_append blank_before first
        have right : trimLeft (after.reverse ++ (character :: rest).reverse) =
            (character :: rest).reverse :=
          trimLeft_append (fun other mem => blank_after other (List.mem_reverse.mp mem))
            (by simpa only [List.head?_reverse] using last)
        change (trimLeft (trimLeft (before ++ (character :: rest ++ after))).reverse).reverse = _
        rw [left, List.reverse_append, right, List.reverse_reverse]

end Trimming

/-! ## Visible characters -/

/-- A visible character of ASCII. -/
def IsVisible (character : Char) : Prop :=
  0x20 < character.toNat ∧ character.toNat < 0x7F

instance (character : Char) : Decidable (IsVisible character) :=
  inferInstanceAs (Decidable (_ ∧ _))

theorem isBlank_of_visible {character : Char} (visible : IsVisible character) :
    isBlank character = false := by
  rcases visible with ⟨above, below⟩
  simp only [isBlank, Bool.or_eq_false_iff, Bool.and_eq_false_iff, decide_eq_false_iff_not,
    beq_eq_false_iff_ne]
  omega

theorem isVisible_of_isDigit {digit : Char} (digits : isDigit digit = true) : IsVisible digit := by
  simp only [isDigit, Bool.and_eq_true, decide_eq_true_eq] at digits
  have bounds : 48 ≤ digit.toNat ∧ digit.toNat ≤ 57 := digits
  exact ⟨by omega, by omega⟩

/-- Trimming keeps a text of visible characters. -/
theorem trim_of_visible {text : String}
    (visible : ∀ character ∈ text.toList, IsVisible character) : trim text = text := by
  have notBlank : ∀ character ∈ text.toList, isBlank character = false :=
    fun character mem => isBlank_of_visible (visible character mem)
  rw [← String.toList_inj, toList_trim_eq_iff]
  exact {
    surrounded := ⟨[], [], (List.append_nil _).symm, nofun, nofun⟩
    first := fun character isFirst => notBlank character (List.mem_of_mem_head? isFirst)
    last := fun character isLast => notBlank character (List.mem_of_mem_getLast? isLast) }

/-! ## Fields -/

section Fields

variable {separator : Char} {text field piece rest : List Char}

theorem fieldsFrom_append (absent : separator ∉ field) (current : List Char) :
    fieldsFrom separator current (field ++ separator :: rest) =
      (current.reverse ++ field) :: fields separator rest := by
  induction field generalizing current with
  | nil => simp [fieldsFrom, fields]
  | cons character field ih =>
      rw [List.mem_cons, not_or] at absent
      rw [List.cons_append, fieldsFrom, if_neg (Ne.symm absent.1), ih absent.2]
      simp

/-- Fields that hold no separator are told apart again after they were joined. -/
theorem fields_joinFields {parts : List (List Char)} (nonempty : parts ≠ [])
    (absent : ∀ part ∈ parts, separator ∉ part) :
    fields separator (joinFields separator parts) = parts := by
  induction parts with
  | nil => exact absurd rfl nonempty
  | cons first more ih =>
      have first_absent := absent first List.mem_cons_self
      cases more with
      | nil => exact fieldsFrom_of_notMem first_absent []
      | cons second more =>
          rw [joinFields, fields, fieldsFrom_append first_absent, ih (by simp)]
          · rfl
          · exact fun part mem => absent part (List.mem_cons_of_mem _ mem)
          · simp

theorem notMem_of_mem_fieldsFrom {current : List Char} (absent : separator ∉ current)
    (mem : piece ∈ fieldsFrom separator current text) : separator ∉ piece := by
  induction text generalizing current with
  | nil =>
      obtain rfl := List.mem_singleton.mp mem
      simpa using absent
  | cons character rest ih =>
      rw [fieldsFrom] at mem
      split at mem
      · rcases List.mem_cons.mp mem with rfl | later
        · simpa using absent
        · exact ih List.not_mem_nil later
      · rename_i other
        refine ih (fun again => ?_) mem
        rcases List.mem_cons.mp again with same | again
        · exact other same.symm
        · exact absent again

/-- The fields of a text are the only cut of it at its separators. -/
theorem fields_eq_iff {parts : List (List Char)} (nonempty : parts ≠ []) :
    fields separator text = parts ↔
      joinFields separator parts = text ∧ ∀ part ∈ parts, separator ∉ part := by
  constructor
  · rintro rfl
    exact ⟨joinFields_fields separator text,
      fun part mem => notMem_of_mem_fieldsFrom List.not_mem_nil mem⟩
  · rintro ⟨rfl, absent⟩
    exact fields_joinFields nonempty absent

end Fields

end OrgAccess.Text
