/-!
# Fields between separators

A text is cut at every occurrence of a separator, so a text with no separator is one field and
neighbouring separators have an empty field between them. Joining the fields gives the text back.
-/

namespace OrgAccess.Text

/-- The fields of a text; the first one may still be read. -/
def fieldsFrom (separator : Char) (current : List Char) : List Char → List (List Char)
  | [] => [current.reverse]
  | character :: rest =>
    if character = separator then current.reverse :: fieldsFrom separator [] rest
    else fieldsFrom separator (character :: current) rest

/-- The fields between separators, in order; there is always at least one. -/
def fields (separator : Char) (text : List Char) : List (List Char) :=
  fieldsFrom separator [] text

/-- The fields with a separator between neighbours. -/
def joinFields (separator : Char) : List (List Char) → List Char
  | [] => []
  | [field] => field
  | field :: rest => field ++ separator :: joinFields separator rest

theorem fieldsFrom_ne_nil (separator : Char) (current text : List Char) :
    fieldsFrom separator current text ≠ [] := by
  cases text with
  | nil => simp [fieldsFrom]
  | cons character rest =>
    simp only [fieldsFrom]
    split
    · simp
    · exact fieldsFrom_ne_nil separator _ rest

theorem joinFields_fieldsFrom (separator : Char) (current text : List Char) :
    joinFields separator (fieldsFrom separator current text) = current.reverse ++ text := by
  induction text generalizing current with
  | nil => simp [fieldsFrom, joinFields]
  | cons character rest ih =>
    simp only [fieldsFrom]
    split
    · next same =>
      have more := fieldsFrom_ne_nil separator [] rest
      cases made : fieldsFrom separator [] rest with
      | nil => exact absurd made more
      | cons field fields =>
        rw [joinFields, ← made, ih [], same]
        · rfl
        · simp
    · rw [ih]
      simp

@[simp]
theorem joinFields_fields (separator : Char) (text : List Char) :
    joinFields separator (fields separator text) = text := by
  simp [fields, joinFields_fieldsFrom]

/-- A text without the separator is one field. -/
theorem fieldsFrom_of_notMem {separator : Char} {text : List Char} (absent : separator ∉ text)
    (current : List Char) : fieldsFrom separator current text = [current.reverse ++ text] := by
  induction text generalizing current with
  | nil => simp [fieldsFrom]
  | cons character rest ih =>
    rw [List.mem_cons, not_or] at absent
    rw [fieldsFrom, if_neg (Ne.symm absent.1), ih absent.2]
    simp

end OrgAccess.Text
