import Mathlib.Data.List.Basic
import OrgAccess.Text.Utf8

/-!
# Reading UTF-8 back

What is written in UTF-8 is read as the same characters, none of them malformed.
-/

namespace OrgAccess.Text

theorem toNat_ofNat_of_lt {value : Nat} (small : value < 256) : (UInt8.ofNat value).toNat = value :=
  UInt8.toNat_ofNat_of_lt small

theorem continuation?_tail (value : Nat) :
    continuation? (UInt8.ofNat (value % 64 + 128)) = some (value % 64) := by
  rw [continuation?, toNat_ofNat_of_lt (by omega), if_pos (by omega), Nat.add_sub_cancel]

theorem character?_of_isValidChar {least code : Nat} (valid : code.isValidChar)
    (shortest : least ≤ code) : character? least code = some (Char.ofNat code) :=
  if_pos ⟨shortest, valid⟩

/-- A character is read from the bytes that write it, whatever comes after them. -/
theorem characterAt?_encode (character : Char) (rest : List UInt8) :
    ∃ first more, String.utf8EncodeChar character = first :: more ∧
      characterAt? first (more ++ rest) = some (character, more.length) := by
  have same : Char.ofNat character.val.toNat = character := Char.ofNat_toNat character
  have valid : character.val.toNat.isValidChar := character.valid
  unfold String.utf8EncodeChar
  generalize character.val.toNat = code at same valid
  have bound : code < 0x110000 := by
    rcases valid with small | large
    · omega
    · exact large.2
  dsimp only
  split
  · refine ⟨_, _, rfl, ?_⟩
    unfold characterAt?
    rw [toNat_ofNat_of_lt (by omega)]
    dsimp only
    rw [if_pos (by omega), same]
    rfl
  split
  · refine ⟨_, _, rfl, ?_⟩
    unfold characterAt?
    rw [toNat_ofNat_of_lt (by omega)]
    dsimp only [List.cons_append, List.nil_append]
    rw [if_neg (by omega), if_neg (by omega), if_pos (by omega), continuation?_tail]
    have joined : code / 64 % 32 * 64 + code % 64 = code := by omega
    simp [joined, character?_of_isValidChar valid (show 0x80 ≤ code by omega), same]
  split
  · refine ⟨_, _, rfl, ?_⟩
    unfold characterAt?
    rw [toNat_ofNat_of_lt (by omega)]
    dsimp only [List.cons_append, List.nil_append]
    rw [if_neg (by omega), if_neg (by omega), if_neg (by omega), if_pos (by omega),
      continuation?_tail, continuation?_tail]
    have joined : (code / 4096 % 16 * 64 + code / 64 % 64) * 64 + code % 64 = code := by omega
    simp [joined, character?_of_isValidChar valid (show 0x800 ≤ code by omega), same]
  · refine ⟨_, _, rfl, ?_⟩
    unfold characterAt?
    rw [toNat_ofNat_of_lt (by omega)]
    dsimp only [List.cons_append, List.nil_append]
    rw [if_neg (by omega), if_neg (by omega), if_neg (by omega), if_neg (by omega),
      if_pos (by omega), continuation?_tail, continuation?_tail, continuation?_tail]
    have joined : ((code / 262144 % 8 * 64 + code / 4096 % 64) * 64 + code / 64 % 64) * 64 +
        code % 64 = code := by omega
    simp [joined, character?_of_isValidChar valid (show 0x10000 ≤ code by omega), same]

theorem decodeFrom_encodeUtf8 (read : List (Option Char)) (text : List Char) :
    decodeFrom read (encodeUtf8 text) = read.reverse ++ text.map some := by
  induction text generalizing read with
  | nil => simp [encodeUtf8, decodeFrom]
  | cons character text ih =>
      rcases characterAt?_encode character (encodeUtf8 text) with ⟨first, more, written, found⟩
      have bytes : encodeUtf8 (character :: text) = first :: (more ++ encodeUtf8 text) := by
        rw [encodeUtf8, List.flatMap_cons, written]
        rfl
      rw [bytes, decodeFrom, found]
      simp [ih]

/-- Reading what was written gives the characters back. -/
theorem decodeUtf8_encodeUtf8 (text : List Char) :
    decodeUtf8 (encodeUtf8 text) = text.map some :=
  decodeFrom_encodeUtf8 [] text

theorem utf8_inj {first second : String} : utf8 first = utf8 second ↔ first = second := by
  refine ⟨fun same => ?_, congrArg utf8⟩
  have read := congrArg decodeUtf8 same
  rw [utf8, utf8, decodeUtf8_encodeUtf8, decodeUtf8_encodeUtf8] at read
  exact String.toList_inj.mp (List.map_injective_iff.mpr (fun _ _ => Option.some.inj) read)

end OrgAccess.Text
