import OrgAccess.Json.Buffered
import OrgAccess.Proofs.JsonTracking

/-!
# Values on a scanner's way

Whatever a value is made of, its reader keeps its place: by induction on the depth for a value of
any shape, and on what is open around a value that is skipped.
-/

namespace OrgAccess.Json

open Scanner

/-! ## Values of any shape -/

namespace Buffered

section

variable {α : Type} {item : Reader α} {depth : Nat}

theorem tracks_readItems (keeps : item.KeepsPlace) (fuel : Nat) (isFirst : Bool) (input : Input) :
    (readItems item fuel isFirst).Tracks (depth + 1) ⟨.free, depth + 1⟩
      (fun _ => ⟨.free, depth + 1⟩) input := by
  have inner := Nat.le_refl (depth + 1)
  induction fuel generalizing isFirst input with
  | zero => exact Reader.tracks_malformed _ inner _ _
  | succ fuel ih =>
      refine (tracks_hasItem isFirst inner input).bind fun isThere _ _ => ?_
      cases isThere with
      | false => exact Reader.tracks_pure _ _ _ _
      | true => exact (keeps (depth + 1) _).bind fun value _ _ => (ih false _).thenPure _

theorem tracks_readMembers (keeps : item.KeepsPlace) (fuel : Nat) (isFirst : Bool)
    (input : Input) :
    (readMembers item fuel isFirst).Tracks (depth + 1) ⟨.free, depth + 1⟩
      (fun _ => ⟨.free, depth + 1⟩) input := by
  have inner := Nat.le_refl (depth + 1)
  induction fuel generalizing isFirst input with
  | zero => exact Reader.tracks_malformed _ inner _ _
  | succ fuel ih =>
      refine (tracks_hasMember isFirst inner input).bind fun isThere _ _ => ?_
      cases isThere with
      | false => exact Reader.tracks_pure _ _ _ _
      | true =>
          refine (tracks_textBody inner _).bind fun key _ _ => ?_
          refine (tracks_colon inner _).bind fun _ _ _ => ?_
          exact (keeps (depth + 1) _).bind fun value _ _ => (ih false _).thenPure _

theorem tracks_readList (keeps : item.KeepsPlace) (rest : Input) :
    (readList item).Tracks depth ⟨.free, depth⟩ (fun _ => ⟨.free, depth⟩) (some '[' :: rest) := by
  refine tracks_skip_bind ?_ (leads_open (Or.inl rfl) rest)
  exact tracks_thenAlways (tracks_get_bind (tracks_readItems keeps _ true rest)) closes_endList
    (Nat.le_refl depth)

theorem tracks_readObject (keeps : item.KeepsPlace) (rest : Input) :
    (readObject item).Tracks depth ⟨.free, depth⟩ (fun _ => ⟨.free, depth⟩)
      (some '{' :: rest) := by
  refine tracks_skip_bind ?_ (leads_open (Or.inr rfl) rest)
  exact tracks_thenAlways (tracks_get_bind (tracks_readMembers keeps _ true rest)) closes_endObject
    (Nat.le_refl depth)

end

theorem keepsPlace_readWith {inner : Option (Reader Buffered)}
    (keeps : ∀ item ∈ inner, item.KeepsPlace) : (readWith inner).KeepsPlace := by
  intro depth input
  have here := Nat.le_refl depth
  refine (keepsPlace_found depth input).bind fun what rest reads => ?_
  obtain ⟨character, tail, _, begins⟩ := reads_found reads
  split
  · exact Reader.tracks_pure _ _ _ _
  · exact Reader.tracks_pure _ _ _ _
  · exact Reader.tracks_pure _ _ _ _
  · exact Reader.tracks_pure _ _ _ _
  · split
    · exact Reader.tracks_malformed _ here _ _
    · rename_i item
      obtain ⟨rfl, rfl⟩ := begins
      exact (tracks_readList (keeps item rfl) tail).thenPure _
  · split
    · exact Reader.tracks_malformed _ here _ _
    · rename_i item
      obtain ⟨rfl, rfl⟩ := begins
      exact (tracks_readObject (keeps item rfl) tail).thenPure _

theorem keepsPlace_read (depth : Nat) : (read depth).KeepsPlace := by
  induction depth with
  | zero => exact keepsPlace_readWith (by simp)
  | succ depth ih => exact keepsPlace_readWith (by simpa using ih)

end Buffered

/-! ## Values that are skipped -/

/-- The place of a scanner after the head of a value. -/
def afterHead (depth : Nat) (opened : Option Bracket) : Scanner :=
  ⟨.free, depth + opened.toList.length⟩

theorem tracks_skipHead (depth : Nat) (input : Input) :
    skipHead.Tracks depth ⟨.free, depth⟩ (afterHead depth) input := by
  have here := Nat.le_refl depth
  have done {input : Input} {reader : Reader Unit} {mode : Mode}
      (tracks : reader.Tracks depth ⟨mode, depth⟩ (fun _ => ⟨.free, depth⟩) input) :
      (do reader; return none : Reader (Option Bracket)).Tracks depth ⟨mode, depth⟩
        (afterHead depth) input :=
    tracks.bind fun _ _ _ => Reader.tracks_pure_of (by rfl) _ _
  refine tracks_peekToken_bind (Reader.tracks_malformed _ here _ _) fun character rest => ?_
  dsimp only
  split
  · exact tracks_skip_bind (done (tracks_word rfl (by decide) here rest)) (leads_free rfl rfl rest)
  · exact tracks_skip_bind (done (tracks_word rfl (by decide) here rest)) (leads_free rfl rfl rest)
  · exact tracks_skip_bind (done (tracks_word rfl (by decide) here rest)) (leads_free rfl rfl rest)
  · have crosses : Crosses .digit .free rest (skipNumber rest) :=
      takesDigit_digit.crosses_skipNumber (Or.inl (by simp))
    exact tracks_skip_bind (done (Reader.tracks_ofStep crosses here)) (leads_free rfl rfl rest)
  · have crosses := crosses_skipText rest
    exact tracks_skip_bind (done (Reader.tracks_ofStep crosses here)) (leads_quote rest)
  · exact tracks_skip_bind (Reader.tracks_pure_of (by rfl) _ _) (leads_open (Or.inl rfl) rest)
  · exact tracks_skip_bind (Reader.tracks_pure_of (by rfl) _ _) (leads_open (Or.inr rfl) rest)
  · split
    · rename_i isDigit
      have crosses := takesDigit_free.crosses_skipNumber
        (Or.inr (show (character :: rest).head?.any beginsNumber = true from isDigit))
      exact done (Reader.tracks_ofStep crosses here)
    · exact Reader.tracks_malformed _ here _ _

theorem tracks_skipKey {floor depth : Nat} (above : floor ≤ depth + 1) (input : Input) :
    skipKey.Tracks floor ⟨.free, depth + 1⟩ (fun _ => ⟨.free, depth + 1⟩) input := by
  refine tracks_peekToken_bind (Reader.tracks_malformed _ above _ _) fun character rest => ?_
  dsimp only
  split
  · rename_i quoted
    cases quoted
    refine tracks_skip_bind ?_ (leads_quote rest)
    exact (Reader.tracks_ofStep (crosses_skipText rest) above).bind fun _ _ _ => tracks_colon above _
  · exact Reader.tracks_malformed _ above _ _

theorem tracks_closeBrackets (depth : Nat) (brackets : List Bracket) (isOpening : Bool)
    (input : Input) :
    (closeBrackets brackets isOpening).Tracks depth ⟨.free, depth + brackets.length⟩
      (fun left => ⟨.free, depth + left.length⟩) input := by
  induction brackets generalizing isOpening input with
  | nil => exact Reader.tracks_pure_of (by rfl) _ _
  | cons bracket outer ih =>
      have inner : depth ≤ depth + outer.length + 1 := by omega
      have here : (⟨.free, depth + (bracket :: outer).length⟩ : Scanner) =
          ⟨.free, depth + outer.length + 1⟩ := rfl
      rw [here]
      have goesOn (input : Input) : (do
          if bracket = .object then skipKey
          return bracket :: outer : Reader (List Bracket)).Tracks depth
            ⟨.free, depth + outer.length + 1⟩ (fun left => ⟨.free, depth + left.length⟩) input := by
        split
        · exact (tracks_skipKey inner _).bind fun _ _ _ => Reader.tracks_pure_of (by rfl) _ _
        · exact Reader.tracks_pure_of (by rfl) _ _
      refine tracks_peekToken_bind ?_ fun character rest => ?_
      · cases bracket with
        | list => exact Reader.tracks_malformed _ inner _ _
        | object => exact Reader.tracks_malformed _ inner _ _
      dsimp only
      split
      · rename_i separates
        exact tracks_skip_bind (goesOn rest) (leads_separator (Or.inl separates.1) rest)
      split
      · rename_i closes
        have isClosing : character = some ']' ∨ character = some '}' :=
          closes.imp And.left And.left
        exact tracks_skip_bind (ih false rest) (leads_close isClosing rest)
      split
      · exact goesOn _
      · cases bracket with
        | list => exact Reader.tracks_malformed _ inner _ _
        | object => exact Reader.tracks_malformed _ inner _ _

theorem tracks_skipValues (depth fuel : Nat) (brackets : List Bracket) (input : Input) :
    (skipValues fuel brackets).Tracks depth ⟨.free, depth + brackets.length⟩
      (fun _ => ⟨.free, depth⟩) input := by
  have within : depth ≤ depth + brackets.length := Nat.le_add_right _ _
  induction fuel generalizing brackets input with
  | zero => exact Reader.tracks_malformed _ within _ _
  | succ fuel ih =>
      have ends (left : List Bracket) (input : Input) :
          (if left.isEmpty then return () else skipValues fuel left : Reader Unit).Tracks depth
            ⟨.free, depth + left.length⟩ (fun _ => ⟨.free, depth⟩) input := by
        cases left with
        | nil => exact Reader.tracks_pure_of (by rfl) _ _
        | cons bracket outer => exact ih (bracket :: outer) input (Nat.le_add_right _ _)
      have head := (tracks_skipHead (depth + brackets.length) input).lower within
      refine head.bind fun opened rest _ => ?_
      cases opened with
      | none => exact (tracks_closeBrackets depth brackets false rest).bind fun left _ _ => ends left _
      | some bracket =>
          exact (tracks_closeBrackets depth (bracket :: brackets) true rest).bind
            fun left _ _ => ends left _

theorem keepsPlace_skipValue : skipValue.KeepsPlace := fun depth input =>
  tracks_get_bind (tracks_skipValues depth (input.length + 1) [] input)

end OrgAccess.Json
