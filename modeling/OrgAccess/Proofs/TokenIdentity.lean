import Mathlib.Data.List.Basic
import OrgAccess.Token.Signed

/-!
# Tokens differ when their identifiers do

A signed token can be read back as far as its identifier: the dots part it, base64 and UTF-8 lose
nothing, and the identifier stands at a fixed distance from the end of the claims. So two tokens
that were issued under different identifiers are different texts, whatever the code that signs.
-/

namespace OrgAccess

namespace Text

theorem encodeUtf8_injective {first second : List Char}
    (same : encodeUtf8 first = encodeUtf8 second) : first = second := by
  have bytes (text : List Char) :
      (String.ofList text).toByteArray = (encodeUtf8 text).toByteArray := by
    rw [String.toByteArray_ofList]
    rfl
  have same_text : String.ofList first = String.ofList second := by
    rw [← String.toByteArray_inj, bytes, bytes, same]
  exact String.ofList_injective same_text

end Text

namespace Base64

theorem encode_injective {alphabet : Alphabet} {first second : List UInt8}
    (same : encode alphabet first = encode alphabet second) : first = second := by
  apply Option.some.inj
  rw [← decode?_encode alphabet first, same, decode?_encode]

theorem value?_isSome_of_mem {alphabet : Alphabet} {text : List Char} {digits : List Nat}
    (read : values? alphabet text = some digits) {character : Char} (mem : character ∈ text) :
    (value? alphabet character).isSome := by
  induction text generalizing digits with
  | nil => cases mem
  | cons first rest ih =>
      rw [values?] at read
      split at read
      · rename_i value found
        rcases Option.map_eq_some_iff.mp read with ⟨others, read, _⟩
        rcases List.mem_cons.mp mem with rfl | mem
        · simp [found]
        · exact ih read mem
      · cases read

theorem dot_notMem_encode (bytes : List UInt8) : '.' ∉ encode .urlSafe bytes := by
  intro mem
  rcases Option.bind_eq_some_iff.mp (decode?_encode .urlSafe bytes) with ⟨digits, read, _⟩
  have isDigit := value?_isSome_of_mem read mem
  revert isDigit
  decide

end Base64

namespace Uuid

theorem mem_group {sizes : List Nat} {digits : List Char} {character : Char}
    (mem : character ∈ group sizes digits) : character = '-' ∨ character ∈ digits := by
  fun_induction group sizes digits with
  | case1 => cases mem
  | case2 digits size => exact Or.inr (List.mem_of_mem_take mem)
  | case3 digits size sizes _ ih =>
      rcases List.mem_append.mp mem with mem | mem
      · exact Or.inr (List.mem_of_mem_take mem)
      · rcases List.mem_cons.mp mem with rfl | mem
        · exact Or.inl rfl
        · exact (ih mem).imp_right List.mem_of_mem_drop

theorem escape_of_mem_hexDigits {count value : Nat} {character : Char}
    (mem : character ∈ Text.hexDigits count value) : Json.escape character = [character] := by
  have check : ∀ digit : Fin 16, Json.escape (Text.hexDigit digit.val) = [Text.hexDigit digit.val] := by
    decide
  induction count generalizing value with
  | zero => cases mem
  | succ count ih =>
      rcases List.mem_append.mp mem with mem | mem
      · exact ih mem
      · rw [List.mem_singleton.mp mem]
        exact check ⟨value % 16, Nat.mod_lt value (by decide)⟩

theorem escape_of_mem_text {id : Uuid} {character : Char} (mem : character ∈ id.text.toList) :
    Json.escape character = [character] := by
  rw [text, String.toList_ofList] at mem
  rcases mem_group mem with rfl | mem
  · rfl
  · exact escape_of_mem_hexDigits mem

theorem length_text (id : Uuid) : id.text.toList.length = 36 := by
  have full : id.digits.length = total groupSizes := by simp [digits, groupSizes, total]
  rw [text, String.toList_ofList, length_group _ _ full]
  rfl

theorem renderText_text (id : Uuid) :
    Json.renderText id.text = '"' :: (id.text.toList ++ ['"']) := by
  have unescaped (characters : List Char)
      (plain : ∀ character ∈ characters, Json.escape character = [character]) :
      characters.flatMap Json.escape = characters := by
    induction characters with
    | nil => rfl
    | cons first rest ih =>
        rw [List.flatMap_cons, plain first List.mem_cons_self,
          ih fun character mem => plain character (List.mem_cons_of_mem _ mem)]
        rfl
  rw [Json.renderText, unescaped _ fun _ mem => escape_of_mem_text mem]

end Uuid

namespace Claims

/-- The identifier of a token stands at a fixed distance from the end of its claims. -/
theorem tokenId_of_render_eq {first second : Claims} (kinds : first.kind = second.kind)
    (same : first.toJson.render = second.toJson.render) : first.tokenId = second.tokenId := by
  have parts (claims : Claims) : ∃ before, claims.toJson.render =
      before ++ claims.tokenId.text.toList ++
        ('"' :: ',' :: (Json.renderText "token_type" ++ ':' :: Json.renderText claims.kind.name ++
          ['}'])) := by
    refine ⟨'{' :: (Json.renderText "uid" ++ ':' :: Json.renderText claims.userId.text ++
      ',' :: (Json.renderText "iat" ++ ':' :: (toString claims.issuedAt).toList ++
        ',' :: (Json.renderText "exp" ++ ':' :: (toString claims.expiresAt).toList ++
          ',' :: (Json.renderText "jti" ++ [':', '"'])))), ?_⟩
    simp [toJson, Json.render, Json.renderMembers, Uuid.renderText_text]
  rcases parts first with ⟨before, first_parts⟩
  rcases parts second with ⟨before', second_parts⟩
  rw [first_parts, second_parts, kinds] at same
  have ids := (List.append_inj' same rfl).1
  have texts := (List.append_inj' ids (by simp only [Uuid.length_text])).2
  exact Uuid.text_injective (String.toList_injective texts)

end Claims

namespace Token

theorem encodePart_injective {first second : List Char}
    (same : encodePart first = encodePart second) : first = second :=
  Text.encodeUtf8_injective (Base64.encode_injective same)

/-- The claims are the part of a token between its last two dots. -/
theorem render_of_sign_eq {mac : Mac} {secret : String} {first second : Claims}
    (same : sign mac secret first = sign mac secret second) :
    first.toJson.render = second.toJson.render := by
  apply encodePart_injective
  have texts := String.ofList_injective same
  simp only [signedPart, List.append_assoc, List.cons_append, List.append_cancel_left_eq,
    List.cons.injEq, true_and] at texts
  exact ((List.append_cons_inj_of_notMem (Base64.dot_notMem_encode _)
    (Base64.dot_notMem_encode _)).mp texts).1

/-- Tokens of one kind under different identifiers are different texts. -/
theorem tokenId_of_sign_eq {mac : Mac} {secret : String} {first second : Claims}
    (kinds : first.kind = second.kind) (same : sign mac secret first = sign mac secret second) :
    first.tokenId = second.tokenId :=
  Claims.tokenId_of_render_eq kinds (render_of_sign_eq same)

theorem sign_ne_empty (mac : Mac) (secret : String) (claims : Claims) :
    sign mac secret claims ≠ "" := by
  intro empty
  have texts := congrArg String.toList empty
  simp [sign] at texts

end Token

namespace TokenService

theorem named_of_claimsFor {kind : TokenKind} {user id : Uuid} {now : Instant} {lifetime : Lifetime}
    {claims : Claims} (made : claimsFor kind user id now lifetime = .ok claims) :
    claims.kind = kind ∧ claims.tokenId = id := by
  unfold claimsFor Claims.issue? at made
  cases expiry : now.add? lifetime with
  | none => simp [expiry] at made
  | some instant =>
      simp only [expiry, Option.map_some, Except.ok.injEq] at made
      subst made
      exact ⟨rfl, rfl⟩

/-- The refresh token of a new pair is signed under the identifier that was drawn for it. -/
theorem refreshToken_of_issuePair {tokens : TokenService} {moment : Moment} {user : Uuid}
    {pair : TokenPair} (issued : tokens.issuePair moment user = .ok pair) :
    ∃ claims, pair.refreshToken = Token.sign tokens.mac tokens.secret claims ∧
      claims.kind = .refresh ∧ claims.tokenId = moment.refreshTokenId := by
  unfold issuePair at issued
  cases access : claimsFor .access user moment.accessTokenId moment.now tokens.accessLifetime with
  | error error => simp [access, bind, Except.bind] at issued
  | ok access_claims =>
      cases refresh : claimsFor .refresh user moment.refreshTokenId moment.now
          tokens.refreshLifetime with
      | error error => simp [access, refresh, bind, Except.bind] at issued
      | ok claims =>
          simp only [access, refresh, bind, Except.bind] at issued
          split at issued
          · cases issued
          · rw [← Except.ok.inj issued]
            exact ⟨claims, rfl, named_of_claimsFor refresh⟩

/-- Refresh tokens that were issued under different identifiers are different texts. -/
theorem refreshTokenId_of_eq {tokens : TokenService} {first second : Moment} {user other : Uuid}
    {pair pair' : TokenPair} (issued : tokens.issuePair first user = .ok pair)
    (issued' : tokens.issuePair second other = .ok pair')
    (same : pair.refreshToken = pair'.refreshToken) :
    first.refreshTokenId = second.refreshTokenId := by
  rcases refreshToken_of_issuePair issued with ⟨claims, signed, isRefresh, named⟩
  rcases refreshToken_of_issuePair issued' with ⟨claims', signed', isRefresh', named'⟩
  rw [signed, signed'] at same
  rw [← named, ← named']
  exact Token.tokenId_of_sign_eq (isRefresh.trans isRefresh'.symm) same

end TokenService

end OrgAccess
