import Mathlib.Data.List.Basic
import OrgAccess.Authentication
import OrgAccess.Proofs.JsonReading
import OrgAccess.Proofs.TextEncoding
import OrgAccess.Proofs.TokenIdentity

/-!
# Tokens that were issued are accepted

A token that is checked under the secret that signed it gives back the claims it was made of, until
it expires. The bounds are those of the readers: both times of a token are whole numbers of 64 bits,
which those of an instant always are, and an expiry before 1970 counts as none. Such a token is
found in an authorization header, whose characters are all plain.
-/

namespace OrgAccess

theorem Base64.visible_of_mem_encode {bytes : List UInt8} {character : Char}
    (mem : character ∈ encode .urlSafe bytes) : Text.IsVisible character := by
  rcases Option.bind_eq_some_iff.mp (decode?_encode .urlSafe bytes) with ⟨digits, read, _⟩
  have isDigit := value?_isSome_of_mem read mem
  simp only [value?] at isDigit
  split at isDigit
  · exact ⟨by omega, by omega⟩
  split at isDigit
  · exact ⟨by omega, by omega⟩
  split at isDigit
  · exact ⟨by omega, by omega⟩
  split at isDigit
  · rename_i isMinus
    rw [isMinus]
    decide
  split at isDigit
  · rename_i isLine
    rw [isLine]
    decide
  · cases isDigit

theorem exists_of_bind_eq_ok {ε α β : Type} {first : Except ε α} {next : α → Except ε β}
    {result : β} (ran : (first >>= next) = .ok result) :
    ∃ value, first = .ok value ∧ next value = .ok result := by
  cases first with
  | error error => cases ran
  | ok value => exact ⟨value, rfl, ran⟩

namespace Token

open Json

/-! ## The parts -/

theorem splitLast?_append {last : List Char} {separator : Char} (absent : separator ∉ last)
    (first : List Char) :
    splitLast? separator (first ++ separator :: last) = some (first, last) := by
  have passes : ∀ character ∈ last.reverse, (character != separator) = true := by
    intro character mem
    refine bne_iff_ne.mpr fun same => absent ?_
    rw [← same]
    exact List.mem_reverse.mp mem
  have backwards : (first ++ separator :: last).reverse =
      last.reverse ++ separator :: first.reverse := by
    simp
  have stops : ∀ next ∈ (separator :: first.reverse).head?, (next != separator) = false := by
    rintro _ ⟨⟩
    exact bne_self_eq_false separator
  simp only [splitLast?, backwards]
  rw [Text.dropWhile_run passes stops, Text.takeWhile_run passes stops]
  simp

theorem decodePart_encodePart (text : List Char) :
    decodePart (encodePart text) = .ok (text.map some) := by
  simp only [decodePart, encodePart, Base64.decode?_encode, Text.decodeUtf8_encodeUtf8]

theorem header_eq_render : header.toList =
    (Json.object [("typ", .text "JWT"), ("alg", .text "HS256")]).render := by
  decide

theorem readRecord_header : readRecord headerRecord (header.toList.map some) = .ok "HS256" := by
  have fills : headerRecord.Fills [] headerRecord.blank
      [("typ", .text "JWT"), ("alg", .text "HS256")] ["alg", "typ"] "HS256" := by
    refine .known rfl (by decide) (takes_field (takes_optional_text (takes_text "JWT")) _ _ _) ?_
    refine .known rfl (by decide) (takes_field (takes_choice rfl) _ _ _) ?_
    exact .done _ _
  rw [readRecord, header_eq_render, fills.runAll fun input => rfl]
  rfl

/-! ## The claims -/

/-- The times of a token fit into 64 bits. -/
structure TimesFit (claims : Claims) : Prop where
  issued : -0x8000000000000000 ≤ claims.issuedAt ∧ claims.issuedAt < 0x8000000000000000
  expires : -0x8000000000000000 ≤ claims.expiresAt ∧ claims.expiresAt < 0x8000000000000000

theorem readRecord_claims {claims : Claims} (fit : TimesFit claims) :
    readRecord Claims.record (claims.toJson.render.map some) = .ok claims := by
  have kind : (Decoder.choice TokenKind.named).read.Takes (renderText claims.kind.name)
      claims.kind := by
    cases claims.kind with
    | access => exact takes_choice rfl
    | refresh => exact takes_choice rfl
  have issued := takes_integer fit.issued.1 fit.issued.2
  have expires := takes_integer fit.expires.1 fit.expires.2
  have fills : Claims.record.Fills [] Claims.record.blank
      [("uid", .text claims.userId.text), ("iat", .integer claims.issuedAt),
        ("exp", .integer claims.expiresAt), ("jti", .text claims.tokenId.text),
        ("token_type", .text claims.kind.name)]
      ["token_type", "jti", "exp", "iat", "uid"] claims := by
    refine .known rfl (by decide) (takes_field (takes_uuid claims.userId) _ _ _) ?_
    refine .known rfl (by decide) (takes_field issued _ _ _) ?_
    refine .known rfl (by decide) (takes_field expires _ _ _) ?_
    refine .known rfl (by decide) (takes_field (takes_uuid claims.tokenId) _ _ _) ?_
    refine .known rfl (by decide) (takes_field kind _ _ _) ?_
    exact .done _ _
  rw [readRecord, Claims.toJson, fills.runAll fun input => rfl]
  rfl

theorem takes_naturalOrNone {value : Int} (above : -0x8000000000000000 ≤ value)
    (below : value < 0x8000000000000000) :
    naturalOrNone.Takes (Json.integer value).render
      (if 0 ≤ value then some value.toNat else none) := by
  intro rest after
  apply Reader.Reads.caught
  split
  · rename_i nonneg
    have large : value.toNat ≤ largestNatural := by
      rw [largestNatural]
      omega
    rw [render_integer_of_nonneg nonneg]
    exact (reads_found_natural large rest after).bind (Reader.reads_pure _ _)
  · rename_i negative
    have fits : (-value).toNat ≤ 0x8000000000000000 := by omega
    rw [render_integer_of_neg (Int.not_le.mp negative)]
    exact (reads_found_negative (by omega) fits rest after).bind (Reader.reads_pure _ _)

/-- The expiry among the claims as a reader of limits sees it: one before 1970 counts as none. -/
def limitsOf (claims : Claims) : Limits :=
  ⟨if 0 ≤ claims.expiresAt then some claims.expiresAt.toNat else none, false⟩

theorem readRecord_limits {claims : Claims} (fit : TimesFit claims) :
    readRecord limitsRecord (claims.toJson.render.map some) = .ok (limitsOf claims) := by
  have skipsText (text : String) : skipValue.Takes (Json.text text).render () :=
    takes_skipValue (takes_skipHead_text text)
  have skipsIssued := takes_skipValue (takes_skipHead_integer claims.issuedAt)
  have expires : (Decoder.mk naturalOrNone (some none)).read.Takes
      (Json.integer claims.expiresAt).render (limitsOf claims).expiry :=
    takes_naturalOrNone fit.expires.1 fit.expires.2
  let setExpiry (value : Option Nat) (limits : Limits) : Limits := { limits with expiry := value }
  have fills : limitsRecord.Fills [] limitsRecord.blank
      [("uid", .text claims.userId.text), ("iat", .integer claims.issuedAt),
        ("exp", .integer claims.expiresAt), ("jti", .text claims.tokenId.text),
        ("token_type", .text claims.kind.name)]
      ["exp"] (limitsOf claims) := by
    refine .unknown rfl (skipsText _) ?_
    refine .unknown rfl skipsIssued ?_
    refine .known rfl (by decide) (takes_field expires "exp" setExpiry limitsRecord.blank) ?_
    refine .unknown rfl (skipsText _) ?_
    refine .unknown rfl (skipsText _) ?_
    exact .done _ _
  rw [readRecord, Claims.toJson, fills.runAll fun input => rfl]
  rfl

/-! ## The whole token -/

theorem open?_sign (mac : Mac) (secret : String) {claims : Claims} (fit : TimesFit claims) :
    open? mac secret (sign mac secret claims) = .ok (claims, limitsOf claims) := by
  have outer : splitLast? '.' (sign mac secret claims).toList =
      some (signedPart claims, signature mac secret (signedPart claims)) := by
    rw [sign, String.toList_ofList]
    exact splitLast?_append (Base64.dot_notMem_encode _) _
  have inner : splitLast? '.' (signedPart claims) =
      some (encodePart header.toList, encodePart claims.toJson.render) :=
    splitLast?_append (Base64.dot_notMem_encode _) _
  simp [open?, outer, inner, Option.elim, decodePart_encodePart, readRecord_header,
    readRecord_claims fit, readRecord_limits fit, bind, Except.bind, pure, Except.pure]

/-- How a token is judged under the secret that signed it. -/
theorem parse_sign_eq (mac : Mac) (secret : String) {claims : Claims} (fit : TimesFit claims)
    (now : Instant) : parse mac secret now (sign mac secret claims) =
      if claims.expiresAt < 0 then .error (.invalid Flaw.missingExpiry.message)
      else if claims.expiresAt < now.seconds then .error .expired
      else .ok claims := by
  simp only [parse, open?_sign mac secret fit, limitsOf]
  split
  · rename_i missing
    have negative : claims.expiresAt < 0 := by
      simpa using missing
    rw [if_pos negative]
  · rename_i expiry found
    obtain ⟨nonneg, rfl⟩ : 0 ≤ claims.expiresAt ∧ claims.expiresAt.toNat = expiry := by
      simpa using found
    rw [if_neg (Int.not_lt.mpr nonneg), Int.toNat_of_nonneg nonneg]
    rfl

/-- A token is accepted under the secret that signed it until it expires. -/
theorem parse_sign (mac : Mac) (secret : String) {claims : Claims} (fit : TimesFit claims)
    (nonneg : 0 ≤ claims.expiresAt) {now : Instant} (counts : now.seconds ≤ claims.expiresAt) :
    parse mac secret now (sign mac secret claims) = .ok claims := by
  rw [parse_sign_eq mac secret fit, if_neg (Int.not_lt.mpr nonneg), if_neg (Int.not_lt.mpr counts)]

theorem visible_of_mem_sign {mac : Mac} {secret : String} {claims : Claims} {character : Char}
    (mem : character ∈ (sign mac secret claims).toList) : Text.IsVisible character := by
  have encoded {bytes : List UInt8} (mem : character ∈ Base64.encode .urlSafe bytes) :
      Text.IsVisible character := Base64.visible_of_mem_encode mem
  simp only [sign, signedPart, String.toList_ofList, List.mem_append, List.mem_cons] at mem
  rcases mem with (mem | rfl | mem) | rfl | mem
  · exact encoded mem
  · decide
  · exact encoded mem
  · decide
  · exact encoded mem

end Token

/-! ## Authorization headers -/

/-- The value of an authorization header that carries a token. -/
def bearerValue (token : String) : List UInt8 :=
  Text.encodeUtf8 (bearerMark ++ token.toList)

theorem encodeUtf8_of_ascii {text : List Char}
    (ascii : ∀ character ∈ text, character.toNat < 0x80) :
    Text.encodeUtf8 text = text.map fun character => UInt8.ofNat character.toNat := by
  induction text with
  | nil => rfl
  | cons character text ih =>
      have small : character.toNat ≤ 127 := Nat.le_of_lt_succ (ascii character List.mem_cons_self)
      have single : String.utf8EncodeChar character = [UInt8.ofNat character.toNat] := if_pos small
      have rest := ih fun other mem => ascii other (List.mem_cons_of_mem _ mem)
      rw [Text.encodeUtf8, List.flatMap_cons, single, List.map_cons]
      exact congrArg _ rest

theorem plainText?_encodeUtf8 {text : List Char}
    (plain : ∀ character ∈ text, 0x20 ≤ character.toNat ∧ character.toNat < 0x7F) :
    plainText? (Text.encodeUtf8 text) = some text := by
  have ascii : ∀ character ∈ text, character.toNat < 0x80 :=
    fun character mem => Nat.lt_succ_of_lt (plain character mem).2
  have codes : ∀ character ∈ text, (UInt8.ofNat character.toNat).toNat = character.toNat := by
    intro character mem
    have small := ascii character mem
    exact Text.toNat_ofNat_of_lt (by omega)
  have allPlain : (Text.encodeUtf8 text).all isPlainByte = true := by
    rw [encodeUtf8_of_ascii ascii, List.all_map, List.all_eq_true]
    intro character mem
    have code := codes character mem
    obtain ⟨above, below⟩ := plain character mem
    simp only [Function.comp_apply, isPlainByte, Bool.or_eq_true, Bool.and_eq_true,
      decide_eq_true_eq]
    refine Or.inl ⟨UInt8.le_iff_toNat_le.mpr ?_, UInt8.lt_iff_toNat_lt.mpr ?_⟩
    · exact code.symm ▸ above
    · exact code.symm ▸ below
  have readBack : (Text.encodeUtf8 text).map (fun byte => Char.ofNat byte.toNat) = text := by
    rw [encodeUtf8_of_ascii ascii, List.map_map]
    refine (List.map_congr_left fun character mem => ?_).trans (List.map_id text)
    rw [Function.comp_apply, codes character mem, Char.ofNat_toNat]
    rfl
  rw [plainText?, if_pos allPlain, readBack]

theorem bearerToken_bearerValue {token : String} (nonempty : token ≠ "")
    (visible : ∀ character ∈ token.toList, Text.IsVisible character) :
    bearerToken [bearerValue token] = .ok token := by
  have plain : ∀ character ∈ bearerMark ++ token.toList,
      0x20 ≤ character.toNat ∧ character.toNat < 0x7F := by
    intro character mem
    rcases List.mem_append.mp mem with mem | mem
    · have marks : bearerMark.all (fun mark => 0x20 ≤ mark.toNat ∧ mark.toNat < 0x7F) = true := rfl
      exact of_decide_eq_true (List.all_eq_true.mp marks character mem)
    · exact ⟨Nat.le_of_lt (visible character mem).1, (visible character mem).2⟩
  have marked : bearerMark.isPrefixOf (bearerMark ++ token.toList) = true :=
    List.isPrefixOf_iff_prefix.mpr (List.prefix_append _ _)
  have trimmed : Text.trim (String.ofList token.toList) = token := by
    rw [String.ofList_toList, Text.trim_of_visible visible]
  simp only [bearerToken, bearerValue, plainText?_encodeUtf8 plain, marked, if_true,
    List.drop_left, trimmed, if_neg nonempty]

/-! ## Pairs of tokens -/

namespace TokenService

variable {tokens : TokenService} {kind : TokenKind} {user id : Uuid} {now : Instant}
  {lifetime : Lifetime} {moment : Moment} {pair : TokenPair}

/-- Whether both tokens of a pair that is issued now expire at an instant that can be written. -/
def CanIssue (tokens : TokenService) (now : Instant) : Prop :=
  (now.add? tokens.accessLifetime).isSome ∧ (now.add? tokens.refreshLifetime).isSome

/-- Whether an access token that was issued at one instant counts at another. -/
def AccessCounts (tokens : TokenService) (issued now : Instant) : Prop :=
  ∃ expiry, issued.add? tokens.accessLifetime = some expiry ∧ 0 ≤ expiry.seconds ∧
    now.seconds ≤ expiry.seconds

/-- A token whose lifetime is not negative counts at once, from 1970 on. -/
theorem accessCounts_of_nonneg {issued : Instant} (possible : tokens.CanIssue issued)
    (nonneg : 0 ≤ tokens.accessLifetime.nanos) (since : 0 ≤ issued.seconds) :
    tokens.AccessCounts issued issued := by
  obtain ⟨expiry, expires⟩ := Option.isSome_iff_exists.mp possible.1
  have seconds := Instant.seconds_of_add? expires nonneg
  have later : issued.seconds ≤ expiry.seconds := by
    rw [seconds]
    omega
  exact ⟨expiry, expires, Int.le_trans since later, later⟩

theorem claimsFor_of_expiry {expiry : Instant} (expires : now.add? lifetime = some expiry) :
    claimsFor kind user id now lifetime = .ok {
      userId := user
      issuedAt := now.seconds
      expiresAt := expiry.seconds
      tokenId := id
      kind } := by
  simp [claimsFor, Claims.issue?, expires]

theorem timesFit_of_instants (user id : Uuid) (kind : TokenKind) (issued expiry : Instant) :
    Token.TimesFit ⟨user, issued.seconds, expiry.seconds, id, kind⟩ := by
  have first := issued.inRange
  have last := expiry.inRange
  constructor <;> dsimp only <;> omega

theorem exists_pair (possible : tokens.CanIssue moment.now) (user : Uuid) :
    ∃ pair, tokens.issuePair moment user = .ok pair := by
  obtain ⟨access, accessExpires⟩ := Option.isSome_iff_exists.mp possible.1
  obtain ⟨refresh, refreshExpires⟩ := Option.isSome_iff_exists.mp possible.2
  obtain ⟨expiry, inRange⟩ := Option.isSome_iff_exists.mp
    (Instant.ofUnix?_zero_isSome_iff.mpr refresh.inRange)
  simp [issuePair, claimsFor_of_expiry accessExpires, claimsFor_of_expiry refreshExpires,
    Claims.expiry?, inRange, bind, Except.bind, pure, Except.pure]

/-- The access token of a new pair says for whom it was issued and when it expires. -/
theorem accessToken_of_issuePair (issued : tokens.issuePair moment user = .ok pair) :
    ∃ expiry, moment.now.add? tokens.accessLifetime = some expiry ∧
      pair.accessToken = Token.sign tokens.mac tokens.secret
        ⟨user, moment.now.seconds, expiry.seconds, moment.accessTokenId, .access⟩ := by
  unfold issuePair at issued
  cases expires : moment.now.add? tokens.accessLifetime with
  | none => simp [claimsFor, Claims.issue?, expires, bind, Except.bind] at issued
  | some expiry =>
      refine ⟨expiry, rfl, ?_⟩
      rw [claimsFor_of_expiry expires] at issued
      cases refresh : claimsFor .refresh user moment.refreshTokenId moment.now
          tokens.refreshLifetime with
      | error error => simp [refresh, bind, Except.bind] at issued
      | ok claims =>
          simp only [refresh, bind, Except.bind] at issued
          split at issued
          · cases issued
          · rw [← Except.ok.inj issued]

/-- The access token of a pair is accepted as long as it counts. -/
theorem validateAccess_of_issuePair (issued : tokens.issuePair moment user = .ok pair)
    (counts : tokens.AccessCounts moment.now now) :
    ∃ claims, tokens.validateAccess now pair.accessToken = .ok claims ∧ claims.userId = user := by
  rcases accessToken_of_issuePair issued with ⟨expiry, expires, signed⟩
  rcases counts with ⟨expiry', expires', nonneg, inTime⟩
  obtain rfl := Option.some.inj (expires.symm.trans expires')
  have parsed := Token.parse_sign tokens.mac tokens.secret
    (timesFit_of_instants user moment.accessTokenId .access moment.now expiry) nonneg inTime
  have valid : tokens.validateAccess now pair.accessToken =
      .ok ⟨user, moment.now.seconds, expiry.seconds, moment.accessTokenId, .access⟩ := by
    rw [signed, validateAccess, parsed]
    rfl
  exact ⟨_, valid, rfl⟩

theorem bearerToken_of_issuePair (issued : tokens.issuePair moment user = .ok pair) :
    bearerToken [bearerValue pair.accessToken] = .ok pair.accessToken := by
  rcases accessToken_of_issuePair issued with ⟨expiry, expires, signed⟩
  rw [signed]
  exact bearerToken_bearerValue (Token.sign_ne_empty _ _ _)
    fun _ mem => Token.visible_of_mem_sign mem

end TokenService

end OrgAccess
