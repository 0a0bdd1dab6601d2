import OrgAccess.Proofs.TokenReading

/-!
# Issued tokens

What is known of a token from the moment it is issued: under the secret that signed it, it stands
for its claims through the second of its expiry and is expired after it, and it is good for its own
kind of use only. Nothing is lost between the claims and the text, so different claims never share a
token; this is what makes it safe to recognise a session by the text of its token.
-/

namespace OrgAccess

namespace Json

theorem render_integer_injective {first second : Int}
    (same : (Json.integer first).render = (Json.integer second).render) : first = second := by
  have digits {value other : Nat} (same : Nat.toDigits 10 value = Nat.toDigits 10 other) :
      value = other := by
    rw [← readDecimal_toDigits value, same, readDecimal_toDigits]
  have unsigned {value : Nat} {rest : List Char} (same : Nat.toDigits 10 value = '-' :: rest) :
      False := by
    have isDigit := isDigit_of_mem_toDigits value '-' (same ▸ List.mem_cons_self)
    cases isDigit
  rcases Int.lt_or_le first 0 with negative | nonneg <;>
    rcases Int.lt_or_le second 0 with negative' | nonneg'
  · rw [render_integer_of_neg negative, render_integer_of_neg negative'] at same
    have sizes := digits (List.cons.inj same).2
    omega
  · rw [render_integer_of_neg negative, render_integer_of_nonneg nonneg'] at same
    exact (unsigned same.symm).elim
  · rw [render_integer_of_nonneg nonneg, render_integer_of_neg negative'] at same
    exact (unsigned same).elim
  · rw [render_integer_of_nonneg nonneg, render_integer_of_nonneg nonneg'] at same
    have sizes := digits same
    omega

theorem comma_notMem_render_integer (value : Int) : ',' ∉ (Json.integer value).render := by
  have notDigit (size : Nat) : ',' ∉ Nat.toDigits 10 size := fun mem => by
    cases isDigit_of_mem_toDigits size ',' mem
  rcases Int.lt_or_le value 0 with negative | nonneg
  · rw [render_integer_of_neg negative]
    exact List.not_mem_cons_of_ne_of_not_mem (by decide) (notDigit _)
  · rw [render_integer_of_nonneg nonneg]
    exact notDigit _

/-- A whole number is told from the text up to the comma behind it. -/
theorem integer_inj_of_comma {first second : Int} {rest rest' : List Char}
    (same : (Json.integer first).render ++ ',' :: rest =
      (Json.integer second).render ++ ',' :: rest') : first = second ∧ rest = rest' := by
  have ends (value : Int) (rest : List Char) :
      ((Json.integer value).render ++ ',' :: rest).takeWhile (· != ',') =
        (Json.integer value).render := by
    apply Text.takeWhile_run
    · intro character mem
      exact bne_iff_ne.mpr (ne_of_mem_of_not_mem mem (comma_notMem_render_integer value))
    · rintro _ ⟨⟩
      rfl
  have integers := congrArg (List.takeWhile (· != ',')) same
  rw [ends, ends] at integers
  rw [integers] at same
  exact ⟨render_integer_injective integers, (List.cons.inj (List.append_cancel_left same)).2⟩

end Json

theorem Uuid.inj_of_append {first second : Uuid} {rest rest' : List Char}
    (same : first.text.toList ++ rest = second.text.toList ++ rest') :
    first = second ∧ rest = rest' := by
  have parts := List.append_inj same (by rw [length_text, length_text])
  exact ⟨text_injective (String.toList_injective parts.1), parts.2⟩

/-- Different claims are written differently. -/
theorem Claims.render_injective {first second : Claims}
    (same : first.toJson.render = second.toJson.render) : first = second := by
  have written (claims : Claims) : claims.toJson.render =
      "\x7b\"uid\":\"".toList ++ (claims.userId.text.toList ++ ("\",\"iat\":".toList ++
        ((Json.integer claims.issuedAt).render ++ ',' :: ("\"exp\":".toList ++
          ((Json.integer claims.expiresAt).render ++ ',' :: ("\"jti\":\"".toList ++
            (claims.tokenId.text.toList ++ ("\",\"token_type\":".toList ++
              (Json.renderText claims.kind.name ++ ['}']))))))))) := by
    have keys : Json.renderText "uid" = "\"uid\"".toList ∧
        Json.renderText "iat" = "\"iat\"".toList ∧ Json.renderText "exp" = "\"exp\"".toList ∧
        Json.renderText "jti" = "\"jti\"".toList ∧
        Json.renderText "token_type" = "\"token_type\"".toList := by decide
    simp [toJson, Json.render, Json.renderMembers, Uuid.renderText_text, keys]
  rw [written, written] at same
  obtain ⟨users, same⟩ := Uuid.inj_of_append (List.append_cancel_left same)
  obtain ⟨issued, same⟩ := Json.integer_inj_of_comma (List.append_cancel_left same)
  obtain ⟨expires, same⟩ := Json.integer_inj_of_comma (List.append_cancel_left same)
  obtain ⟨ids, same⟩ := Uuid.inj_of_append (List.append_cancel_left same)
  have kinds : first.kind = second.kind := by
    revert same
    cases first.kind <;> cases second.kind <;> decide
  cases first
  cases second
  simp only at users issued expires ids kinds
  rw [users, issued, expires, ids, kinds]

namespace Token

/-- Different claims have different tokens under one secret, whatever the code that signs. -/
theorem sign_injective (mac : Mac) (secret : String) : Function.Injective (sign mac secret) :=
  fun _ _ same => Claims.render_injective (render_of_sign_eq same)

end Token

namespace TokenService

/-- A service accepts a token of the kind that is asked for and refuses one of the other. -/
theorem validate_of_parse {service : TokenService} {now : Instant} {token : String}
    {claims : Claims} (parsed : Token.parse service.mac service.secret now token = .ok claims) :
    service.validateAccess now token = Token.checkKind .access claims ∧
      service.validateRefresh now token = Token.checkKind .refresh claims := by
  simp only [validateAccess, validateRefresh, parsed, bind, Except.bind, and_self]

/--
A token that was issued with an expiry from 1970 on stands for its claims until then: it is parsed
back to them through the second of the expiry and is expired after it, and it is accepted for its
own kind of use only. Tokens of different claims differ.
-/
theorem issued_token_round_trip (service : TokenService) (kind : TokenKind) (user tokenId : Uuid)
    {issued expiry : Instant} {lifetime : Lifetime} (expires : issued.add? lifetime = some expiry)
    (nonneg : 0 ≤ expiry.seconds) :
    let claims : Claims := ⟨user, issued.seconds, expiry.seconds, tokenId, kind⟩
    ∃ token, service.issue kind user tokenId issued lifetime = .ok token ∧
      (∀ now : Instant, Token.parse service.mac service.secret now token =
        if expiry.seconds < now.seconds then .error .expired else .ok claims) ∧
      (∀ now : Instant, now.seconds ≤ expiry.seconds →
        service.validateAccess now token =
            (if kind = .access then .ok claims else .error (.wrongKind .access kind)) ∧
          service.validateRefresh now token =
            (if kind = .refresh then .ok claims else .error (.wrongKind .refresh kind))) ∧
      Function.Injective (Token.sign service.mac service.secret) := by
  intro claims
  have fit : Token.TimesFit claims := timesFit_of_instants user tokenId kind issued expiry
  have judged (now : Instant) :
      Token.parse service.mac service.secret now (Token.sign service.mac service.secret claims) =
        if expiry.seconds < now.seconds then .error .expired else .ok claims := by
    rw [Token.parse_sign_eq _ _ fit, if_neg (Int.not_lt.mpr nonneg)]
  refine ⟨Token.sign service.mac service.secret claims, ?_, judged, fun now counts => ?_,
    Token.sign_injective _ _⟩
  · rw [issue, claimsFor_of_expiry expires]
    rfl
  · exact validate_of_parse ((judged now).trans (if_neg (Int.not_lt.mpr counts)))

/-- A refresh token for an hour, issued at the start of 1970, is good for a refresh at once. -/
theorem hourToken_read_back :
    let service : TokenService := ⟨.sha256, "secret", .ofSeconds 60, .ofSeconds 3600⟩
    ∃ token, service.issue .refresh ⟨1⟩ ⟨2⟩ .epoch (.ofSeconds 3600) = .ok token ∧
      service.validateRefresh .epoch token = .ok ⟨⟨1⟩, 0, 3600, ⟨2⟩, .refresh⟩ := by
  intro service
  have expires : Instant.epoch.add? (.ofSeconds 3600) = some { seconds := 3600, nanos := 0 } := rfl
  obtain ⟨token, issued, -, accepted, -⟩ :=
    issued_token_round_trip service .refresh ⟨1⟩ ⟨2⟩ expires (by decide)
  exact ⟨token, issued, (accepted .epoch (by decide)).2⟩

end TokenService

end OrgAccess
