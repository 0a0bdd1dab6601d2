import OrgAccess.Proofs.TokenLimits
import OrgAccess.Proofs.TokenReading

/-!
# The last second of a token

A token is accepted up to and within the second that its claims name as its expiry, whoever wrote
it and whatever else it says. The session that it belongs to is over at the start of that second,
so that for one second the two comparisons differ.
-/

namespace OrgAccess.Token

variable {mac : Mac} {secret token : String} {claims : Claims} {limits : Limits} {now : Instant}

/-- Claims and limits are read from the same text. -/
theorem readings_of_open? (opened : open? mac secret token = .ok (claims, limits)) :
    ∃ input, readRecord Claims.record input = .ok claims ∧
      readRecord limitsRecord input = .ok limits := by
  unfold open? at opened
  obtain ⟨⟨signed, given⟩, -, opened⟩ := exists_of_bind_eq_ok opened
  obtain ⟨⟨header, payload⟩, -, opened⟩ := exists_of_bind_eq_ok opened
  obtain ⟨headerInput, -, opened⟩ := exists_of_bind_eq_ok opened
  obtain ⟨algorithm, -, opened⟩ := exists_of_bind_eq_ok opened
  dsimp only at opened
  split at opened
  · cases opened
  split at opened
  · cases opened
  obtain ⟨input, -, opened⟩ := exists_of_bind_eq_ok opened
  obtain ⟨claims, claimsRead, opened⟩ := exists_of_bind_eq_ok opened
  obtain ⟨limits, limitsRead, opened⟩ := exists_of_bind_eq_ok opened
  cases opened
  exact ⟨input, claimsRead, limitsRead⟩

theorem open?_empty (mac : Mac) (secret : String) :
    open? mac secret "" = .error .missingPart := rfl

/-- A token that was accepted has its expiry read as its claims say. -/
theorem open?_of_accepted (accepted : parse mac secret now token = .ok claims) :
    ∃ limits, open? mac secret token = .ok (claims, limits) ∧ limits.hasAudience = false ∧
      limits.expiry.map Int.ofNat = some claims.expiresAt ∧ now.seconds ≤ claims.expiresAt := by
  unfold parse at accepted
  split at accepted
  · cases accepted
  rename_i read limits opened
  split at accepted
  · cases accepted
  rename_i expiry known
  split at accepted
  · cases accepted
  rename_i counts
  split at accepted
  · cases accepted
  rename_i noAudience
  cases accepted
  obtain ⟨input, claimsRead, limitsRead⟩ := readings_of_open? opened
  have same := agrees_of_read claimsRead limitsRead expiry known
  refine ⟨limits, opened, Bool.eq_false_iff.mpr noAudience, ?_, ?_⟩
  · rw [known, same]
    rfl
  · rw [same]
    exact Int.not_lt.mp counts

/--
A token that was accepted is accepted up to and within the second of its expiry, so it was accepted
before its expiry unless that was in the very second. A session with this token is over at the start
of that second.
-/
theorem accepted_until_expiry (accepted : parse mac secret now token = .ok claims) :
    (now.seconds < claims.expiresAt ↔ now.seconds ≠ claims.expiresAt) ∧
      ∀ later, parse mac secret later token =
          (if claims.expiresAt < later.seconds then .error .expired else .ok claims) ∧
        ∀ (user : User) expiry, claims.expiry? = some expiry → user.refreshToken = some token →
          user.refreshExpiresAt = some expiry →
            (user.refreshTokenMatches token later = true ↔ later.seconds < claims.expiresAt) := by
  obtain ⟨limits, opened, noAudience, expires, counts⟩ := open?_of_accepted accepted
  obtain ⟨limit, known, same⟩ := Option.map_eq_some_iff.mp expires
  refine ⟨by omega, fun later => ⟨?_, fun user expiry inRange stored ends => ?_⟩⟩
  · simp only [parse, opened, known, noAudience]
    rw [← same]
    rfl
  · have nonempty : token ≠ "" := by
      rintro rfl
      cases opened.symm.trans (open?_empty mac secret)
    obtain ⟨seconds, nanos⟩ := Instant.ofUnix?_eq_some_iff.mp inRange
    rw [User.refreshTokenMatches, stored, ends]
    simp [nonempty, Instant.lt_def, seconds, nanos]

/-- The claims of an access token for the first hour of 1970. -/
def firstHour : Claims where
  userId := ⟨1⟩
  issuedAt := 0
  expiresAt := 3600
  tokenId := ⟨2⟩
  kind := .access

theorem firstHour_accepted {now : Instant} (counts : now.seconds ≤ 3600) :
    parse .sha256 "secret" now (sign .sha256 "secret" firstHour) = .ok firstHour := by
  have fit : TimesFit firstHour := ⟨by decide, by decide⟩
  exact parse_sign .sha256 "secret" fit (by decide) counts

theorem firstHour_until_expiry :
    parse .sha256 "secret" .epoch (sign .sha256 "secret" firstHour) = .ok firstHour ∧
      ∀ later, parse .sha256 "secret" later (sign .sha256 "secret" firstHour) =
        if 3600 < later.seconds then .error .expired else .ok firstHour := by
  have accepted := firstHour_accepted (show Instant.epoch.seconds ≤ 3600 by decide)
  exact ⟨accepted, fun later => ((accepted_until_expiry accepted).2 later).1⟩

/-- The instant at which the second of the expiry begins. -/
def lastSecond : Instant where
  seconds := 3600
  nanos := 0

/-- The token of the first hour is accepted at its end. -/
theorem firstHour_accepted_at_expiry :
    parse .sha256 "secret" lastSecond (sign .sha256 "secret" firstHour) = .ok firstHour ∧
      ¬lastSecond.seconds < firstHour.expiresAt :=
  ⟨firstHour_accepted (by decide), by decide⟩

end OrgAccess.Token
