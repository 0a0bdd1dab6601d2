import OrgAccess.Configuration
import OrgAccess.Proofs.TokenReading

/-!
# What settings are accepted

A server has a configuration exactly if each setting can be read by itself
(`Configuration.ofLookup_eq_ok_iff`). What was read is within bounds: the lifetimes are positive,
the numbers fit into the 16 and 32 bits that they are meant for, and the pool of connections keeps
no more of them than it may have.
-/

namespace OrgAccess

/-! ## Whole numbers -/

section WholeNumbers

variable {greatest value result : Nat}

theorem le_of_readWholeDigits {digits : List Char} (fits : value ≤ greatest)
    (read : readWholeDigits greatest digits value = .ok result) : result ≤ greatest := by
  induction digits generalizing value with
  | nil =>
      cases read
      exact fits
  | cons digit digits ih =>
      unfold readWholeDigits at read
      split at read
      · dsimp only at read
        split at read
        · cases read
        · rename_i fits
          exact ih (Nat.le_of_not_lt fits) read
      · cases read

theorem le_of_readWhole {text : String} (read : readWhole greatest text = .ok result) :
    result ≤ greatest := by
  unfold readWhole at read
  split at read
  · cases read
  · cases read
  · exact le_of_readWholeDigits (Nat.zero_le _) read
  · exact le_of_readWholeDigits (Nat.zero_le _) read

end WholeNumbers

/-! ## Settings -/

namespace Configuration

variable {lookup : String → Option String} {configuration : Configuration}

theorem pos_of_positiveDuration {key text : String} {duration : Duration}
    (read : positiveDuration key text = .ok duration) : 0 < duration.nanos := by
  unfold positiveDuration at read
  split at read
  · cases read
  · split at read
    · cases read
    · cases read
      exact Nat.pos_of_ne_zero (by assumption)

/-- The settings of a configuration are those of the environment, where there are any. -/
structure IsReadFrom (configuration : Configuration) (lookup : String → Option String) : Prop where
  host : configuration.api.host = (lookup "APP_HOST").getD "0.0.0.0"
  port : readWhole 65535 ((lookup "APP_PORT").getD "8080") = .ok configuration.api.port
  origins : configuration.api.corsOrigins = originsOf ((lookup "CORS_ORIGINS").getD "*")
  url : (lookup "DATABASE_URL").filter (fun url => url != "") = some configuration.database.url
  connections : readWhole 4294967295 ((lookup "DATABASE_MAX_CONNECTIONS").getD "10") =
    .ok configuration.database.maxConnections
  secret : lookup "JWT_SECRET" = some configuration.tokens.secret
  longSecret : 32 ≤ configuration.tokens.secret.utf8ByteSize
  accessTtl : positiveDuration "JWT_TTL" ((lookup "JWT_TTL").getD "24h") =
    .ok configuration.tokens.accessTtl
  refreshTtl : positiveDuration "REFRESH_TOKEN_TTL"
    ((lookup "REFRESH_TOKEN_TTL").getD "168h") = .ok configuration.tokens.refreshTtl

theorem elim_eq_ok_iff {error : ConfigurationError} {value : Option String} {text : String} :
    value.elim (.error error) .ok = (.ok text : Except ConfigurationError String) ↔
      value = some text := by
  cases value <;> simp

theorem mapError_eq_ok_iff {result : Except WholeNumberFault Nat}
    {change : WholeNumberFault → ConfigurationError} {value : Nat} :
    result.mapError change = .ok value ↔ result = .ok value := by
  cases result <;> simp [Except.mapError]

/-- An environment is accepted exactly if every setting in it can be read. -/
theorem ofLookup_eq_ok_iff :
    ofLookup lookup = .ok configuration ↔ configuration.IsReadFrom lookup := by
  constructor
  · intro accepted
    unfold ofLookup at accepted
    obtain ⟨port, port_read, accepted⟩ := exists_of_bind_eq_ok accepted
    obtain ⟨url, url_given, accepted⟩ := exists_of_bind_eq_ok accepted
    obtain ⟨connections, connections_read, accepted⟩ := exists_of_bind_eq_ok accepted
    obtain ⟨secret, secret_given, accepted⟩ := exists_of_bind_eq_ok accepted
    split at accepted
    · cases accepted
    rename_i long
    obtain ⟨access, access_read, accepted⟩ := exists_of_bind_eq_ok accepted
    obtain ⟨refresh, refresh_read, accepted⟩ := exists_of_bind_eq_ok accepted
    cases accepted
    exact {
      host := rfl
      port := mapError_eq_ok_iff.mp port_read
      origins := rfl
      url := elim_eq_ok_iff.mp url_given
      connections := mapError_eq_ok_iff.mp connections_read
      secret := elim_eq_ok_iff.mp secret_given
      longSecret := Nat.le_of_not_lt long
      accessTtl := access_read
      refreshTtl := refresh_read }
  · intro read
    unfold ofLookup
    simp only [mapError_eq_ok_iff.mpr read.port, elim_eq_ok_iff.mpr read.url,
      mapError_eq_ok_iff.mpr read.connections, elim_eq_ok_iff.mpr read.secret, read.accessTtl,
      read.refreshTtl, ← read.host, ← read.origins]
    exact if_neg (Nat.not_lt.mpr read.longSecret)

/-- The lifetimes of an accepted configuration are positive. -/
theorem lifetimes_pos (accepted : ofLookup lookup = .ok configuration) :
    0 < configuration.tokens.accessTtl.nanos ∧ 0 < configuration.tokens.refreshTtl.nanos :=
  have read := ofLookup_eq_ok_iff.mp accepted
  ⟨pos_of_positiveDuration read.accessTtl, pos_of_positiveDuration read.refreshTtl⟩

/-- The numbers of an accepted configuration are within bounds, and so is the pool that it opens. -/
theorem bounds_of_ofLookup (accepted : ofLookup lookup = .ok configuration) :
    configuration.api.port ≤ 65535 ∧ configuration.pool.url ≠ "" ∧
      configuration.pool.maxConnections ≤ 4294967295 ∧
      configuration.pool.minConnections ≤ configuration.pool.maxConnections := by
  have read := ofLookup_eq_ok_iff.mp accepted
  have named := (Option.filter_eq_some_iff.mp read.url).2
  exact ⟨le_of_readWhole read.port, bne_iff_ne.mp named, le_of_readWhole read.connections,
    Nat.min_le_right _ _⟩

end Configuration

/-- An environment with what has to be set and a lifetime for refresh tokens. -/
def plainEnvironment (refreshTtl : String) : String → Option String
  | "DATABASE_URL" => some "postgresql://localhost/teamgate"
  | "JWT_SECRET" => some "test-secret-key-at-least-32-bytes-long"
  | "REFRESH_TOKEN_TTL" => some refreshTtl
  | _ => none

/-- The configuration from such an environment. -/
def plainConfiguration (refreshTtl : Duration) : Configuration where
  api := { host := "0.0.0.0", port := 8080, corsOrigins := ["*"] }
  database := { url := "postgresql://localhost/teamgate", maxConnections := 10 }
  tokens := {
    secret := "test-secret-key-at-least-32-bytes-long"
    accessTtl := ⟨86400000000000⟩
    refreshTtl }

end OrgAccess
