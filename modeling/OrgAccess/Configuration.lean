import OrgAccess.Http.Cors
import OrgAccess.Program.Run
import OrgAccess.Time.Duration

/-!
# Configuration

The settings of a server, read from named texts. The settings are checked in a fixed order and the
first fault is told. A configuration gives the tokens and the policy for other origins.
-/

namespace OrgAccess

/-! ## Whole numbers -/

/-- Why a text is no whole number within bounds. -/
inductive WholeNumberFault where
  | empty
  | invalidDigit
  | tooLarge
deriving DecidableEq

/-- How the fault reads in a message about a setting. -/
def WholeNumberFault.message : WholeNumberFault → String
  | empty => "cannot parse integer from empty string"
  | invalidDigit => "invalid digit found in string"
  | tooLarge => "number too large to fit in target type"

/-- Reads digits up to a greatest number after what was read before. -/
def readWholeDigits (greatest : Nat) :
    List Char → (value : Nat) → Except WholeNumberFault Nat
  | [], value => .ok value
  | digit :: digits, value =>
    if Text.isDigit digit then
      let next := 10 * value + Text.digitValue digit
      if next > greatest then .error .tooLarge else readWholeDigits greatest digits next
    else .error .invalidDigit

/-- Reads a whole number up to a greatest one; a plus sign may stand before it. -/
def readWhole (greatest : Nat) (text : String) : Except WholeNumberFault Nat :=
  match text.toList with
  | [] => .error .empty
  | ['+'] => .error .invalidDigit
  | '+' :: digits => readWholeDigits greatest digits 0
  | digits => readWholeDigits greatest digits 0

/-! ## Settings -/

/-- Where the server listens and who may use it from a browser. -/
structure ApiSettings where
  host : String
  port : Nat
  /-- The origins that are allowed; an asterisk stands for all. -/
  corsOrigins : List String
deriving DecidableEq

/-- How the database is reached. -/
structure DatabaseSettings where
  url : String
  maxConnections : Nat
deriving DecidableEq

/-- How connections to the database are pooled. -/
structure PoolSettings where
  url : String := ""
  /-- How many connections there may be. -/
  maxConnections : Nat := 10
  /-- How many connections stay open while they are idle. -/
  minConnections : Nat := 1
  /-- How long a caller waits for a connection. -/
  acquireSeconds : Nat := 10
  /-- How long a connection may be idle before it is closed, if there is a limit. -/
  idleSeconds : Option Nat := some 600
deriving DecidableEq

/-- The settings with which a pool is opened: it keeps no more connections than it may have. -/
def PoolSettings.opened (settings : PoolSettings) : PoolSettings :=
  { settings with minConnections := min settings.minConnections settings.maxConnections }

/-- How tokens are issued. -/
structure TokenSettings where
  secret : String
  accessTtl : Duration
  refreshTtl : Duration
deriving DecidableEq

/-- The settings of a server. -/
structure Configuration where
  /-- Where the server listens. -/
  api : ApiSettings
  database : DatabaseSettings
  tokens : TokenSettings
deriving DecidableEq

/-- Why a configuration is refused. -/
inductive ConfigurationError where
  /-- The port is no number of a port. -/
  | invalidPort (fault : WholeNumberFault)
  /-- The number of connections is no whole number. -/
  | invalidConnections (fault : WholeNumberFault)
  | missing (key : String)
  | shortSecret
  /-- A lifetime is no duration. -/
  | invalidDuration (key : String) (error : DurationError)
  | zeroDuration (key : String)
deriving DecidableEq

/-- What is told when a configuration is refused. -/
def ConfigurationError.message : ConfigurationError → String
  | invalidPort fault => "APP_PORT is not a valid port: " ++ fault.message
  | invalidConnections fault => "DATABASE_MAX_CONNECTIONS is invalid: " ++ fault.message
  | missing key => key ++ " environment variable is required"
  | shortSecret => "JWT_SECRET must be at least 32 characters long"
  | invalidDuration key error => key ++ " is invalid: " ++ error.message
  | zeroDuration key => key ++ " must be greater than zero"

/-- Why a configured lifetime cannot be used. -/
inductive LifetimeError where
  | tooLong (key : String)
  /-- A token issued now would expire after the last instant. -/
  | expiryOverflows (key : String)
deriving DecidableEq

/-- What is told when a configured lifetime cannot be used. -/
def LifetimeError.message : LifetimeError → String
  | tooLong key =>
    key ++ " out of range: Source duration value is out of range for the target type"
  | expiryOverflows key => key ++ " out of range: expiry overflows"

namespace Configuration

/-- The origins in a text with commas between them. -/
def originsOf (text : String) : List String :=
  ((Text.fields ',' text.toList).map fun origin => Text.trim (String.ofList origin)).filter
    fun origin => origin != ""

/-- Reads a lifetime, which has to be positive. -/
def positiveDuration (key text : String) : Except ConfigurationError Duration :=
  match Duration.ofText text with
  | .error error => .error (.invalidDuration key error)
  | .ok duration => if duration.nanos = 0 then .error (.zeroDuration key) else .ok duration

/-- The configuration that named texts give, or the first fault that is found among them. -/
def ofLookup (lookup : String → Option String) : Except ConfigurationError Configuration := do
  let setting (key standard : String) : String := (lookup key).getD standard
  let required (key : String) (value : Option String) : Except ConfigurationError String :=
    value.elim (.error (.missing key)) .ok
  let host := setting "APP_HOST" "0.0.0.0"
  let port ← (readWhole 65535 (setting "APP_PORT" "8080")).mapError .invalidPort
  let url ← required "DATABASE_URL" ((lookup "DATABASE_URL").filter fun url => url != "")
  let maxConnections ←
    (readWhole 4294967295 (setting "DATABASE_MAX_CONNECTIONS" "10")).mapError .invalidConnections
  let secret ← required "JWT_SECRET" (lookup "JWT_SECRET")
  if secret.utf8ByteSize < 32 then throw .shortSecret
  let accessTtl ← positiveDuration "JWT_TTL" (setting "JWT_TTL" "24h")
  let refreshTtl ← positiveDuration "REFRESH_TOKEN_TTL" (setting "REFRESH_TOKEN_TTL" "168h")
  return {
    api := { host, port, corsOrigins := originsOf (setting "CORS_ORIGINS" "*") }
    database := { url, maxConnections }
    tokens := { secret, accessTtl, refreshTtl } }

/-- The address at which the server listens, with its port. -/
def bindAddress (configuration : Configuration) : String :=
  configuration.api.host ++ ":" ++ toString configuration.api.port

/-- The pool that the settings ask for. -/
def pool (configuration : Configuration) : PoolSettings :=
  PoolSettings.opened {
    url := configuration.database.url
    maxConnections := configuration.database.maxConnections }

/-- The policy for other origins that the settings ask for. -/
def corsPolicy (configuration : Configuration) : Http.CorsPolicy :=
  .ofOrigins configuration.api.corsOrigins

/-- The longest span of time that can be added to an instant, in nanoseconds. -/
def longestLifetime : Nat := 9223372036854775807 * 1000000

/-- A configured lifetime as one that tokens get, if a token issued now would expire in range. -/
def lifetime (now : Instant) (key : String) (duration : Duration) :
    Except LifetimeError Lifetime :=
  if duration.nanos > longestLifetime then .error (.tooLong key)
  else match now.add? ⟨duration.nanos⟩ with
    | some _ => .ok ⟨duration.nanos⟩
    | none => .error (.expiryOverflows key)

/-- How tokens are issued under the settings, if a token issued now would expire in range. -/
def tokenService (configuration : Configuration) (now : Instant) :
    Except LifetimeError TokenService := do
  let accessLifetime ← lifetime now "JWT_TTL" configuration.tokens.accessTtl
  let refreshLifetime ← lifetime now "REFRESH_TOKEN_TTL" configuration.tokens.refreshTtl
  return {
    mac := .sha256
    secret := configuration.tokens.secret
    accessLifetime
    refreshLifetime }

/-- The written form for diagnostics, which does not show the secret. -/
def describe (configuration : Configuration) : String :=
  let ⟨api, database, tokens⟩ := configuration
  "Config \x7b api: ApiConfig \x7b host: " ++ Text.quoted api.host ++
    ", port: " ++ toString api.port ++
    ", cors_origins: " ++ Text.quotedList api.corsOrigins ++
    " \x7d, database: DatabaseConfig \x7b url: " ++ Text.quoted database.url ++
    ", max_connections: " ++ toString database.maxConnections ++
    " \x7d, jwt: JwtConfig \x7b secret: \"[REDACTED]\", access_ttl: " ++
    tokens.accessTtl.describe ++ ", refresh_ttl: " ++ tokens.refreshTtl.describe ++ " \x7d \x7d"

end Configuration

end OrgAccess
