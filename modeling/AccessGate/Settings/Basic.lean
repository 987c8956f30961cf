import AccessGate.Json.Value

/-!
# Settings

The settings of the service, their names and their defaults.
-/

namespace AccessGate

/-- The settings of the service. -/
structure Settings where
  serviceName : String := "authsmith"
  logLevel : String := "INFO"
  postgresDsn : String :=
    "host=localhost port=5432 dbname=authsmith user=postgres password=postgres"
  redisEnabled : Bool := false
  redisUrl : String := "redis://localhost:6379/0"
  adminKeys : List String := []
  tokenIssuer : String := "authsmith"
  tokenAudience : String := "authsmith-clients"
  /-- The lifetime of a token, in minutes. -/
  tokenLifetime : Int := 15
  signingKeyPath : String := ""
  verifyingKeyPath : String := ""
  /-- The lifetime of cached permissions, in seconds. -/
  cacheLifetime : Int := 900
  limiterEnabled : Bool := true
  generalLimit : Int := 100
  signInLimit : Int := 10
  registrationLimit : Int := 5
  passwordResetLimit : Int := 3
  /-- The window of the general and the sign-in limit, in seconds. -/
  limitWindow : Int := 60
  /-- The address of the shared store for rate windows; empty for windows in memory. -/
  limiterRedisUrl : String := ""
  exemptIps : List String := []
  exemptKeys : List String := []
  requireAuth : Bool := true
  telemetryEnabled : Bool := false
  collectorEndpoint : Option String := none
  telemetryName : Option String := none
  deriving DecidableEq, Repr, Inhabited

/-- What values a setting takes. -/
inductive SettingKind where
  | text
  | optionalText
  | number
  | flag
  | texts
  deriving DecidableEq, Repr

namespace Settings

/-- The settings in order: the name, the kind and the value of each. -/
def entries (settings : Settings) : List (String × SettingKind × Json) :=
  [("SERVICE_NAME", .text, .text settings.serviceName),
    ("LOG_LEVEL", .text, .text settings.logLevel),
    ("POSTGRES_DSN", .text, .text settings.postgresDsn),
    ("REDIS_ENABLED", .flag, .bool settings.redisEnabled),
    ("REDIS_URL", .text, .text settings.redisUrl),
    ("ADMIN_API_KEYS", .texts, .texts settings.adminKeys),
    ("JWT_ISSUER", .text, .text settings.tokenIssuer),
    ("JWT_AUDIENCE", .text, .text settings.tokenAudience),
    ("JWT_EXPIRATION_MINUTES", .number, .int settings.tokenLifetime),
    ("JWT_PRIVATE_KEY_PATH", .text, .text settings.signingKeyPath),
    ("JWT_PUBLIC_KEY_PATH", .text, .text settings.verifyingKeyPath),
    ("PERMISSION_CACHE_TTL_SECONDS", .number, .int settings.cacheLifetime),
    ("RATE_LIMIT_ENABLED", .flag, .bool settings.limiterEnabled),
    ("RATE_LIMIT_GENERAL", .number, .int settings.generalLimit),
    ("RATE_LIMIT_AUTH", .number, .int settings.signInLimit),
    ("RATE_LIMIT_REGISTRATION", .number, .int settings.registrationLimit),
    ("RATE_LIMIT_PASSWORD_RESET", .number, .int settings.passwordResetLimit),
    ("RATE_LIMIT_WINDOW_SECONDS", .number, .int settings.limitWindow),
    ("RATE_LIMIT_REDIS_URL", .text, .text settings.limiterRedisUrl),
    ("RATE_LIMIT_WHITELISTED_IPS", .texts, .texts settings.exemptIps),
    ("RATE_LIMIT_WHITELISTED_API_KEYS", .texts, .texts settings.exemptKeys),
    ("REQUIRE_AUTH", .flag, .bool settings.requireAuth),
    ("ENABLE_TELEMETRY", .flag, .bool settings.telemetryEnabled),
    ("OTEL_EXPORTER_OTLP_ENDPOINT", .optionalText, .optionalText settings.collectorEndpoint),
    ("OTEL_SERVICE_NAME", .optionalText, .optionalText settings.telemetryName)]

def names : List String :=
  (entries {}).map Prod.fst

def toJson (settings : Settings) : Json :=
  .object (settings.entries.map fun (name, _, value) => (name, value))

/-- Sets a setting by its name.  Unknown names and values of other kinds change nothing. -/
def assign (settings : Settings) : (name : String) → (value : Json) → Settings
  | "SERVICE_NAME", .text value => { settings with serviceName := value }
  | "LOG_LEVEL", .text value => { settings with logLevel := value }
  | "POSTGRES_DSN", .text value => { settings with postgresDsn := value }
  | "REDIS_ENABLED", .bool value => { settings with redisEnabled := value }
  | "REDIS_URL", .text value => { settings with redisUrl := value }
  | "ADMIN_API_KEYS", .list items => { settings with adminKeys := items.filterMap Json.text? }
  | "JWT_ISSUER", .text value => { settings with tokenIssuer := value }
  | "JWT_AUDIENCE", .text value => { settings with tokenAudience := value }
  | "JWT_EXPIRATION_MINUTES", .int value => { settings with tokenLifetime := value }
  | "JWT_PRIVATE_KEY_PATH", .text value => { settings with signingKeyPath := value }
  | "JWT_PUBLIC_KEY_PATH", .text value => { settings with verifyingKeyPath := value }
  | "PERMISSION_CACHE_TTL_SECONDS", .int value => { settings with cacheLifetime := value }
  | "RATE_LIMIT_ENABLED", .bool value => { settings with limiterEnabled := value }
  | "RATE_LIMIT_GENERAL", .int value => { settings with generalLimit := value }
  | "RATE_LIMIT_AUTH", .int value => { settings with signInLimit := value }
  | "RATE_LIMIT_REGISTRATION", .int value => { settings with registrationLimit := value }
  | "RATE_LIMIT_PASSWORD_RESET", .int value => { settings with passwordResetLimit := value }
  | "RATE_LIMIT_WINDOW_SECONDS", .int value => { settings with limitWindow := value }
  | "RATE_LIMIT_REDIS_URL", .text value => { settings with limiterRedisUrl := value }
  | "RATE_LIMIT_WHITELISTED_IPS", .list items =>
      { settings with exemptIps := items.filterMap Json.text? }
  | "RATE_LIMIT_WHITELISTED_API_KEYS", .list items =>
      { settings with exemptKeys := items.filterMap Json.text? }
  | "REQUIRE_AUTH", .bool value => { settings with requireAuth := value }
  | "ENABLE_TELEMETRY", .bool value => { settings with telemetryEnabled := value }
  | "OTEL_EXPORTER_OTLP_ENDPOINT", .text value => { settings with collectorEndpoint := some value }
  | "OTEL_EXPORTER_OTLP_ENDPOINT", .null => { settings with collectorEndpoint := none }
  | "OTEL_SERVICE_NAME", .text value => { settings with telemetryName := some value }
  | "OTEL_SERVICE_NAME", .null => { settings with telemetryName := none }
  | _, _ => settings

/-- Sets several settings by their names. -/
def assignAll (settings : Settings) (fields : List (String × Json)) : Settings :=
  fields.foldl (fun settings (name, value) => settings.assign name value) settings

end Settings

end AccessGate
