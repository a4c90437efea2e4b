/-
  The settings of the HTTP transport, of `src/http_config.rs`: read from the environment, each
  variable on its own, and then checked against each other.

  The parsers of addresses, networks and numbers are parameters (`Readers`), as are the
  defaults of the security profile.

  * `validateAuthConfigForMode_eq_ok`: which configurations each mode accepts.
  * `ensureHttpsUrlIfSet_eq_ok`: which URLs pass for a public server.
  * `fromEnv_eq_ok`: settings load exactly if they can be read and keep to the posture of the
    transport.
-/
import Mathlib.Data.Finset.Dedup
import Mathlib.Data.Finset.Empty
import Ga4Mcp.Lib.Checks
import Ga4Mcp.Text

namespace Ga4Mcp.Http

open Ga4Mcp.Lib

/-! ## Addresses -/

/-- An address of either version. -/
inductive IpAddr where
  | v4 (bits : BitVec 32)
  | v6 (bits : BitVec 128)
deriving DecidableEq, Repr

/-- `IpAddr::is_loopback`: the block 127.0.0.0/8, or ::1. -/
def IpAddr.isLoopback : IpAddr → Bool
  | v4 bits => bits >>> 24 = 127#32
  | v6 bits => bits = 1#128

/-- An address with a port. -/
structure SocketAddr where
  ip : IpAddr
  port : UInt16
deriving DecidableEq, Repr

/-! ## The authentication of clients -/

/-- How an inbound token is checked. -/
inductive AuthMode where
  | delegation
  | jwks
  | introspection
deriving DecidableEq, Repr

/-- How the server shows its own credentials to an introspection endpoint. -/
inductive ClientAuthMethod where
  | clientSecretBasic
  | clientSecretPost
deriving DecidableEq, Repr

/-- `AuthConfig` of the toolkit, as far as it is set here. `F` are the floating-point numbers. -/
structure AuthConfig (F : Type) where
  mode : AuthMode
  strictOauth : Bool
  jwksUrl : Option Text
  issuer : Option Text
  audience : Option Text
  requiredScopes : List Text
  actorClaim : Text
  introspectionUrl : Option Text
  introspectionClientId : Option Text
  introspectionClientSecret : Option Text
  introspectionAuthMethod : ClientAuthMethod
  introspectionCacheTtlS : F
  introspectionForce : Bool
  delegationSecret : Option Text
  delegationIssuer : Text
  delegationAudience : Text
  jtiTtlS : F
  jtiCacheSize : Int
  jtiEnforceBearer : Bool
  clockSkewS : F

/-- `HttpAuthSettings`. -/
structure HttpAuthSettings (F : Type) where
  enabled : Bool
  realm : Text
  resourceUrl : Option Text
  issuer : Option Text
  requiredScopes : List Text
  scopesSupported : List Text
  allowedClientIds : List Text
  authConfig : AuthConfig F

/-- `HttpSettings`. -/
structure HttpSettings (F Cidr : Type) where
  bindAddr : SocketAddr
  allowNonLoopback : Bool
  allowedHosts : Finset Text
  allowedCidrs : List Cidr
  tlsCertPath : Option Text
  tlsKeyPath : Option Text
  auth : HttpAuthSettings F

/-! ## Reading variables -/

/-- `env::var`; a value that is not Unicode is taken for none. -/
abbrev Env := String → Option Text

/-- The parsers, with the texts of their errors, and `{:?}`. -/
structure Readers (F Cidr : Type) where
  debug : Text → Text
  socketAddr : Text → Except Text SocketAddr
  float : Text → Except Text F
  int : Text → Except Text Int
  cidr : Text → Except Text Cidr

/-- A variable, or its default. -/
def envSetting (env : Env) (name default : String) : Text := (env name).getD (text default)

/-- The common part of the optional strings and paths: trimmed, and none if blank. -/
def envOptionalString (env : Env) (name : String) : Option Text :=
  ((env name).map Text.trim).filter fun value => ¬ value.isEmpty

/-- A flag in any of its spellings. -/
def parseFlag (raw : Text) : Option Bool :=
  let value := Text.toAsciiLowercase (Text.trim raw)
  if value ∈ ["1", "true", "yes", "on"].map text then some true
  else if value ∈ ["0", "false", "no", "off"].map text then some false
  else none

/-- The name of an authentication mode. -/
def parseAuthMode (debug : Text → Text) (raw : Text) : Except Text AuthMode :=
  let value := Text.toAsciiLowercase (Text.trim raw)
  if value = text "delegation" then .ok .delegation
  else if value = text "jwks" then .ok .jwks
  else if value = text "introspection" then .ok .introspection
  else .error (text "invalid GA4_MCP_AUTH_MODE value " ++ debug raw ++
    text "; expected delegation/jwks/introspection")

/-- The name of a client authentication method. -/
def parseAuthMethod (debug : Text → Text) (raw : Text) : Except Text ClientAuthMethod :=
  let value := Text.toAsciiLowercase (Text.trim raw)
  if value = text "client_secret_basic" then .ok .clientSecretBasic
  else if value = text "client_secret_post" then .ok .clientSecretPost
  else .error (text "invalid GA4_MCP_AUTH_INTROSPECTION_AUTH_METHOD value " ++ debug raw ++
    text "; expected client_secret_basic/client_secret_post")

/-- The items between commas that are not blank, trimmed. -/
def parseCsv (raw : Text) : List Text :=
  ((raw.splitOn ',').map Text.trim).filter fun value => ¬ value.isEmpty

/-- Host names, in lower case. -/
def parseAllowedHosts (raw : Text) : Finset Text :=
  ((parseCsv raw).map Text.toAsciiLowercase).toFinset

section Read

variable {F Cidr : Type} (readers : Readers F Cidr) (env : Env)

def envFlag (name : String) (default : Bool) : Except Text Bool :=
  match env name with
  | some raw => okOr (parseFlag raw) (text "invalid " ++ text name ++ text " value " ++
      readers.debug raw ++ text "; expected true/false or 1/0")
  | none => .ok default

/-- The common part of `env_f64` and `env_i64`. -/
def envNumber {N : Type} (parse : Text → Except Text N) (name : String) (default : N) :
    Except Text N :=
  match env name with
  | some raw => (parse (Text.trim raw)).mapError fun err =>
      text "invalid " ++ text name ++ text " value " ++ readers.debug raw ++ text ": " ++ err
  | none => .ok default

/-- Address ranges, or the error about the first that is none. -/
def parseAllowedCidrs (raw : Text) (varName : String) : Except Text (List Cidr) :=
  (parseCsv raw).mapM fun item => (readers.cidr item).mapError fun err =>
    text "invalid " ++ text varName ++ text " CIDR " ++ item ++ text ": " ++ err

end Read

/-! ## Checks -/

/-- A variable that is set and not blank. -/
def hasValue (value : Option Text) : Bool := value.any fun value => ¬ (Text.trim value).isEmpty

section Checks

variable {F : Type}

/-- What every mode needs, then what this one does. -/
def validateAuthConfigForMode (authConfig : AuthConfig F) : Except Text Unit := do
  refuseIf authConfig.requiredScopes.isEmpty (text
    "GA4_MCP_AUTH_REQUIRED_SCOPES must include at least one scope when auth is enabled")
  refuseIf (Text.trim authConfig.actorClaim).isEmpty (text
    "GA4_MCP_AUTH_ACTOR_CLAIM must not be empty when auth is enabled")
  let hasIssuer := hasValue authConfig.issuer
  let hasAudience := hasValue authConfig.audience
  let hasJwksUrl := hasValue authConfig.jwksUrl
  let hasIntrospectionUrl := hasValue authConfig.introspectionUrl
  let hasClientId := hasValue authConfig.introspectionClientId
  let hasClientSecret := hasValue authConfig.introspectionClientSecret
  let hasDelegationSecret := hasValue authConfig.delegationSecret
  let hasDelegationIssuer := ¬ (Text.trim authConfig.delegationIssuer).isEmpty
  let hasDelegationAudience := ¬ (Text.trim authConfig.delegationAudience).isEmpty
  match authConfig.mode with
  | .jwks => do
      refuseIf (¬ hasJwksUrl ∨ ¬ hasIssuer ∨ ¬ hasAudience) (text ("GA4_MCP_AUTH_MODE=jwks " ++
        "requires GA4_MCP_AUTH_JWKS_URL, GA4_MCP_AUTH_ISSUER, and GA4_MCP_AUTH_AUDIENCE"))
      refuseIf (hasIntrospectionUrl ∧ (¬ hasClientId ∨ ¬ hasClientSecret)) (text
        ("JWKS mode with GA4_MCP_AUTH_INTROSPECTION_URL also requires " ++
        "GA4_MCP_AUTH_INTROSPECTION_CLIENT_ID and GA4_MCP_AUTH_INTROSPECTION_CLIENT_SECRET"))
  | .introspection => do
      refuseIf (¬ hasIntrospectionUrl) (text
        "GA4_MCP_AUTH_MODE=introspection requires GA4_MCP_AUTH_INTROSPECTION_URL")
      refuseIf (¬ hasClientId ∨ ¬ hasClientSecret) (text ("GA4_MCP_AUTH_MODE=introspection " ++
        "requires GA4_MCP_AUTH_INTROSPECTION_CLIENT_ID and " ++
        "GA4_MCP_AUTH_INTROSPECTION_CLIENT_SECRET"))
      refuseIf (¬ hasIssuer ∨ ¬ hasAudience) (text
        "GA4_MCP_AUTH_MODE=introspection requires GA4_MCP_AUTH_ISSUER and GA4_MCP_AUTH_AUDIENCE")
  | .delegation => do
      refuseIf (¬ hasDelegationSecret) (text
        "GA4_MCP_AUTH_MODE=delegation requires GA4_MCP_AUTH_DELEGATION_SECRET")
      refuseIf (¬ hasDelegationIssuer ∨ ¬ hasDelegationAudience) (text
        ("GA4_MCP_AUTH_MODE=delegation requires non-empty GA4_MCP_AUTH_DELEGATION_ISSUER " ++
        "and GA4_MCP_AUTH_DELEGATION_AUDIENCE"))
      refuseIf hasIntrospectionUrl (text ("GA4_MCP_AUTH_INTROSPECTION_URL is not supported with " ++
        "GA4_MCP_AUTH_MODE=delegation"))

/-- A URL that is set is one of https. -/
def ensureHttpsUrlIfSet (varName : String) (value : Option Text) : Except Text Unit :=
  ifSome ((value.map Text.trim).filter fun value => ¬ value.isEmpty) fun value => do
    let lowercase := Text.toAsciiLowercase value
    refuseIf (Text.startsWith lowercase (text "http://"))
      (text varName ++ text " must use https:// for non-loopback/public exposure")
    refuseIf (¬ Text.startsWith lowercase (text "https://"))
      (text varName ++ text " must be an absolute https URL for non-loopback/public exposure")

/-- What authentication needs once the server may be reached from outside. -/
def validatePublicExposureAuthPosture (allowNonLoopback : Bool) (auth : HttpAuthSettings F) :
    Except Text Unit :=
  if ¬ allowNonLoopback ∨ ¬ auth.enabled then .ok ()
  else do
    refuseIf (¬ auth.authConfig.strictOauth) (text
      "public exposure requires strict OAuth parsing; set GA4_MCP_AUTH_STRICT_OAUTH=1")
    ensureHttpsUrlIfSet "GA4_MCP_AUTH_RESOURCE_URL" auth.resourceUrl
    ensureHttpsUrlIfSet "GA4_MCP_AUTH_ISSUER" auth.issuer
    ensureHttpsUrlIfSet "GA4_MCP_AUTH_JWKS_URL" auth.authConfig.jwksUrl
    ensureHttpsUrlIfSet "GA4_MCP_AUTH_INTROSPECTION_URL" auth.authConfig.introspectionUrl

end Checks

/-! ## Loading -/

section Load

variable {F Cidr : Type}

/-- The settings without authentication; `profile` is `AuthConfig::with_profile(L2Strong)`. -/
def HttpAuthSettings.disabled (profile : AuthConfig F) : HttpAuthSettings F where
  enabled := false
  realm := text "ga4-mcp"
  resourceUrl := none
  issuer := none
  requiredScopes := []
  scopesSupported := []
  allowedClientIds := []
  authConfig := { profile with requiredScopes := [] }

variable (readers : Readers F Cidr) (profile : AuthConfig F) (env : Env)

/-- The configuration of `HttpAuthSettings::from_env`, up to its check. -/
def authConfigFromEnv : Except Text (AuthConfig F) := do
  let mode ← parseAuthMode readers.debug (envSetting env "GA4_MCP_AUTH_MODE" "jwks")
  let strictOauth ← envFlag readers env "GA4_MCP_AUTH_STRICT_OAUTH" profile.strictOauth
  let introspectionAuthMethod ← parseAuthMethod readers.debug
    (envSetting env "GA4_MCP_AUTH_INTROSPECTION_AUTH_METHOD" "client_secret_basic")
  let introspectionCacheTtlS ← envNumber readers env readers.float
    "GA4_MCP_AUTH_INTROSPECTION_CACHE_TTL_S" profile.introspectionCacheTtlS
  let introspectionForce ← envFlag readers env "GA4_MCP_AUTH_INTROSPECTION_FORCE"
    profile.introspectionForce
  let jtiTtlS ← envNumber readers env readers.float "GA4_MCP_AUTH_JTI_TTL_S" profile.jtiTtlS
  let jtiCacheSize ← envNumber readers env readers.int "GA4_MCP_AUTH_JTI_CACHE_SIZE"
    profile.jtiCacheSize
  let jtiEnforceBearer ← envFlag readers env "GA4_MCP_AUTH_JTI_ENFORCE_BEARER"
    profile.jtiEnforceBearer
  let clockSkewS ← envNumber readers env readers.float "GA4_MCP_AUTH_CLOCK_SKEW_S"
    profile.clockSkewS
  return {
    mode := mode
    strictOauth := strictOauth
    jwksUrl := envOptionalString env "GA4_MCP_AUTH_JWKS_URL"
    issuer := envOptionalString env "GA4_MCP_AUTH_ISSUER"
    audience := envOptionalString env "GA4_MCP_AUTH_AUDIENCE"
    requiredScopes := parseCsv (envSetting env "GA4_MCP_AUTH_REQUIRED_SCOPES" "ga4:read")
    actorClaim := envSetting env "GA4_MCP_AUTH_ACTOR_CLAIM" "sub"
    introspectionUrl := envOptionalString env "GA4_MCP_AUTH_INTROSPECTION_URL"
    introspectionClientId := envOptionalString env "GA4_MCP_AUTH_INTROSPECTION_CLIENT_ID"
    introspectionClientSecret := envOptionalString env "GA4_MCP_AUTH_INTROSPECTION_CLIENT_SECRET"
    introspectionAuthMethod := introspectionAuthMethod
    introspectionCacheTtlS := introspectionCacheTtlS
    introspectionForce := introspectionForce
    delegationSecret := envOptionalString env "GA4_MCP_AUTH_DELEGATION_SECRET"
    delegationIssuer := envSetting env "GA4_MCP_AUTH_DELEGATION_ISSUER" "ga4-mcp"
    delegationAudience := envSetting env "GA4_MCP_AUTH_DELEGATION_AUDIENCE" "ga4-mcp"
    jtiTtlS := jtiTtlS
    jtiCacheSize := jtiCacheSize
    jtiEnforceBearer := jtiEnforceBearer
    clockSkewS := clockSkewS }

/-- The authentication settings of an environment. -/
def HttpAuthSettings.fromEnv : Except Text (HttpAuthSettings F) := do
  let enabled ← envFlag readers env "GA4_MCP_AUTH_ENABLED" false
  if ¬ enabled then return disabled profile
  let authConfig ← authConfigFromEnv readers profile env
  validateAuthConfigForMode authConfig
  let configured := parseCsv (envSetting env "GA4_MCP_AUTH_SCOPES_SUPPORTED" "")
  return {
    enabled := enabled
    realm := envSetting env "GA4_MCP_AUTH_REALM" "ga4-mcp"
    resourceUrl := envOptionalString env "GA4_MCP_AUTH_RESOURCE_URL"
    issuer := authConfig.issuer
    requiredScopes := authConfig.requiredScopes
    scopesSupported := if configured.isEmpty then authConfig.requiredScopes else configured
    allowedClientIds := parseCsv (envSetting env "GA4_MCP_AUTH_ALLOWED_CLIENT_IDS" "")
    authConfig := authConfig }

/-- The settings of an environment, or the first check that fails. -/
def HttpSettings.fromEnv : Except Text (HttpSettings F Cidr) := do
  let bindAddr ← (readers.socketAddr (envSetting env "GA4_MCP_BIND_ADDR" "127.0.0.1:9420")
    ).mapError fun err => text "invalid GA4_MCP_BIND_ADDR: " ++ err
  let allowNonLoopback ← envFlag readers env "GA4_MCP_ALLOW_NON_LOOPBACK" false
  refuseIf (¬ allowNonLoopback ∧ ¬ bindAddr.ip.isLoopback) (text
    "non-loopback bind denied; set GA4_MCP_ALLOW_NON_LOOPBACK=1 to override")
  let allowedHosts :=
    parseAllowedHosts (envSetting env "GA4_MCP_ALLOWED_HOSTS" "localhost,127.0.0.1,::1")
  refuseIf (allowedHosts = ∅) (text "GA4_MCP_ALLOWED_HOSTS must not be empty")
  let allowedCidrs ← parseAllowedCidrs readers
    (envSetting env "GA4_MCP_ALLOWED_CIDRS" "127.0.0.1/32,::1/128") "GA4_MCP_ALLOWED_CIDRS"
  refuseIf allowedCidrs.isEmpty (text "GA4_MCP_ALLOWED_CIDRS must not be empty")
  let tlsCertPath := envOptionalString env "GA4_MCP_TLS_CERT_PATH"
  let tlsKeyPath := envOptionalString env "GA4_MCP_TLS_KEY_PATH"
  refuseIf (tlsCertPath.isSome ≠ tlsKeyPath.isSome) (text
    "GA4_MCP_TLS_CERT_PATH and GA4_MCP_TLS_KEY_PATH must both be set together")
  refuseIf (allowNonLoopback ∧ (tlsCertPath.isNone ∨ tlsKeyPath.isNone)) (text
    ("non-loopback HTTP exposure requires native TLS; " ++
    "set GA4_MCP_TLS_CERT_PATH and GA4_MCP_TLS_KEY_PATH"))
  let auth ← HttpAuthSettings.fromEnv readers profile env
  validatePublicExposureAuthPosture allowNonLoopback auth
  return {
    bindAddr := bindAddr
    allowNonLoopback := allowNonLoopback
    allowedHosts := allowedHosts
    allowedCidrs := allowedCidrs
    tlsCertPath := tlsCertPath
    tlsKeyPath := tlsKeyPath
    auth := auth }

end Load

/-- The two files of TLS, when both are there. -/
def HttpSettings.tlsFiles {F Cidr : Type} (settings : HttpSettings F Cidr) : Option (Text × Text) :=
  match settings.tlsCertPath, settings.tlsKeyPath with
  | some cert, some key => some (cert, key)
  | _, _ => none

/-! ## What the checks accept -/

/-- A value that is not blank. -/
def IsSet (value : Option Text) : Prop := ∃ t ∈ value, Text.trim t ≠ []

theorem hasValue_iff {value : Option Text} : hasValue value = true ↔ IsSet value := by
  cases value with
  | none => simp [hasValue, IsSet]
  | some t => simp [hasValue, IsSet, List.isEmpty_iff]

/-- What each mode needs. -/
def ModeReady {F : Type} (authConfig : AuthConfig F) : Prop :=
  match authConfig.mode with
  | .jwks =>
      (IsSet authConfig.jwksUrl ∧ IsSet authConfig.issuer ∧ IsSet authConfig.audience) ∧
      (IsSet authConfig.introspectionUrl →
        IsSet authConfig.introspectionClientId ∧ IsSet authConfig.introspectionClientSecret)
  | .introspection =>
      IsSet authConfig.introspectionUrl ∧
      (IsSet authConfig.introspectionClientId ∧ IsSet authConfig.introspectionClientSecret) ∧
      IsSet authConfig.issuer ∧ IsSet authConfig.audience
  | .delegation =>
      IsSet authConfig.delegationSecret ∧
      (Text.trim authConfig.delegationIssuer ≠ [] ∧ Text.trim authConfig.delegationAudience ≠ []) ∧
      ¬ IsSet authConfig.introspectionUrl

/-- What `validate_auth_config_for_mode` leaves. -/
structure UsableAuth {F : Type} (authConfig : AuthConfig F) : Prop where
  scopes : authConfig.requiredScopes ≠ []
  actorClaim : Text.trim authConfig.actorClaim ≠ []
  mode : ModeReady authConfig

theorem validateAuthConfigForMode_eq_ok {F : Type} {authConfig : AuthConfig F} :
    validateAuthConfigForMode authConfig = .ok () ↔ UsableAuth authConfig := by
  have hmode : UsableAuth authConfig ↔ authConfig.requiredScopes ≠ [] ∧
      Text.trim authConfig.actorClaim ≠ [] ∧ ModeReady authConfig :=
    ⟨fun h => ⟨h.scopes, h.actorClaim, h.mode⟩, fun h => ⟨h.1, h.2.1, h.2.2⟩⟩
  rw [hmode, validateAuthConfigForMode, ModeReady]
  cases authConfig.mode <;> simp [bind_eq_ok, refuseIf_eq_ok, hasValue_iff, List.isEmpty_iff]

/-- An absolute https URL, in any case. -/
def IsHttps (url : Text) : Prop :=
  text "https://" <+: Text.toAsciiLowercase (Text.trim url)

theorem startsWith_iff {t pat : Text} : Text.startsWith t pat = true ↔ pat <+: t :=
  List.isPrefixOf_iff_prefix

/-- No URL is both. -/
theorem not_http_of_https {t : Text} (h : text "https://" <+: t) : ¬ text "http://" <+: t := by
  rintro ⟨rest, rfl⟩
  obtain ⟨rest', hrest⟩ := h
  simp [text] at hrest

theorem ensureHttpsUrlIfSet_eq_ok {varName : String} {value : Option Text} :
    ensureHttpsUrlIfSet varName value = .ok () ↔
      ∀ url ∈ value, Text.trim url ≠ [] → IsHttps url := by
  rw [ensureHttpsUrlIfSet, ifSome_eq_ok]
  simp only [Option.mem_def, Option.filter_eq_some_iff, Option.map_eq_some_iff, bind_eq_ok,
    refuseIf_eq_ok, startsWith_iff, not_not]
  constructor
  · intro h url hurl hne
    obtain ⟨-, -, hhttps⟩ := h (Text.trim url) ⟨⟨url, hurl, rfl⟩, by simpa using hne⟩
    exact hhttps
  · rintro h value ⟨⟨url, hurl, rfl⟩, hne⟩
    have hhttps := h url hurl (by simpa using hne)
    exact ⟨(), not_http_of_https hhttps, hhttps⟩

/-! ## What loading makes sure -/

/-- A check that passes has one result. -/
theorem exists_check {ε : Type} {check : Except ε Unit} :
    (∃ u, check = .ok u) ↔ check = .ok () :=
  ⟨fun ⟨(), h⟩ => h, fun h => ⟨(), h⟩⟩

/-- The URLs that a public server names. -/
def HttpAuthSettings.urls {F : Type} (auth : HttpAuthSettings F) : List (Option Text) :=
  [auth.resourceUrl, auth.issuer, auth.authConfig.jwksUrl, auth.authConfig.introspectionUrl]

theorem validatePublicExposureAuthPosture_eq_ok {F : Type} {allowNonLoopback : Bool}
    {auth : HttpAuthSettings F} :
    validatePublicExposureAuthPosture allowNonLoopback auth = .ok () ↔
      (allowNonLoopback = true → auth.enabled = true → auth.authConfig.strictOauth = true ∧
        ∀ value ∈ auth.urls, ∀ url ∈ value, Text.trim url ≠ [] → IsHttps url) := by
  rw [validatePublicExposureAuthPosture]
  cases allowNonLoopback with
  | false => simp
  | true =>
      cases auth.enabled with
      | false => simp
      | true =>
          simp [bind_eq_ok, exists_check, refuseIf_eq_ok, ensureHttpsUrlIfSet_eq_ok,
            HttpAuthSettings.urls]

/-- What the checks leave of the settings that can be read. -/
structure Posture {F Cidr : Type} (settings : HttpSettings F Cidr) : Prop where
  loopback : settings.allowNonLoopback = false → settings.bindAddr.ip.isLoopback = true
  tls : settings.allowNonLoopback = true → ∃ files, settings.tlsFiles = some files
  tlsPair : settings.tlsFiles = none → settings.tlsCertPath = none ∧ settings.tlsKeyPath = none
  hosts : settings.allowedHosts.Nonempty
  cidrs : settings.allowedCidrs ≠ []
  usable : settings.auth.enabled = true → UsableAuth settings.auth.authConfig
  strict : settings.allowNonLoopback = true → settings.auth.enabled = true →
    settings.auth.authConfig.strictOauth = true
  https : settings.allowNonLoopback = true → settings.auth.enabled = true →
    ∀ value ∈ settings.auth.urls, ∀ url ∈ value, Text.trim url ≠ [] → IsHttps url

theorem exists_tlsFiles_iff {F Cidr : Type} {settings : HttpSettings F Cidr} :
    (∃ files, settings.tlsFiles = some files) ↔
      ¬ settings.tlsCertPath.isNone = true ∧ ¬ settings.tlsKeyPath.isNone = true := by
  unfold HttpSettings.tlsFiles
  cases settings.tlsCertPath <;> cases settings.tlsKeyPath <;> simp

theorem eq_none_of_tlsFiles {F Cidr : Type} {settings : HttpSettings F Cidr}
    (h : settings.tlsFiles = none)
    (hpair : settings.tlsCertPath.isSome = settings.tlsKeyPath.isSome) :
    settings.tlsCertPath = none ∧ settings.tlsKeyPath = none := by
  unfold HttpSettings.tlsFiles at h
  cases hcert : settings.tlsCertPath <;> cases hkey : settings.tlsKeyPath <;> simp_all

/-! ## Reading without checks -/

section Posture

variable {F Cidr : Type} {readers : Readers F Cidr} {profile : AuthConfig F} {env : Env}

variable (readers profile env) in
/-- The variables of the authentication, as they are set. -/
def HttpAuthSettings.read : Except Text (HttpAuthSettings F) := do
  let enabled ← envFlag readers env "GA4_MCP_AUTH_ENABLED" false
  if ¬ enabled then return disabled profile
  let authConfig ← authConfigFromEnv readers profile env
  let configured := parseCsv (envSetting env "GA4_MCP_AUTH_SCOPES_SUPPORTED" "")
  return {
    enabled := enabled
    realm := envSetting env "GA4_MCP_AUTH_REALM" "ga4-mcp"
    resourceUrl := envOptionalString env "GA4_MCP_AUTH_RESOURCE_URL"
    issuer := authConfig.issuer
    requiredScopes := authConfig.requiredScopes
    scopesSupported := if configured.isEmpty then authConfig.requiredScopes else configured
    allowedClientIds := parseCsv (envSetting env "GA4_MCP_AUTH_ALLOWED_CLIENT_IDS" "")
    authConfig := authConfig }

variable (readers profile env) in
/-- All variables, as they are set. -/
def HttpSettings.read : Except Text (HttpSettings F Cidr) := do
  let bindAddr ← (readers.socketAddr (envSetting env "GA4_MCP_BIND_ADDR" "127.0.0.1:9420")
    ).mapError fun err => text "invalid GA4_MCP_BIND_ADDR: " ++ err
  let allowNonLoopback ← envFlag readers env "GA4_MCP_ALLOW_NON_LOOPBACK" false
  let allowedCidrs ← parseAllowedCidrs readers
    (envSetting env "GA4_MCP_ALLOWED_CIDRS" "127.0.0.1/32,::1/128") "GA4_MCP_ALLOWED_CIDRS"
  let auth ← HttpAuthSettings.read readers profile env
  return {
    bindAddr := bindAddr
    allowNonLoopback := allowNonLoopback
    allowedHosts :=
      parseAllowedHosts (envSetting env "GA4_MCP_ALLOWED_HOSTS" "localhost,127.0.0.1,::1")
    allowedCidrs := allowedCidrs
    tlsCertPath := envOptionalString env "GA4_MCP_TLS_CERT_PATH"
    tlsKeyPath := envOptionalString env "GA4_MCP_TLS_KEY_PATH"
    auth := auth }

theorem authFromEnv_eq_ok {auth : HttpAuthSettings F} :
    HttpAuthSettings.fromEnv readers profile env = .ok auth ↔
      HttpAuthSettings.read readers profile env = .ok auth ∧
        (auth.enabled = true → UsableAuth auth.authConfig) := by
  constructor
  · intro h
    obtain ⟨enabled, henabled, h⟩ := bind_eq_ok.mp h
    split at h
    · next hdisabled =>
        cases pure_eq_ok.mp h
        refine ⟨bind_eq_ok.mpr ⟨enabled, henabled, ?_⟩, fun h => by cases h⟩
        rw [if_pos hdisabled]
        rfl
    · next hon =>
        obtain ⟨authConfig, hconfig, h⟩ := bind_eq_ok.mp h
        obtain ⟨⟨⟩, hvalid, h⟩ := bind_eq_ok.mp h
        cases pure_eq_ok.mp h
        refine ⟨bind_eq_ok.mpr ⟨enabled, henabled, ?_⟩, fun _ =>
          validateAuthConfigForMode_eq_ok.mp hvalid⟩
        rw [if_neg hon]
        exact bind_eq_ok.mpr ⟨authConfig, hconfig, rfl⟩
  · rintro ⟨h, husable⟩
    obtain ⟨enabled, henabled, h⟩ := bind_eq_ok.mp h
    refine bind_eq_ok.mpr ⟨enabled, henabled, ?_⟩
    split at h
    · next hdisabled =>
        rw [if_pos hdisabled]
        exact h
    · next hon =>
        obtain ⟨authConfig, hconfig, h⟩ := bind_eq_ok.mp h
        cases pure_eq_ok.mp h
        rw [if_neg hon]
        refine bind_eq_ok.mpr ⟨authConfig, hconfig, bind_eq_ok.mpr ⟨(), ?_, rfl⟩⟩
        exact validateAuthConfigForMode_eq_ok.mpr (husable (by simpa using hon))

/-- The posture is what the checks of `from_env` ask for. -/
theorem posture_iff {settings : HttpSettings F Cidr} : Posture settings ↔
    ¬ (¬ settings.allowNonLoopback ∧ ¬ settings.bindAddr.ip.isLoopback) ∧
    ¬ settings.allowedHosts = ∅ ∧ ¬ settings.allowedCidrs.isEmpty ∧
    ¬ settings.tlsCertPath.isSome ≠ settings.tlsKeyPath.isSome ∧
    ¬ (settings.allowNonLoopback ∧
      (settings.tlsCertPath.isNone ∨ settings.tlsKeyPath.isNone)) ∧
    (settings.auth.enabled = true → UsableAuth settings.auth.authConfig) ∧
    validatePublicExposureAuthPosture settings.allowNonLoopback settings.auth = .ok () := by
  rw [validatePublicExposureAuthPosture_eq_ok]
  constructor
  · intro h
    refine ⟨?_, h.hosts.ne_empty, ?_, ?_, ?_, h.usable, fun hallowed henabled =>
      ⟨h.strict hallowed henabled, h.https hallowed henabled⟩⟩
    · rintro ⟨hlocal, hremote⟩
      exact hremote (h.loopback (by simpa using hlocal))
    · simpa [List.isEmpty_iff] using h.cidrs
    · cases hfiles : settings.tlsFiles with
      | none =>
          obtain ⟨hcert, hkey⟩ := h.tlsPair hfiles
          rw [hcert, hkey]
          exact not_not_intro rfl
      | some files =>
          obtain ⟨hcert, hkey⟩ := exists_tlsFiles_iff.mp ⟨files, hfiles⟩
          rw [Option.isNone_eq_false_iff.mp (eq_false_of_ne_true hcert),
            Option.isNone_eq_false_iff.mp (eq_false_of_ne_true hkey)]
          exact not_not_intro rfl
    · rintro ⟨hallowed, hnone⟩
      exact not_or.mpr (exists_tlsFiles_iff.mp (h.tls hallowed)) hnone
  · rintro ⟨hloopback, hhosts, hcidrs, hpair, htls, husable, hpublic⟩
    constructor
    · intro hlocal
      by_contra hremote
      exact hloopback ⟨by simpa using hlocal, hremote⟩
    · intro hallowed
      exact exists_tlsFiles_iff.mpr (not_or.mp fun hnone => htls ⟨hallowed, hnone⟩)
    · exact fun hnone => eq_none_of_tlsFiles hnone (not_ne_iff.mp hpair)
    · exact Finset.nonempty_iff_ne_empty.mpr hhosts
    · simpa [List.isEmpty_iff] using hcidrs
    · exact husable
    · exact fun hallowed henabled => (hpublic hallowed henabled).1
    · exact fun hallowed henabled => (hpublic hallowed henabled).2

/-- What has loaded was read, and keeps to the posture. -/
theorem read_of_fromEnv {settings : HttpSettings F Cidr}
    (h : HttpSettings.fromEnv readers profile env = .ok settings) :
    HttpSettings.read readers profile env = .ok settings ∧ Posture settings := by
  obtain ⟨bindAddr, hbind, h⟩ := bind_eq_ok.mp h
  obtain ⟨allowNonLoopback, hallow, h⟩ := bind_eq_ok.mp h
  obtain ⟨⟨⟩, hloopback, h⟩ := bind_eq_ok.mp h
  obtain ⟨⟨⟩, hhosts, h⟩ := bind_eq_ok.mp h
  obtain ⟨allowedCidrs, hallowed, h⟩ := bind_eq_ok.mp h
  obtain ⟨⟨⟩, hcidrs, h⟩ := bind_eq_ok.mp h
  obtain ⟨⟨⟩, hpair, h⟩ := bind_eq_ok.mp h
  obtain ⟨⟨⟩, htls, h⟩ := bind_eq_ok.mp h
  obtain ⟨auth, hauth, h⟩ := bind_eq_ok.mp h
  obtain ⟨⟨⟩, hpublic, h⟩ := bind_eq_ok.mp h
  cases pure_eq_ok.mp h
  obtain ⟨hread, husable⟩ := authFromEnv_eq_ok.mp hauth
  rw [refuseIf_eq_ok] at hloopback hhosts hcidrs hpair htls
  refine ⟨?_, posture_iff.mpr ⟨hloopback, hhosts, hcidrs, hpair, htls, husable, hpublic⟩⟩
  exact bind_eq_ok.mpr ⟨bindAddr, hbind, bind_eq_ok.mpr ⟨allowNonLoopback, hallow,
    bind_eq_ok.mpr ⟨allowedCidrs, hallowed, bind_eq_ok.mpr ⟨auth, hread, rfl⟩⟩⟩⟩

/-- No check asks for more. -/
theorem fromEnv_of_read {settings : HttpSettings F Cidr}
    (h : HttpSettings.read readers profile env = .ok settings) (hposture : Posture settings) :
    HttpSettings.fromEnv readers profile env = .ok settings := by
  obtain ⟨bindAddr, hbind, h⟩ := bind_eq_ok.mp h
  obtain ⟨allowNonLoopback, hallow, h⟩ := bind_eq_ok.mp h
  obtain ⟨allowedCidrs, hallowed, h⟩ := bind_eq_ok.mp h
  obtain ⟨auth, hread, h⟩ := bind_eq_ok.mp h
  cases pure_eq_ok.mp h
  obtain ⟨hloopback, hhosts, hcidrs, hpair, htls, husable, hpublic⟩ := posture_iff.mp hposture
  have hauth := authFromEnv_eq_ok.mpr ⟨hread, husable⟩
  exact bind_eq_ok.mpr ⟨bindAddr, hbind, bind_eq_ok.mpr ⟨allowNonLoopback, hallow,
    bind_eq_ok.mpr ⟨(), refuseIf_eq_ok.mpr hloopback,
    bind_eq_ok.mpr ⟨(), refuseIf_eq_ok.mpr hhosts, bind_eq_ok.mpr ⟨allowedCidrs, hallowed,
    bind_eq_ok.mpr ⟨(), refuseIf_eq_ok.mpr hcidrs,
    bind_eq_ok.mpr ⟨(), refuseIf_eq_ok.mpr hpair,
    bind_eq_ok.mpr ⟨(), refuseIf_eq_ok.mpr htls, bind_eq_ok.mpr ⟨auth, hauth,
    bind_eq_ok.mpr ⟨(), hpublic, rfl⟩⟩⟩⟩⟩⟩⟩⟩⟩⟩

/-- **Settings load** exactly if they can be read and keep to the posture of the transport. -/
theorem fromEnv_eq_ok {settings : HttpSettings F Cidr} :
    HttpSettings.fromEnv readers profile env = .ok settings ↔
      HttpSettings.read readers profile env = .ok settings ∧ Posture settings :=
  ⟨read_of_fromEnv, fun ⟨hread, hposture⟩ => fromEnv_of_read hread hposture⟩

end Posture

end Ga4Mcp.Http
