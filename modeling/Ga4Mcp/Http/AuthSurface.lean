/-
  The surface that announces how clients authenticate, of `src/http_runtime.rs`: its endpoints
  are configured, discovered at the issuer or made up from it, and it is told to allow plain
  HTTP if one of them uses it.

  * `insecure_iff`: a public server allows plain HTTP exactly if one of four endpoints that it
    takes from discovery asks for it: authorization, token, and unless they are configured the
    keys and the introspection. Nothing configured and nothing made up does.
  * `authSurfaceAllowInsecureHttp_unchecked`: the registration and the device authorization
    endpoint are handed on as the issuer publishes them, and no one looks at them.
-/
import Mathlib.Data.List.Infix
import Ga4Mcp.Http.Settings

namespace Ga4Mcp.Http

open Ga4Mcp.Lib

/-! ## The surface -/

/-- `IssuerEntry` of the toolkit; `A` is its authenticator. -/
structure IssuerEntry (A : Type) where
  resourcePath : Text
  issuer : Text
  authorizationEndpoint : Text
  tokenEndpoint : Text
  registrationEndpoint : Option Text
  jwksUri : Option Text
  introspectionEndpoint : Option Text
  deviceAuthorizationEndpoint : Option Text
  grantTypesSupported : Option (List Text)
  clientIdMetadataDocumentSupported : Option Bool
  tokenEndpointAuthMethods : Option (List Text)
  codeChallengeMethods : Option (List Text)
  realm : Text
  scopesSupported : List Text
  allowedClientIds : List Text
  authenticator : A
  resourceUrlOverride : Option Text

/-- What the toolkit builds a surface from. -/
structure AuthSurfaceConfig (A : Type) where
  publicBaseUrl : Text
  entries : List (IssuerEntry A)
  allowInsecureHttp : Bool

/-- What an issuer publishes about itself. -/
structure OidcMetadata where
  authorizationEndpoint : Option Text
  tokenEndpoint : Option Text
  registrationEndpoint : Option Text
  jwksUri : Text
  introspectionEndpoint : Option Text
  deviceAuthorizationEndpoint : Option Text
  grantTypesSupported : Option (List Text)
  clientIdMetadataDocumentSupported : Option Bool
  tokenEndpointAuthMethodsSupported : Option (List Text)
  codeChallengeMethodsSupported : Option (List Text)

/-- What the surface takes from the toolkit, with the network behind `discoverOidcMetadata`, and
    how an address is written. -/
structure Toolkit (F A Layer : Type) where
  authenticator : AuthConfig F → Except Text A
  discoverOidcMetadata : Text → Except Text OidcMetadata
  singleIssuer : Text → IssuerEntry A → AuthSurfaceConfig A
  fromConfig : AuthSurfaceConfig A → Except Text Layer
  display : SocketAddr → Text

/-- `str::trim_end_matches` with a slash. -/
def trimEndSlashes (t : Text) : Text := t.rdropWhile (· = '/')

def stripSuffix (t suffix : Text) : Option Text :=
  if suffix <:+ t then some (t.take (t.length - suffix.length)) else none

/-- What stands before `/mcp`. -/
def publicBaseUrlFromResourceUrl (resourceUrl : Text) : Option Text :=
  let trimmed := trimEndSlashes (Text.trim resourceUrl)
  ((stripSuffix trimmed (text "/mcp")).map trimEndSlashes).filter fun base => ¬ base.isEmpty

/-- The authorization and the token endpoint of an issuer that publishes none. -/
def fallbackOauthEndpoints (issuer : Text) : Text × Text :=
  let trimmed := trimEndSlashes issuer
  if text "/realms/" <:+: trimmed then
    (trimmed ++ text "/protocol/openid-connect/auth", trimmed ++ text "/protocol/openid-connect/token")
  else (trimmed ++ text "/oauth/authorize", trimmed ++ text "/oauth/token")

/-- A URL of plain http. -/
def urlUsesInsecureHttp (value : Text) : Bool := Text.startsWith (Text.trim value) (text "http://")

def authSurfaceAllowInsecureHttp {A : Type} (config : AuthSurfaceConfig A) : Bool :=
  urlUsesInsecureHttp config.publicBaseUrl || config.entries.any fun entry =>
    urlUsesInsecureHttp entry.issuer || urlUsesInsecureHttp entry.authorizationEndpoint ||
      urlUsesInsecureHttp entry.tokenEndpoint || entry.jwksUri.any urlUsesInsecureHttp ||
      entry.introspectionEndpoint.any urlUsesInsecureHttp ||
      entry.resourceUrlOverride.any urlUsesInsecureHttp

section Surface

variable {F A Cidr Layer : Type} (toolkit : Toolkit F A Layer) (settings : HttpSettings F Cidr)

/-- The URL of the address that the server binds. -/
def publicBaseUrl : Text :=
  (if settings.tlsFiles.isSome then text "https" else text "http") ++ text "://" ++
    toolkit.display settings.bindAddr

/-- That of the resource URL, or else that one. -/
def surfaceBaseUrl : Text :=
  (settings.auth.resourceUrl.bind publicBaseUrlFromResourceUrl).getD
    (publicBaseUrl toolkit settings)

/-- The configured issuer, or the base URL. -/
def surfaceIssuer : Text :=
  ((settings.auth.issuer.map Text.trim).filter fun value => ¬ value.isEmpty).getD
    (surfaceBaseUrl toolkit settings)

/-- The metadata of the issuer, if one is set and its discovery succeeds. -/
def discovered : Option OidcMetadata :=
  if settings.auth.issuer.isSome then
    (toolkit.discoverOidcMetadata (surfaceIssuer toolkit settings)).toOption
  else none

/-- `mcp_entry`, with what discovery found. -/
def mcpEntry (authenticator : A) : IssuerEntry A :=
  let issuer := surfaceIssuer toolkit settings
  let (defaultAuthz, defaultToken) := fallbackOauthEndpoints issuer
  let metadata := discovered toolkit settings
  { resourcePath := text "/mcp"
    issuer := issuer
    authorizationEndpoint := (metadata.bind (·.authorizationEndpoint)).getD defaultAuthz
    tokenEndpoint := (metadata.bind (·.tokenEndpoint)).getD defaultToken
    registrationEndpoint := metadata.bind (·.registrationEndpoint)
    jwksUri := settings.auth.authConfig.jwksUrl.or (metadata.map (·.jwksUri))
    introspectionEndpoint :=
      settings.auth.authConfig.introspectionUrl.or (metadata.bind (·.introspectionEndpoint))
    deviceAuthorizationEndpoint := metadata.bind (·.deviceAuthorizationEndpoint)
    grantTypesSupported := metadata.bind (·.grantTypesSupported)
    clientIdMetadataDocumentSupported := metadata.bind (·.clientIdMetadataDocumentSupported)
    tokenEndpointAuthMethods := metadata.bind (·.tokenEndpointAuthMethodsSupported)
    codeChallengeMethods := metadata.bind (·.codeChallengeMethodsSupported)
    realm := settings.auth.realm
    scopesSupported := settings.auth.scopesSupported
    allowedClientIds := settings.auth.allowedClientIds
    authenticator := authenticator
    resourceUrlOverride := settings.auth.resourceUrl }

/-- The configuration that `build_auth_surface_layer` arrives at. -/
def authSurfaceConfig : Except Text (Option (AuthSurfaceConfig A)) :=
  if ¬ settings.auth.enabled then .ok none
  else do
    let authenticator ← (toolkit.authenticator settings.auth.authConfig).mapError fun err =>
      text "invalid auth config: " ++ err
    let surface := toolkit.singleIssuer (surfaceBaseUrl toolkit settings)
      (mcpEntry toolkit settings authenticator)
    return some { surface with allowInsecureHttp := authSurfaceAllowInsecureHttp surface }

end Surface

/-! ## Secure URLs -/

/-- A text that starts like an https URL, in any case. -/
def Secure (t : Text) : Prop := text "https:" <+: Text.toAsciiLowercase t

/-- A beginning without these characters outlives their removal at the end. -/
theorem prefix_rdropWhile {α : Type} {p : α → Bool} {pre rest : List α}
    (h : ∀ x ∈ pre, p x = false) : pre <+: (pre ++ rest).rdropWhile p := by
  induction rest using List.reverseRecOn with
  | nil =>
      have hself : pre.rdropWhile p = pre := List.rdropWhile_eq_self_iff.mpr fun hne =>
        Bool.eq_false_iff.mp (h _ (List.getLast_mem hne))
      have hkept : pre <+: pre.rdropWhile p := ⟨[], by rw [List.append_nil, hself]⟩
      simpa only [List.append_nil] using hkept
  | append_singleton rest x ih =>
      rw [← List.append_assoc, List.rdropWhile_concat]
      split
      · exact ih
      · rw [List.append_assoc]
        exact List.prefix_append _ _

/-- And at the start, where it stops at once. -/
theorem dropWhile_append_of_head {α : Type} {p : α → Bool} {pre rest : List α} (hne : pre ≠ [])
    (h : ∀ x ∈ pre, p x = false) : (pre ++ rest).dropWhile p = pre ++ rest := by
  cases pre with
  | nil => exact absurd rfl hne
  | cons x pre => rw [List.cons_append, List.dropWhile_cons_of_neg (by simp [h x])]

namespace Secure

variable {t : Text}

theorem exists_prefix (h : Secure t) :
    ∃ pre rest, t = pre ++ rest ∧ Text.toAsciiLowercase pre = text "https:" := by
  obtain ⟨rest, hrest⟩ := h
  obtain ⟨pre, rest', rfl, hpre, -⟩ := List.map_eq_append_iff.mp hrest.symm
  exact ⟨pre, rest', rfl, hpre⟩

theorem of_prefix {pre rest : Text} (h : Text.toAsciiLowercase pre = text "https:")
    (hbegins : pre <+: rest) : Secure rest := by
  obtain ⟨rest, rfl⟩ := hbegins
  exact ⟨Text.toAsciiLowercase rest, by rw [← h]; exact List.map_append.symm⟩

theorem append (h : Secure t) (rest : Text) : Secure (t ++ rest) := by
  obtain ⟨pre, rest', rfl, hpre⟩ := h.exists_prefix
  exact of_prefix hpre (by rw [List.append_assoc]; exact List.prefix_append _ _)

/-- The characters of the beginning: none of them is a blank or a slash. -/
theorem not_special {pre : Text} (h : Text.toAsciiLowercase pre = text "https:") :
    ∀ c ∈ pre, Text.isWhitespace c = false ∧ c ≠ '/' := by
  intro c hc
  have hlower : c.toLower ∈ text "https:" := h ▸ List.mem_map_of_mem hc
  have hall : (text "https:").all (fun c => ¬ Text.isWhitespace c && c ≠ '/') = true := rfl
  have hspecial := List.all_eq_true.mp hall _ hlower
  simp only [Bool.and_eq_true, decide_eq_true_eq, Bool.not_eq_true] at hspecial
  refine ⟨Text.not_isWhitespace_of_toLower hspecial.1, ?_⟩
  rintro rfl
  exact hspecial.2 rfl

theorem trimEndSlashes (h : Secure t) : Secure (trimEndSlashes t) := by
  obtain ⟨pre, rest, rfl, hpre⟩ := h.exists_prefix
  refine of_prefix hpre (prefix_rdropWhile fun c hc => ?_)
  exact decide_eq_false (not_special hpre c hc).2

theorem trim (h : Secure t) : Secure (Text.trim t) := by
  obtain ⟨pre, rest, rfl, hpre⟩ := h.exists_prefix
  have hblank := fun c hc => (not_special hpre c hc).1
  have hne : pre ≠ [] := by
    rintro rfl
    cases hpre
  refine of_prefix hpre ?_
  rw [Text.trim, Text.trimStart, dropWhile_append_of_head hne hblank]
  exact prefix_rdropWhile hblank

/-- What stands before a suffix that starts with a slash. -/
theorem of_append {suffix : Text} (h : Secure (t ++ '/' :: suffix)) : Secure t := by
  obtain ⟨pre, rest, heq, hpre⟩ := h.exists_prefix
  rcases List.append_eq_append_iff.mp heq with ⟨between, rfl, hrest⟩ | ⟨between, rfl, hrest⟩
  -- the beginning has no slash, so the suffix does not reach into it
  · cases between with
    | nil => exact of_prefix hpre (by simp)
    | cons c between =>
        rw [List.cons_append, List.cons.injEq] at hrest
        exact absurd hrest.1.symm (not_special hpre c (by simp)).2
  · exact of_prefix hpre (List.prefix_append _ _)

theorem not_insecure (h : Secure t) : urlUsesInsecureHttp t = false := by
  rw [urlUsesInsecureHttp, ← Bool.not_eq_true, startsWith_iff]
  intro hinsecure
  have hlower : text "http://" <+: Text.toAsciiLowercase (Text.trim t) := hinsecure.map Char.toLower
  have hboth : text "https:" <+: text "http://" :=
    List.prefix_of_prefix_length_le h.trim hlower (by decide)
  exact Bool.false_ne_true (startsWith_iff.mpr hboth)

end Secure

theorem secure_of_isHttps {url : Text} (h : IsHttps url) : Secure (Text.trim url) :=
  List.IsPrefix.trans ⟨text "//", rfl⟩ h

/-! ## A public surface -/

theorem stripSuffix_eq_some {t suffix base : Text} (h : stripSuffix t suffix = some base) :
    t = base ++ suffix := by
  unfold stripSuffix at h
  split at h
  · next hsuffix =>
      cases h
      exact (List.suffix_iff_eq_append.mp hsuffix).symm
  · cases h

theorem secure_publicBaseUrlFromResourceUrl {resourceUrl base : Text}
    (hhttps : Text.trim resourceUrl ≠ [] → IsHttps resourceUrl)
    (h : publicBaseUrlFromResourceUrl resourceUrl = some base) : Secure base := by
  obtain ⟨h, -⟩ := Option.filter_eq_some_iff.mp h
  obtain ⟨stem, hstem, rfl⟩ := Option.map_eq_some_iff.mp h
  have htrimmed := stripSuffix_eq_some hstem
  have hne : Text.trim resourceUrl ≠ [] := by
    intro hnil
    rw [hnil] at htrimmed
    exact absurd htrimmed.symm (by simp [trimEndSlashes, text])
  have hsecure := (secure_of_isHttps (hhttps hne)).trimEndSlashes
  rw [htrimmed] at hsecure
  exact (Secure.of_append hsecure).trimEndSlashes

theorem secure_fallback {issuer : Text} (h : Secure issuer) :
    Secure (fallbackOauthEndpoints issuer).1 ∧ Secure (fallbackOauthEndpoints issuer).2 := by
  unfold fallbackOauthEndpoints
  dsimp only
  split
  · exact ⟨h.trimEndSlashes.append _, h.trimEndSlashes.append _⟩
  · exact ⟨h.trimEndSlashes.append _, h.trimEndSlashes.append _⟩

section Public

variable {F A Cidr Layer : Type} {toolkit : Toolkit F A Layer} {settings : HttpSettings F Cidr}

/-- The settings of a public server with authentication. -/
structure PublicAuth (settings : HttpSettings F Cidr) : Prop extends Posture settings where
  allowNonLoopback : settings.allowNonLoopback = true
  enabled : settings.auth.enabled = true

theorem PublicAuth.secure_of_mem (h : PublicAuth settings) {value : Option Text}
    (hvalue : value ∈ settings.auth.urls) {url : Text} (hurl : url ∈ value)
    (hne : Text.trim url ≠ []) : Secure (Text.trim url) :=
  secure_of_isHttps (h.https h.allowNonLoopback h.enabled value hvalue url hurl hne)

theorem PublicAuth.not_insecure (h : PublicAuth settings) {value : Option Text}
    (hvalue : value ∈ settings.auth.urls) : value.any urlUsesInsecureHttp = false := by
  cases value with
  | none => rfl
  | some url =>
      have htrim : urlUsesInsecureHttp url = urlUsesInsecureHttp (Text.trim url) := by
        rw [urlUsesInsecureHttp, urlUsesInsecureHttp, Text.trim_trim]
      rw [Option.any_some, htrim]
      by_cases hne : Text.trim url = []
      · rw [hne]
        rfl
      · exact (h.secure_of_mem hvalue rfl hne).not_insecure

theorem PublicAuth.secure_baseUrl (h : PublicAuth settings) :
    Secure (surfaceBaseUrl toolkit settings) := by
  have hown : Secure (publicBaseUrl toolkit settings) := by
    obtain ⟨files, hfiles⟩ := h.tls h.allowNonLoopback
    rw [publicBaseUrl, hfiles]
    exact ⟨text "//" ++ Text.toAsciiLowercase (toolkit.display settings.bindAddr), rfl⟩
  unfold surfaceBaseUrl
  cases hbase : settings.auth.resourceUrl.bind publicBaseUrlFromResourceUrl with
  | none => exact hown
  | some base =>
      obtain ⟨resourceUrl, hurl, hbase⟩ := Option.bind_eq_some_iff.mp hbase
      exact secure_publicBaseUrlFromResourceUrl (h.https h.allowNonLoopback h.enabled _
        List.mem_cons_self resourceUrl hurl) hbase

theorem PublicAuth.secure_issuer (h : PublicAuth settings) :
    Secure (surfaceIssuer toolkit settings) := by
  unfold surfaceIssuer
  cases hissuer : (settings.auth.issuer.map Text.trim).filter fun value => ¬ value.isEmpty with
  | none => exact h.secure_baseUrl
  | some issuer =>
      obtain ⟨hissuer, hne⟩ := Option.filter_eq_some_iff.mp hissuer
      obtain ⟨raw, hraw, rfl⟩ := Option.map_eq_some_iff.mp hissuer
      have hmem : settings.auth.issuer ∈ settings.auth.urls := by simp [HttpAuthSettings.urls]
      exact h.secure_of_mem hmem hraw (by simpa using hne)

/-- The endpoints of the metadata that `auth_surface_allow_insecure_http` looks at: those for
    authorization and for tokens, and the keys and the introspection if none is configured. The
    surface takes the registration and the device authorization endpoint as well. -/
def OidcMetadata.checkedEndpoints (metadata : OidcMetadata) (authConfig : AuthConfig F) : List Text :=
  metadata.authorizationEndpoint.toList ++ metadata.tokenEndpoint.toList ++
    (if authConfig.jwksUrl.isNone then [metadata.jwksUri] else []) ++
    (if authConfig.introspectionUrl.isNone then metadata.introspectionEndpoint.toList else [])

theorem OidcMetadata.any_checkedEndpoints (metadata : OidcMetadata) (authConfig : AuthConfig F)
    (p : Text → Bool) : (metadata.checkedEndpoints authConfig).any p =
      (metadata.authorizationEndpoint.any p || metadata.tokenEndpoint.any p ||
        (authConfig.jwksUrl.isNone && p metadata.jwksUri) ||
        (authConfig.introspectionUrl.isNone && metadata.introspectionEndpoint.any p)) := by
  have htoList : ∀ value : Option Text, value.toList.any p = value.any p := by
    intro value
    cases value <;> simp
  rw [checkedEndpoints, List.any_append, List.any_append, List.any_append, htoList, htoList]
  cases authConfig.jwksUrl <;> cases authConfig.introspectionUrl <;> simp [htoList]

/-- The two endpoints that are not looked at make no difference, whatever they are. -/
theorem authSurfaceAllowInsecureHttp_unchecked (surface : AuthSurfaceConfig A)
    (registration device : IssuerEntry A → Option Text) :
    authSurfaceAllowInsecureHttp { surface with entries := surface.entries.map fun entry =>
      { entry with registrationEndpoint := registration entry
                   deviceAuthorizationEndpoint := device entry } } =
      authSurfaceAllowInsecureHttp surface := by
  simp only [authSurfaceAllowInsecureHttp, List.any_map]
  rfl

/-- What the constructor of the toolkit keeps of its arguments. -/
def Toolkit.KeepsIssuer (toolkit : Toolkit F A Layer) : Prop :=
  ∀ baseUrl entry, (toolkit.singleIssuer baseUrl entry).publicBaseUrl = baseUrl ∧
    (toolkit.singleIssuer baseUrl entry).entries = [entry]

theorem any_getD {p : Text → Bool} {value : Option Text} {default : Text} (h : p default = false) :
    p (value.getD default) = value.any p := by
  cases value with
  | none => exact h
  | some url => rfl

theorem any_or {p : Text → Bool} {value other : Option Text} (h : value.any p = false) :
    (value.or other).any p = (value.isNone && other.any p) := by
  cases value with
  | none => rfl
  | some url => exact h

/-- **Plain HTTP** is allowed on a public server exactly if one of the four discovered endpoints
    that are looked at asks for it. -/
theorem insecure_iff {readers : Readers F Cidr} {profile : AuthConfig F} {env : Env}
    (hsettings : HttpSettings.fromEnv readers profile env = .ok settings)
    (hpublic : settings.allowNonLoopback = true) (htoolkit : toolkit.KeepsIssuer)
    {surface : AuthSurfaceConfig A}
    (hsurface : authSurfaceConfig toolkit settings = .ok (some surface)) :
    surface.allowInsecureHttp = true ↔ ∃ metadata ∈ discovered toolkit settings,
      ∃ url ∈ metadata.checkedEndpoints settings.auth.authConfig, urlUsesInsecureHttp url = true := by
  have henabled : settings.auth.enabled = true := by
    by_contra hdisabled
    rw [authSurfaceConfig, if_pos hdisabled] at hsurface
    cases hsurface
  have hpublic : PublicAuth settings := ⟨(read_of_fromEnv hsettings).2, hpublic, henabled⟩
  rw [authSurfaceConfig, if_neg (not_not_intro henabled)] at hsurface
  obtain ⟨authenticator, -, hsurface⟩ := bind_eq_ok.mp hsurface
  cases pure_eq_ok.mp hsurface
  obtain ⟨hbase, hentries⟩ :=
    htoolkit (surfaceBaseUrl toolkit settings) (mcpEntry toolkit settings authenticator)
  have hissuer : Secure (surfaceIssuer toolkit settings) := hpublic.secure_issuer
  have hfallback := secure_fallback hissuer
  have hmem : ∀ value ∈ settings.auth.urls, value.any urlUsesInsecureHttp = false :=
    fun value hvalue => hpublic.not_insecure hvalue
  simp only [HttpAuthSettings.urls, List.forall_mem_cons] at hmem
  obtain ⟨hresource, -, hjwks, hintrospection, -⟩ := hmem
  dsimp only
  rw [authSurfaceAllowInsecureHttp, hbase, hentries, List.any_cons, List.any_nil]
  -- what is configured or made up is secure, so only the discovered endpoints are left
  simp only [mcpEntry, hpublic.secure_baseUrl.not_insecure, hissuer.not_insecure, hresource,
    any_getD hfallback.1.not_insecure, any_getD hfallback.2.not_insecure, any_or hjwks,
    any_or hintrospection]
  cases discovered toolkit settings with
  | none => simp
  | some metadata =>
      simp only [Option.mem_def, Option.some.injEq, exists_eq_left', ← List.any_eq_true,
        metadata.any_checkedEndpoints]
      simp

end Public

/-! ## An issuer with a plain endpoint -/

/-- A server for everyone, with tokens of `https://issuer.example`. -/
def publicEnv : Env := fun name =>
  ([("GA4_MCP_BIND_ADDR", "0.0.0.0:9420"), ("GA4_MCP_ALLOW_NON_LOOPBACK", "1"),
    ("GA4_MCP_ALLOWED_CIDRS", "0.0.0.0/0"), ("GA4_MCP_TLS_CERT_PATH", "/tls/cert.pem"),
    ("GA4_MCP_TLS_KEY_PATH", "/tls/key.pem"), ("GA4_MCP_AUTH_ENABLED", "true"),
    ("GA4_MCP_AUTH_STRICT_OAUTH", "true"), ("GA4_MCP_AUTH_ISSUER", "https://issuer.example"),
    ("GA4_MCP_AUTH_AUDIENCE", "ga4"), ("GA4_MCP_AUTH_JWKS_URL", "https://issuer.example/jwks")
    ].lookup name).map text

/-- Readers that know the one address; a network is its text. -/
def publicReaders : Readers Unit Text where
  debug := id
  socketAddr := fun raw =>
    if raw = text "0.0.0.0:9420" then .ok ⟨.v4 0, 9420⟩
    else .error (text "invalid socket address syntax")
  float := fun _ => .ok ()
  int := fun _ => .ok 0
  cidr := .ok

/-- A profile with nothing set. -/
def emptyProfile : AuthConfig Unit where
  mode := .jwks
  strictOauth := true
  jwksUrl := none
  issuer := none
  audience := none
  requiredScopes := []
  actorClaim := text "sub"
  introspectionUrl := none
  introspectionClientId := none
  introspectionClientSecret := none
  introspectionAuthMethod := .clientSecretBasic
  introspectionCacheTtlS := ()
  introspectionForce := false
  delegationSecret := none
  delegationIssuer := []
  delegationAudience := []
  jtiTtlS := ()
  jtiCacheSize := 0
  jtiEnforceBearer := false
  clockSkewS := ()

/-- An issuer that publishes a token endpoint without TLS. -/
def plainMetadata : OidcMetadata where
  authorizationEndpoint := none
  tokenEndpoint := some (text "http://issuer.example/token")
  registrationEndpoint := none
  jwksUri := text "https://issuer.example/jwks"
  introspectionEndpoint := none
  deviceAuthorizationEndpoint := none
  grantTypesSupported := none
  clientIdMetadataDocumentSupported := none
  tokenEndpointAuthMethodsSupported := none
  codeChallengeMethodsSupported := none

/-- A toolkit that discovers endpoints of plain http. -/
def plainToolkit : Toolkit Unit Unit Unit where
  authenticator := fun _ => .ok ()
  discoverOidcMetadata := fun _ => .ok plainMetadata
  singleIssuer := fun baseUrl entry => ⟨baseUrl, [entry], false⟩
  fromConfig := fun _ => .ok ()
  display := fun _ => text "0.0.0.0:9420"

/-- Every URL of the environment is https, and plain HTTP is allowed. -/
theorem insecure_tokenEndpoint : ∃ settings surface,
    HttpSettings.fromEnv publicReaders emptyProfile publicEnv = .ok settings ∧
    authSurfaceConfig plainToolkit settings = .ok (some surface) ∧
    surface.allowInsecureHttp = true := by
  have hloads : (HttpSettings.fromEnv publicReaders emptyProfile publicEnv).toOption.map
      (fun settings => (settings.allowNonLoopback, settings.auth.enabled,
        settings.auth.issuer.isSome)) = some (true, true, true) := by
    decide +kernel
  obtain ⟨settings, hsettings, hflags⟩ := Option.map_eq_some_iff.mp hloads
  have hsettings := toOption_eq_some.mp hsettings
  simp only [Prod.mk.injEq] at hflags
  obtain ⟨hpublic, henabled, hissuer⟩ := hflags
  have hsurface : ∃ surface,
      authSurfaceConfig plainToolkit settings = .ok (some surface) := by
    rw [authSurfaceConfig, if_neg (not_not_intro henabled)]
    exact ⟨_, rfl⟩
  obtain ⟨surface, hsurface⟩ := hsurface
  refine ⟨settings, surface, hsettings, hsurface, ?_⟩
  refine (insecure_iff hsettings hpublic (fun _ _ => ⟨rfl, rfl⟩) hsurface).mpr ?_
  refine ⟨plainMetadata, ?_, text "http://issuer.example/token", ?_, rfl⟩
  · rw [discovered, if_pos hissuer]
    rfl
  · simp [OidcMetadata.checkedEndpoints, plainMetadata]

end Ga4Mcp.Http
