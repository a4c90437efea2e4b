/-
  Which token a Google Analytics call is made with: the header lookup of `src/server.rs`
  and the token selection of `src/ga_client.rs`.

  The server's own credential is a parameter, the result of `configured_access_token`. That
  a token comes from it, or from a header, is said by what the token depends on.

  * `parse_some`: what becomes of a header value.
  * `ignoresServer_iff`: with the fallback, the server's credential is out of play exactly
    if the header's first value is a printable text that is not blank.
  * `credentialSelection`: the three modes.

  A value with a byte that is not printable is taken for no header at all.
-/
import Ga4Mcp.Error
import Ga4Mcp.Lib.Checks

namespace Ga4Mcp.Auth

open Ga4Mcp.Lib

/-! ## Requests -/

/-- The bytes of a header. -/
abbrev HeaderValue := List UInt8

/-- `http::request::Parts`, as far as it is read: names as the header map keeps them, in
    lower case, each value on its own. -/
structure Parts where
  headers : List (Text × HeaderValue)
deriving DecidableEq, Repr

/-- All values under a name. -/
def Parts.getAll (parts : Parts) (headerName : Text) : List HeaderValue :=
  (parts.headers.filter fun h => h.1 = Text.toAsciiLowercase headerName).map Prod.snd

/-- `HeaderMap::get`. -/
def Parts.get (parts : Parts) (headerName : Text) : Option HeaderValue :=
  (parts.getAll headerName).head?

/-- What `to_str` takes in a header. -/
def isVisibleAscii (b : UInt8) : Bool := (32 ≤ b && b < 127) || b = 9

/-- `HeaderValue::to_str`. -/
def toStr (value : HeaderValue) : Option Text :=
  if value.all isVisibleAscii then some (value.map fun b => Char.ofNat b.toNat) else none

/-! ## The source -/

/-- Where the upstream token comes from. -/
inductive UpstreamTokenSource where
  | config
  | requestHeader
  | requestHeaderOrConfig
deriving DecidableEq, Repr

/-- Whether a request may carry it. -/
def UpstreamTokenSource.usesRequestHeader : UpstreamTokenSource → Bool
  | config => false
  | requestHeader | requestHeaderOrConfig => true

/-- The settings that select the token. -/
structure TokenSettings where
  tokenSource : UpstreamTokenSource
  tokenHeader : Text
deriving DecidableEq, Repr

/-- The header's text; one that is no text counts as missing. -/
def upstreamTokenOverrideFromParts (parts : Parts) (headerName : Text) : Option Text :=
  (((parts.get headerName).bind toStr).map Text.trim).filter fun value => ¬ value.isEmpty

/-- A transport without HTTP has no parts. -/
def upstreamTokenOverrideFromContext (context : Option Parts) (source : UpstreamTokenSource)
    (headerName : Text) : Option Text :=
  if ¬ source.usesRequestHeader then none
  else context.bind fun parts => upstreamTokenOverrideFromParts parts headerName

/-- What stands behind `Bearer` and a blank. -/
def stripBearerScheme (value : Text) : Option Text := do
  let (scheme, rest) ← Text.splitOnce ' ' value
  if Text.eqIgnoreAsciiCase scheme (text "bearer") then some rest else none

/-- The token of a header's text. -/
def normalizeRequestTokenValue (rawValue headerName : Text) : Except Text Text :=
  match stripBearerScheme rawValue with
  | some stripped =>
      let token := Text.trim stripped
      if token.isEmpty then .error (text "Bearer token is empty") else .ok token
  | none =>
      if rawValue.any Text.isWhitespace then
        if Text.eqIgnoreAsciiCase headerName (text "authorization") then
          .error (text "authorization header must use 'Bearer <token>' or a compact token value")
        else .error (text "token header must be a compact token or use Bearer scheme")
      else .ok rawValue

/-- The token of a header, if there is one. -/
def parseRequestTokenHeaderValue (rawValue : Option Text) (headerName : Text) :
    Except AnalyticsError (Option Text) :=
  match (rawValue.map Text.trim).filter fun value => ¬ value.isEmpty with
  | none => .ok none
  | some value =>
      ((normalizeRequestTokenValue value headerName).map some).mapError
        (.malformedRequestAccessToken headerName)

/-- `override` is the task-local `REQUEST_ACCESS_TOKEN_OVERRIDE`. -/
def accessToken (settings : TokenSettings) (override : Option Text)
    (configured : Except AnalyticsError Text) : Except AnalyticsError Text := do
  let requestToken ← parseRequestTokenHeaderValue override settings.tokenHeader
  match settings.tokenSource with
  | .config => configured
  | .requestHeader => okOr requestToken (.missingRequestAccessToken settings.tokenHeader)
  | .requestHeaderOrConfig =>
      match requestToken with
      | some token => .ok token
      | none => configured

/-- The calls to Google Analytics that a request can lead to. -/
inductive GaCall where
  /-- `get_json` and `post_json`, behind every tool. -/
  | tool
  /-- The check of `ga4_auth_status` with `verify_token`. -/
  | tokenCheck
deriving DecidableEq, Repr

/-- The token that a call of a request is made with, or the error instead. -/
def tokenUsed (settings : TokenSettings) (call : GaCall) (context : Option Parts)
    (configured : Except AnalyticsError Text) : Except AnalyticsError Text :=
  let override :=
    upstreamTokenOverrideFromContext context settings.tokenSource settings.tokenHeader
  match call with
  | .tool => accessToken settings override configured
  | .tokenCheck =>
      -- `verify_config_token` and `verify_token`
      if settings.tokenSource = .requestHeader then configured
      else accessToken settings override configured

/-! ## Where a token comes from -/

section Origin

variable (settings : TokenSettings) (call : GaCall) (context : Option Parts)

/-- No header of any request makes a difference. -/
def IgnoresHeaders : Prop :=
  ∀ context' configured,
    tokenUsed settings call context' configured = tokenUsed settings call context configured

/-- The server's credential makes no difference. -/
def IgnoresServer : Prop :=
  ∀ configured configured',
    tokenUsed settings call context configured = tokenUsed settings call context configured'

/-- The first value of the configured header. -/
def firstValue : Option HeaderValue := context.bind fun parts => parts.get settings.tokenHeader

/-- All values of the configured header. -/
def headerValues : List HeaderValue :=
  context.elim [] fun parts => parts.getAll settings.tokenHeader

/-- The white space of a header value: spaces and tabs. -/
def Blank (value : HeaderValue) : Prop := ∀ b ∈ value, b = 32 ∨ b = 9

/-- A header that `to_str` takes. -/
def Printable (value : HeaderValue) : Prop := value.all isVisibleAscii

/-- A text that is a token: one word, or the Bearer scheme with something after it. -/
def WellFormed (value : Text) : Prop :=
  match Text.splitOnce ' ' (Text.trim value) with
  | none => Text.trim value ≠ [] ∧ ∀ c ∈ Text.trim value, ¬ Text.isWhitespace c
  | some (scheme, rest) =>
      Text.eqIgnoreAsciiCase scheme (text "bearer") ∧ Text.trim rest ≠ []

/-- The token is a part of the header's first value, which is a well formed one. -/
def TakenFromHeader (token : Text) : Prop :=
  ∃ value t, firstValue settings context = some value ∧ toStr value = some t ∧ WellFormed t ∧
    token ≠ [] ∧ token <:+: t

/-- The token, if there is one, is in the header: a call with anything else fails. -/
def OnlyFromHeader : Prop :=
  IgnoresServer settings call context ∧ ∀ configured token,
    tokenUsed settings call context configured = .ok token → TakenFromHeader settings context token

/-- Strict selection, in each mode, for a header with these values. -/
def StrictSelection (values : List HeaderValue) : Prop :=
  match settings.tokenSource with
  | .config => IgnoresHeaders settings call context
  | .requestHeader => OnlyFromHeader settings call context
  | .requestHeaderOrConfig =>
      (∀ value ∈ values, Blank value) ∨ OnlyFromHeader settings call context

end Origin

/-! ## Header values -/

section Values

variable {value : HeaderValue} {t : Text}

/-- Among the bytes that `to_str` lets through, only the space and the tab are white space. -/
theorem isWhitespace_of_isVisibleAscii : ∀ b : UInt8, isVisibleAscii b →
    (Text.isWhitespace (Char.ofNat b.toNat) ↔ b = 32 ∨ b = 9) :=
  SqlSafety.forall_byte (by decide +kernel)

theorem toStr_of_printable (h : Printable value) : ∃ t, toStr value = some t := ⟨_, if_pos h⟩

theorem printable_of_toStr (h : toStr value = some t) : Printable value := by
  unfold toStr at h
  split at h
  case isTrue hall => exact hall
  case isFalse => cases h

/-- A printable value is blank if nothing is left of it after trimming. -/
theorem trim_eq_nil_iff_blank (h : toStr value = some t) : Text.trim t = [] ↔ Blank value := by
  have hprintable : value.all isVisibleAscii := printable_of_toStr h
  have hall := List.all_eq_true.mp hprintable
  rw [toStr, if_pos hprintable] at h
  obtain rfl := Option.some.inj h
  rw [Text.trim_eq_nil_iff, List.forall_mem_map]
  exact forall₂_congr fun b hb => isWhitespace_of_isVisibleAscii b (hall b hb)

end Values

/-! ## The token of a value -/

section Tokens

variable {t headerName : Text}

theorem stripBearerScheme_eq (t : Text) : stripBearerScheme t =
    match Text.splitOnce ' ' t with
    | some (scheme, rest) =>
        if Text.eqIgnoreAsciiCase scheme (text "bearer") then some rest else none
    | none => none := by
  unfold stripBearerScheme
  cases Text.splitOnce ' ' t <;> rfl

theorem mem_of_splitOnce {sep : Char} {t a b : Text} (h : Text.splitOnce sep t = some (a, b)) :
    sep ∈ t := by
  rw [(Text.splitOnce_eq_some h).1]
  exact List.mem_append_right _ List.mem_cons_self

/-- A well formed value gives a token that is a part of it. -/
theorem normalize_of_wellFormed (h : WellFormed t) (headerName : Text) :
    ∃ token, normalizeRequestTokenValue (Text.trim t) headerName = .ok token ∧ token ≠ [] ∧
      token <:+: t := by
  unfold WellFormed at h
  unfold normalizeRequestTokenValue
  rw [stripBearerScheme_eq]
  cases hsplit : Text.splitOnce ' ' (Text.trim t) with
  | none =>
      rw [hsplit] at h
      obtain ⟨hne, hall⟩ := h
      have hany : (Text.trim t).any Text.isWhitespace = false := by simpa using hall
      simp only [hany, Bool.false_eq_true, if_false]
      exact ⟨_, rfl, hne, Text.trim_infix t⟩
  | some parts =>
      obtain ⟨scheme, rest⟩ := parts
      rw [hsplit] at h
      obtain ⟨hscheme, hrest⟩ := h
      simp only [hscheme, if_true, List.isEmpty_iff, hrest, if_false]
      refine ⟨_, rfl, hrest, (Text.trim_infix rest).trans ?_⟩
      have hsuffix : rest <:+ Text.trim t := by
        rw [(Text.splitOnce_eq_some hsplit).1]
        exact (List.suffix_cons ' ' rest).trans (List.suffix_append scheme _)
      exact hsuffix.isInfix.trans (Text.trim_infix t)

theorem normalize_of_not_wellFormed (h : ¬ WellFormed t) (hne : Text.trim t ≠ [])
    (headerName : Text) :
    ∃ message, normalizeRequestTokenValue (Text.trim t) headerName = .error message := by
  have herror : ∀ value, stripBearerScheme value = none → value.any Text.isWhitespace →
      ∃ message, normalizeRequestTokenValue value headerName = .error message := by
    intro value hstrip hany
    unfold normalizeRequestTokenValue
    rw [hstrip]
    simp only [hany, if_true]
    split <;> exact ⟨_, rfl⟩
  unfold WellFormed at h
  cases hsplit : Text.splitOnce ' ' (Text.trim t) with
  | none =>
      simp only [hsplit, hne, ne_eq, not_false_eq_true, true_and, not_forall, not_not] at h
      obtain ⟨c, hc, hspace⟩ := h
      refine herror _ ?_ (List.any_eq_true.mpr ⟨c, hc, hspace⟩)
      rw [stripBearerScheme_eq, hsplit]
  | some parts =>
      obtain ⟨scheme, rest⟩ := parts
      simp only [hsplit, not_and] at h
      by_cases hscheme : Text.eqIgnoreAsciiCase scheme (text "bearer")
      · have hrest : Text.trim rest = [] := not_not.mp (h hscheme)
        unfold normalizeRequestTokenValue
        rw [stripBearerScheme_eq, hsplit]
        simp only [hscheme, if_true, hrest, List.isEmpty_nil]
        exact ⟨_, rfl⟩
      · refine herror _ ?_ (List.any_eq_true.mpr ⟨' ', mem_of_splitOnce hsplit, by decide⟩)
        rw [stripBearerScheme_eq, hsplit]
        simp only [hscheme]
        rfl


/-- What becomes of a text: no token, an error, or a token. -/
theorem parse_some (t headerName : Text) :
    (Text.trim t = [] ∧ parseRequestTokenHeaderValue (some t) headerName = .ok none) ∨
    (Text.trim t ≠ [] ∧ ¬ WellFormed t ∧
      ∃ err, parseRequestTokenHeaderValue (some t) headerName = .error err) ∨
    (WellFormed t ∧ ∃ token, parseRequestTokenHeaderValue (some t) headerName = .ok (some token) ∧
      token ≠ [] ∧ token <:+: t) := by
  unfold parseRequestTokenHeaderValue
  by_cases hnil : Text.trim t = []
  · have hfilter : ((some t).map Text.trim).filter (fun value => ¬ value.isEmpty) = none := by
      simp [hnil, Option.filter]
    rw [hfilter]
    exact .inl ⟨hnil, rfl⟩
  · have hfilter : ((some t).map Text.trim).filter (fun value => ¬ value.isEmpty) =
        some (Text.trim t) := by simp [hnil]
    rw [hfilter]
    dsimp only
    by_cases h : WellFormed t
    · obtain ⟨token, htoken, hne, hpart⟩ := normalize_of_wellFormed h headerName
      rw [htoken]
      exact .inr (.inr ⟨h, token, rfl, hne, hpart⟩)
    · obtain ⟨message, hmessage⟩ := normalize_of_not_wellFormed h hnil headerName
      rw [hmessage]
      exact .inr (.inl ⟨hnil, h, _, rfl⟩)

end Tokens

/-! ## The request's token -/

section Selection

variable {settings : TokenSettings} {call : GaCall} {context : Option Parts}

/-- The header's first value, as a printable text that is not blank. -/
def Presented (settings : TokenSettings) (context : Option Parts) (t : Text) : Prop :=
  ∃ value, firstValue settings context = some value ∧ toStr value = some t ∧ Text.trim t ≠ []

theorem override_cases (huses : settings.tokenSource.usesRequestHeader) :
    ((∀ t, ¬ Presented settings context t) ∧ upstreamTokenOverrideFromContext context
      settings.tokenSource settings.tokenHeader = none) ∨
    ∃ t, Presented settings context t ∧ upstreamTokenOverrideFromContext context
      settings.tokenSource settings.tokenHeader = some (Text.trim t) := by
  have hoverride : upstreamTokenOverrideFromContext context settings.tokenSource
      settings.tokenHeader = (((firstValue settings context).bind toStr).map Text.trim).filter
        fun value => ¬ value.isEmpty := by
    unfold upstreamTokenOverrideFromContext firstValue
    rw [if_neg (by simp [huses])]
    cases context <;> rfl
  rw [hoverride]
  cases hvalue : (firstValue settings context).bind toStr with
  | none =>
      refine .inl ⟨fun t ⟨value, hfirst, ht, _⟩ => ?_, rfl⟩
      rw [hfirst, Option.bind_some, ht] at hvalue
      cases hvalue
  | some t =>
      obtain ⟨value, hfirst, ht⟩ := Option.bind_eq_some_iff.mp hvalue
      by_cases hnil : Text.trim t = []
      · refine .inl ⟨fun t' ⟨value', hfirst', ht', hne⟩ => hne ?_, by simp [hnil, Option.filter]⟩
        obtain rfl : value = value' := Option.some.inj (hfirst.symm.trans hfirst')
        obtain rfl : t = t' := Option.some.inj (ht.symm.trans ht')
        exact hnil
      · exact .inr ⟨t, ⟨value, hfirst, ht, hnil⟩, by simp [hnil, Option.filter]⟩

theorem wellFormed_trim {t : Text} : WellFormed (Text.trim t) ↔ WellFormed t := by
  unfold WellFormed
  rw [Text.trim_trim]

/-- The request has no token, a bad one, or one in its header. -/
theorem accessToken_cases (huses : settings.tokenSource.usesRequestHeader) :
    ((∀ t, ¬ Presented settings context t) ∧
      ∀ configured, tokenUsed settings .tool context configured =
        if settings.tokenSource = .requestHeader then
          .error (.missingRequestAccessToken settings.tokenHeader)
        else configured) ∨
    ((∃ t, Presented settings context t) ∧
      ((∃ err, ∀ configured, tokenUsed settings .tool context configured = .error err) ∨
        ∃ token, TakenFromHeader settings context token ∧
          ∀ configured, tokenUsed settings .tool context configured = .ok token)) := by
  unfold tokenUsed accessToken
  rcases override_cases huses with ⟨hnone, hoverride⟩ | ⟨t, hpresented, hoverride⟩
  · refine .inl ⟨hnone, fun configured => ?_⟩
    rw [hoverride]
    cases hsource : settings.tokenSource with
    | config => simp [hsource, UpstreamTokenSource.usesRequestHeader] at huses
    | requestHeader => rfl
    | requestHeaderOrConfig => rfl
  · obtain ⟨value, hfirst, ht, hne⟩ := hpresented
    refine .inr ⟨⟨t, value, hfirst, ht, hne⟩, ?_⟩
    rw [hoverride]
    rcases parse_some (Text.trim t) settings.tokenHeader with
      ⟨hnil, _⟩ | ⟨_, _, err, herr⟩ | ⟨hwell, token, htoken, htokenNe, hpart⟩
    · rw [Text.trim_trim] at hnil
      exact absurd hnil hne
    · refine .inl ⟨err, fun configured => ?_⟩
      dsimp only
      rw [herr]
      rfl
    · refine .inr ⟨token, ⟨value, t, hfirst, ht, wellFormed_trim.mp hwell, htokenNe,
        hpart.trans (Text.trim_infix t)⟩, fun configured => ?_⟩
      dsimp only
      rw [htoken]
      cases hsource : settings.tokenSource with
      | config => simp [hsource, UpstreamTokenSource.usesRequestHeader] at huses
      | requestHeader => rfl
      | requestHeaderOrConfig => rfl

theorem onlyFromHeader_of_forall {result : Except AnalyticsError Text}
    (h : ∀ configured, tokenUsed settings call context configured = result)
    (hresult : ∀ token, result = .ok token → TakenFromHeader settings context token) :
    OnlyFromHeader settings call context := by
  refine ⟨fun configured configured' => by rw [h, h], fun configured token htoken => ?_⟩
  exact hresult token ((h configured).symm.trans htoken)

/-- In a mode without fallback, or with a header that is presented. -/
theorem onlyFromHeader_tool (huses : settings.tokenSource.usesRequestHeader)
    (h : settings.tokenSource = .requestHeader ∨ ∃ t, Presented settings context t) :
    OnlyFromHeader settings .tool context := by
  rcases accessToken_cases huses with ⟨hnone, hresult⟩ |
    ⟨_, ⟨err, hresult⟩ | ⟨token, htaken, hresult⟩⟩
  · have hsource : settings.tokenSource = .requestHeader :=
      h.resolve_right fun ⟨t, ht⟩ => hnone t ht
    refine onlyFromHeader_of_forall
      (fun configured => (hresult configured).trans (if_pos hsource)) ?_
    intro token htoken
    cases htoken
  · refine onlyFromHeader_of_forall hresult ?_
    intro token htoken
    cases htoken
  · refine onlyFromHeader_of_forall hresult ?_
    intro token' htoken
    rwa [← Except.ok.inj htoken]

/-- With the fallback, the check of the token is made as any other call. -/
theorem tokenUsed_of_ne (h : settings.tokenSource = .requestHeader → call = .tool)
    (configured : Except AnalyticsError Text) :
    tokenUsed settings call context configured = tokenUsed settings .tool context configured := by
  cases call with
  | tool => rfl
  | tokenCheck =>
      have hsource : settings.tokenSource ≠ .requestHeader := fun hsource => by cases h hsource
      exact if_neg hsource

/-- **When the server's credential is out of play**, with the fallback. -/
theorem ignoresServer_iff (hsource : settings.tokenSource = .requestHeaderOrConfig) :
    IgnoresServer settings call context ↔ ∃ t, Presented settings context t := by
  have hcall : settings.tokenSource = .requestHeader → call = .tool := by simp [hsource]
  have huses : settings.tokenSource.usesRequestHeader := by rw [hsource]; rfl
  constructor
  · intro h
    by_contra hnone
    rcases @accessToken_cases settings context huses with ⟨_, hresult⟩ | ⟨hsome, _⟩
    · have hsame := h (.ok []) (.ok [' '])
      rw [tokenUsed_of_ne hcall, tokenUsed_of_ne hcall, hresult, hresult,
        if_neg (by simp [hsource]), if_neg (by simp [hsource])] at hsame
      cases hsame
    · exact hnone hsome
  · intro h configured configured'
    rw [tokenUsed_of_ne hcall, tokenUsed_of_ne hcall]
    exact (onlyFromHeader_tool huses (.inr h)).1 configured configured'

/-- **Credential selection**: strict in every mode, but for the check of `ga4_auth_status`,
    which tests the server's credential where requests bring their own. -/
theorem credentialSelection (settings : TokenSettings) (call : GaCall) (context : Option Parts)
    (hprintable : settings.tokenSource = .requestHeaderOrConfig →
      ∀ value ∈ firstValue settings context, Printable value) :
    if settings.tokenSource = .requestHeader ∧ call = .tokenCheck then
      ∀ configured, tokenUsed settings call context configured = configured
    else StrictSelection settings call context (firstValue settings context).toList := by
  split
  case isTrue h =>
    intro configured
    rw [h.2]
    exact if_pos h.1
  case isFalse h =>
    have hcall : settings.tokenSource = .requestHeader → call = .tool := by
      intro hsource
      cases call with
      | tool => rfl
      | tokenCheck => exact absurd ⟨hsource, rfl⟩ h
    have honly : OnlyFromHeader settings .tool context → OnlyFromHeader settings call context := by
      intro htool
      refine ⟨fun configured configured' => ?_, fun configured token htoken => ?_⟩
      · rw [tokenUsed_of_ne hcall, tokenUsed_of_ne hcall]
        exact htool.1 configured configured'
      · rw [tokenUsed_of_ne hcall] at htoken
        exact htool.2 configured token htoken
    unfold StrictSelection
    cases hsource : settings.tokenSource with
    | config =>
        have hconfig : ∀ context configured,
            tokenUsed settings .tool context configured = configured := by
          intro context configured
          simp only [tokenUsed, accessToken, hsource]
          rfl
        intro context' configured
        rw [tokenUsed_of_ne hcall, tokenUsed_of_ne hcall, hconfig, hconfig]
    | requestHeader =>
        exact honly (onlyFromHeader_tool (by rw [hsource]; rfl) (.inl hsource))
    | requestHeaderOrConfig =>
        by_cases hpresented : ∃ t, Presented settings context t
        · exact .inr (honly (onlyFromHeader_tool (by rw [hsource]; rfl) (.inr hpresented)))
        · refine .inl fun value hvalue => ?_
          have hfirst := Option.mem_toList.mp hvalue
          obtain ⟨t, ht⟩ := toStr_of_printable (hprintable hsource value hfirst)
          rw [← trim_eq_nil_iff_blank ht]
          by_contra hne
          exact hpresented ⟨t, value, hfirst, ht, hne⟩

end Selection

/-! ## Requests on record -/

/-- A request with this header. -/
def withHeader (value : HeaderValue) : Option Parts := some ⟨[(text "authorization", value)]⟩

theorem credentialSelection_bearer :
    StrictSelection ⟨.requestHeaderOrConfig, text "authorization"⟩ .tool
      (withHeader (Text.utf8 (text "Bearer t1"))) [Text.utf8 (text "Bearer t1")] :=
  credentialSelection ⟨.requestHeaderOrConfig, text "authorization"⟩ .tool
    (withHeader (Text.utf8 (text "Bearer t1"))) fun _ value hvalue => by
      obtain rfl := Option.some.inj hvalue
      unfold Printable
      decide +kernel

/-- The check of `ga4_auth_status` goes out with the server's credential. -/
theorem not_strictSelection : ¬ ∀ settings call context,
    StrictSelection settings call context (headerValues settings context) := by
  intro h
  have honly := h ⟨.requestHeader, text "authorization"⟩ .tokenCheck
    (withHeader (Text.utf8 (text "Bearer t1")))
  have hsame := honly.1 (.ok (text "server")) (.ok (text "other"))
  exact absurd (Except.ok.inj hsame) (by decide)

/-- A token with one byte that is not printable, and the server's credential instead. -/
example : tokenUsed ⟨.requestHeaderOrConfig, text "authorization"⟩ .tool
    (withHeader (Text.utf8 (text "Bearer t1é"))) (.ok (text "server")) = .ok (text "server") := by
  decide +kernel

end Ga4Mcp.Auth
