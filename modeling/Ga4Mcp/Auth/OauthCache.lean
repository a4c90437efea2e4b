/-
  The cached OAuth token of `src/ga_client.rs`: its refresh, and the calls that share it.

  Times are nanoseconds of the monotonic clock, which ends at `instantMax`: adding past it
  panics. What the token endpoint answers is a parameter of a refresh.

  * `issuedSafely_iff`: when a token is issued without a panic and never served too late.
  * `cached_inv`: the cached token is refreshed before it expires, in every run.
  * `tokenCache_iff`: both, for one token and for every interleaving of calls.
-/
import Ga4Mcp.Error
import Ga4Mcp.Lib.Machine
import Mathlib.Logic.Function.Basic

namespace Ga4Mcp.Auth

open Ga4Mcp.Lib

/-! ## The source -/

/-- What the token endpoint answers. -/
structure OAuthRefreshResponse where
  accessToken : Option Text
  expiresIn : Option Nat
  error : Option Text
  errorDescription : Option Text
deriving DecidableEq, Repr

/-- An answer of the token endpoint: the body as a text (`from_utf8_lossy`), and as
    `serde_json::from_slice` reads it. -/
structure TokenAnswer where
  status : Nat
  body : Text
  parsed : Except Text OAuthRefreshResponse

/-- A token, and when it is refreshed. -/
structure CachedAccessToken where
  value : Text
  refreshAfter : Nat
deriving DecidableEq, Repr

/-- The longest beginning of at most so many bytes. -/
def takeBytes : Nat → Text → Text
  | _, [] => []
  | n, c :: rest => if c.utf8Size ≤ n then c :: takeBytes (n - c.utf8Size) rest else []

/-- A message cut off at 1024 bytes. -/
def clipMessage (message : Text) : Text :=
  if Text.len message ≤ 1024 then message else takeBytes 1024 message ++ text "..."

/-- A second in nanoseconds. -/
def second : Nat := 1000000000

/-- `Instant + Duration`, or a panic. -/
def addDuration (instantMax now duration : Nat) : Option Nat :=
  if now + duration ≤ instantMax then some (now + duration) else none

/-- Seconds to the refresh: a minute before the end, and at least one. -/
def refreshIn (expiresIn : Option Nat) : Nat := max (expiresIn.getD 3600 - 60) 1

/-- The error of a refused exchange. -/
def exchangeFailed (answer : TokenAnswer) (response : OAuthRefreshResponse) : AnalyticsError :=
  let error := response.error.getD (text "unknown_error")
  let detail := ((response.errorDescription.map Text.trim).filter fun value =>
    ¬ value.isEmpty).getD (clipMessage (Text.trim answer.body))
  .authBootstrap (text "oauth refresh exchange failed with status " ++
    Text.decimal answer.status ++ text " (" ++ error ++ text "): " ++ detail)

/-- A refresh; `none` is a panic. `now` is read after the answer. -/
def refreshOauthAccessToken (instantMax : Nat) (answer : Except AnalyticsError TokenAnswer)
    (now : Nat) : Option (Except AnalyticsError CachedAccessToken) :=
  match answer with
  | .error err => some (.error err)
  | .ok answer =>
      match answer.parsed with
      | .error err =>
          some (.error (.authBootstrap (text "failed to parse OAuth token response: " ++ err)))
      | .ok response =>
          if ¬ (200 ≤ answer.status ∧ answer.status < 300) then
            some (.error (exchangeFailed answer response))
          else
            match response.accessToken with
            | none => some (.error (.authBootstrap
                (text "oauth refresh exchange succeeded without access_token")))
            | some value =>
                (addDuration instantMax now (refreshIn response.expiresIn * second)).map
                  fun refreshAfter => .ok ⟨value, refreshAfter⟩

/-- The check under either lock. -/
def cachedValue (cached : Option CachedAccessToken) (now : Nat) : Option Text :=
  cached.bind fun token => if now < token.refreshAfter then some token.value else none

/-! ## The calls -/

/-- When a token was issued, and for how long. -/
structure Issue where
  time : Nat
  expiresIn : Option Nat
deriving DecidableEq, Repr

/-- When the token ends, by the clock of its issue. -/
def Issue.expiry (issue : Issue) : Nat := issue.time + issue.expiresIn.getD 3600 * second

/-- The cache, and who waits for its lock. -/
structure TokenCache (n : Nat) where
  cached : Option CachedAccessToken
  /-- Not in the source: the issue of the cached token. -/
  issue : Option Issue
  /-- Who has found no token under the read lock, and asks for the write lock. -/
  waiting : Fin n → Bool

/-- A part of a call of `configured_access_token` under one lock. -/
inductive CacheLabel (n : Nat) where
  | read (caller : Fin n) (now : Nat)
  | write (caller : Fin n) (now : Nat) (answer : Except AnalyticsError TokenAnswer) (issued : Nat)

section

variable (instantMax : Nat) {n : Nat}

/-- A read under the shared lock, or an exchange under the other. -/
def TokenCache.step (s : TokenCache n) : CacheLabel n → Option (TokenCache n)
  | .read c now =>
      if s.waiting c then none
      else if (cachedValue s.cached now).isSome then some s
      else some { s with waiting := Function.update s.waiting c true }
  | .write c now answer issued =>
      if ¬ s.waiting c then none
      else
        let ended := { s with waiting := Function.update s.waiting c false }
        if (cachedValue s.cached now).isSome then some ended
        else
          match refreshOauthAccessToken instantMax answer issued, answer with
          | some (.ok token), .ok ⟨_, _, .ok response⟩ =>
              some { ended with
                cached := some token
                issue := some ⟨issued, response.expiresIn⟩ }
          -- an error, or a panic: the cache is as before
          | _, _ => some ended

/-- The cache as a machine. -/
def tokenCache (n : Nat) : Machine (TokenCache n) (CacheLabel n) :=
  ⟨⟨none, none, fun _ => false⟩, TokenCache.step instantMax⟩

/-- When the step returns the cached token. -/
def TokenCache.servedAt (s : TokenCache n) : CacheLabel n → Option Nat
  | .read _ now | .write _ now _ _ => if (cachedValue s.cached now).isSome then some now else none

/-- The step panics, while it holds the write lock. -/
def TokenCache.Panics (s : TokenCache n) : CacheLabel n → Prop
  | .read _ _ => False
  | .write _ now answer issued =>
      cachedValue s.cached now = none ∧ refreshOauthAccessToken instantMax answer issued = none

end

/-! ## One token -/

/-- An answer with a token. -/
def Grants (answer : Except AnalyticsError TokenAnswer) (value : Text) (expiresIn : Option Nat) :
    Prop :=
  ∃ status body response, answer = .ok ⟨status, body, .ok response⟩ ∧
    (200 ≤ status ∧ status < 300) ∧ response.accessToken = some value ∧
    response.expiresIn = expiresIn

theorem refresh_of_grants {answer : Except AnalyticsError TokenAnswer} {value : Text}
    {expiresIn : Option Nat} (h : Grants answer value expiresIn) (instantMax now : Nat) :
    refreshOauthAccessToken instantMax answer now =
      (addDuration instantMax now (refreshIn expiresIn * second)).map
        fun refreshAfter => .ok ⟨value, refreshAfter⟩ := by
  obtain ⟨status, body, response, rfl, hstatus, hvalue, rfl⟩ := h
  simp [refreshOauthAccessToken, hstatus, hvalue]

/-- Without a token a refresh is an error. -/
theorem refresh_cases (instantMax : Nat) (answer : Except AnalyticsError TokenAnswer) (now : Nat) :
    (∃ err, refreshOauthAccessToken instantMax answer now = some (.error err)) ∨
      ∃ value expiresIn, Grants answer value expiresIn := by
  cases answer with
  | error err => exact .inl ⟨err, rfl⟩
  | ok answer =>
      obtain ⟨status, body, parsed⟩ := answer
      cases parsed with
      | error err => exact .inl ⟨_, rfl⟩
      | ok response =>
          by_cases hstatus : 200 ≤ status ∧ status < 300
          · cases hvalue : response.accessToken with
            | none =>
                refine .inl ⟨.authBootstrap
                  (text "oauth refresh exchange succeeded without access_token"), ?_⟩
                simp [refreshOauthAccessToken, hstatus, hvalue]
            | some value =>
                exact .inr ⟨value, _, status, body, response, rfl, hstatus, hvalue, rfl⟩
          · refine .inl ⟨exchangeFailed ⟨status, body, .ok response⟩ response, ?_⟩
            simp [refreshOauthAccessToken, hstatus]

/-- A lifetime that is not zero, and a clock with room for a second and for the lifetime less a
    minute. -/
structure Lasting (instantMax : Nat) (issue : Issue) : Prop where
  nonzero : issue.expiresIn ≠ some 0
  room : issue.time + second ≤ instantMax
  lifetime : issue.time + (issue.expiresIn.getD 3600 - 60) * second ≤ instantMax

theorem lasting_iff {instantMax : Nat} {issue : Issue} :
    Lasting instantMax issue ↔ 0 < issue.expiresIn.getD 3600 ∧
      issue.time + refreshIn issue.expiresIn * second ≤ instantMax := by
  have hzero : issue.expiresIn ≠ some 0 ↔ 0 < issue.expiresIn.getD 3600 := by
    cases issue.expiresIn with
    | none => simp
    | some expiresIn => simp [Nat.pos_iff_ne_zero]
  have hmax : refreshIn issue.expiresIn * second =
      max ((issue.expiresIn.getD 3600 - 60) * second) second := by
    rw [refreshIn, ← Nat.mul_max_mul_right, Nat.one_mul]
  rw [← hzero, hmax]
  exact ⟨fun h => ⟨h.nonzero, by have := h.room; have := h.lifetime; omega⟩,
    fun h => ⟨h.1, by omega, by omega⟩⟩

/-- The refresh does not panic, and what it gives is returned only before it expires. -/
def IssuedSafely (instantMax : Nat) (answer : Except AnalyticsError TokenAnswer) (issue : Issue) :
    Prop :=
  ∃ token, refreshOauthAccessToken instantMax answer issue.time = some (.ok token) ∧
    ∀ later, issue.time ≤ later → (cachedValue (some token) later).isSome → later < issue.expiry

theorem cachedValue_isSome {token : CachedAccessToken} {now : Nat} :
    (cachedValue (some token) now).isSome ↔ now < token.refreshAfter := by
  rw [cachedValue, Option.bind_some]
  split <;> simp [*]

/-- A refresh ends before the lifetime does, unless that is zero. -/
theorem refreshIn_le_iff (expiresIn : Option Nat) :
    refreshIn expiresIn ≤ expiresIn.getD 3600 ↔ 0 < expiresIn.getD 3600 := by
  unfold refreshIn
  omega

/-- **A token is issued safely** exactly when it lasts. -/
theorem issuedSafely_iff {instantMax : Nat} {answer : Except AnalyticsError TokenAnswer}
    {value : Text} {issue : Issue} (h : Grants answer value issue.expiresIn) :
    IssuedSafely instantMax answer issue ↔ Lasting instantMax issue := by
  have hsecond : 0 < second := by decide
  rw [lasting_iff, IssuedSafely, refresh_of_grants h, addDuration]
  by_cases hroom : issue.time + refreshIn issue.expiresIn * second ≤ instantMax
  · rw [if_pos hroom, and_iff_left hroom, ← refreshIn_le_iff]
    have hpos : 0 < refreshIn issue.expiresIn * second :=
      Nat.mul_pos (Nat.lt_of_lt_of_le Nat.one_pos (Nat.le_max_right _ _)) hsecond
    constructor
    · rintro ⟨token, htoken, hserved⟩
      obtain rfl := Except.ok.inj (Option.some.inj htoken)
      -- the last moment at which the token is returned
      have hlast := hserved (issue.time + refreshIn issue.expiresIn * second - 1) (by omega)
        (cachedValue_isSome.mpr (by dsimp only; omega))
      refine Nat.le_of_mul_le_mul_right ?_ hsecond
      unfold Issue.expiry at hlast
      omega
    · intro hle
      refine ⟨_, rfl, fun later _ hlater => ?_⟩
      have hbefore := cachedValue_isSome.mp hlater
      have hmul := Nat.mul_le_mul_right second hle
      dsimp only at hbefore
      unfold Issue.expiry
      omega
  · simp [hroom]

/-! ## All calls -/

section

variable {instantMax n : Nat}

/-- What is issued in a step lasts. -/
def CacheLabel.Lasts (instantMax : Nat) : CacheLabel n → Prop
  | .read _ _ => True
  | .write _ _ answer issued => ∀ value expiresIn, Grants answer value expiresIn →
      Lasting instantMax ⟨issued, expiresIn⟩

/-- The cached token is refreshed before it expires. -/
def TokenCache.Fresh (s : TokenCache n) : Prop :=
  ∀ token, s.cached = some token → ∃ issue, s.issue = some issue ∧ token.refreshAfter ≤ issue.expiry

/-- What a step leaves in the cache: what was there, or a token that it was granted. -/
theorem step_cases {s s' : TokenCache n} {label : CacheLabel n}
    (h : s.step instantMax label = some s') :
    (s'.cached = s.cached ∧ s'.issue = s.issue) ∨
      ∃ caller now answer issued value expiresIn token, label = .write caller now answer issued ∧
        Grants answer value expiresIn ∧
        refreshOauthAccessToken instantMax answer issued = some (.ok token) ∧
        s'.cached = some token ∧ s'.issue = some ⟨issued, expiresIn⟩ := by
  cases label with
  | read caller now =>
      simp only [TokenCache.step] at h
      split at h
      case isTrue => cases h
      case isFalse =>
        split at h
        all_goals
          obtain rfl := Option.some.inj h
          exact .inl ⟨rfl, rfl⟩
  | write caller now answer issued =>
      simp only [TokenCache.step] at h
      split at h
      case isTrue => cases h
      case isFalse =>
        split at h
        case isTrue =>
          obtain rfl := Option.some.inj h
          exact .inl ⟨rfl, rfl⟩
        case isFalse =>
          split at h
          case h_1 token status body response hrefresh =>
            obtain rfl := Option.some.inj h
            rcases refresh_cases instantMax (.ok ⟨status, body, .ok response⟩) issued with
              ⟨err, herr⟩ | ⟨value, expiresIn, hgrants⟩
            · rw [hrefresh] at herr
              cases herr
            · obtain ⟨_, _, _, heq, -, -, hexpires⟩ := id hgrants
              cases heq
              exact .inr ⟨caller, now, _, issued, value, expiresIn, token, rfl, hgrants, hrefresh,
                rfl, by rw [hexpires]⟩
          case h_2 =>
            obtain rfl := Option.some.inj h
            exact .inl ⟨rfl, rfl⟩

/-- One step keeps the cached token fresh. -/
theorem TokenCache.Fresh.step {s s' : TokenCache n} {label : CacheLabel n} (h : s.Fresh)
    (hlasts : label.Lasts instantMax) (hstep : s.step instantMax label = some s') : s'.Fresh := by
  rcases step_cases hstep with ⟨hcached, hissue⟩ |
    ⟨caller, now, answer, issued, value, expiresIn, token, rfl, hgrants, hrefresh, hcached, hissue⟩
  · intro token htoken
    rw [hcached] at htoken
    rw [hissue]
    exact h token htoken
  · intro token' htoken'
    obtain rfl := Option.some.inj (hcached.symm.trans htoken')
    refine ⟨⟨issued, expiresIn⟩, hissue, ?_⟩
    obtain ⟨hpos, hroom⟩ := lasting_iff.mp (hlasts value expiresIn hgrants)
    rw [refresh_of_grants hgrants, addDuration, if_pos hroom] at hrefresh
    obtain rfl := Except.ok.inj (Option.some.inj hrefresh)
    have hle := (refreshIn_le_iff expiresIn).mpr hpos
    exact Nat.add_le_add_left (Nat.mul_le_mul_right second hle) issued

/-- **The cached token is fresh** in every run whose tokens last. -/
theorem cached_inv {s : TokenCache n}
    (h : (tokenCache instantMax n).Reachable (fun _ label => label.Lasts instantMax) s) :
    s.Fresh := by
  refine h.inv ?_ fun s s' label hfresh hlasts hstep => ?_
  · intro token htoken
    cases htoken
  · exact TokenCache.Fresh.step hfresh hlasts hstep

/-- What a step returns from the cache has not expired. -/
theorem TokenCache.Fresh.served {s : TokenCache n} (h : s.Fresh) {label : CacheLabel n} {now : Nat}
    (hserved : s.servedAt label = some now) :
    ∃ issue, s.issue = some issue ∧ now < issue.expiry := by
  have hvalue : (cachedValue s.cached now).isSome := by
    cases label with
    | read caller now' | write caller now' answer issued =>
        simp only [TokenCache.servedAt] at hserved
        split at hserved
        case isTrue hsome =>
          obtain rfl := Option.some.inj hserved
          exact hsome
        case isFalse => cases hserved
  cases hcached : s.cached with
  | none => simp [hcached, cachedValue] at hvalue
  | some token =>
      obtain ⟨issue, hissue, hle⟩ := h token hcached
      rw [hcached, cachedValue_isSome] at hvalue
      exact ⟨issue, hissue, Nat.lt_of_lt_of_le hvalue hle⟩

theorem not_panics {s : TokenCache n} {label : CacheLabel n} (hlasts : label.Lasts instantMax) :
    ¬ s.Panics instantMax label := by
  cases label with
  | read caller now => exact id
  | write caller now answer issued =>
      rintro ⟨-, hpanic⟩
      rcases refresh_cases instantMax answer issued with ⟨err, herr⟩ | ⟨value, expiresIn, hgrants⟩
      · rw [hpanic] at herr
        cases herr
      · have hroom := (lasting_iff.mp (hlasts value expiresIn hgrants)).2
        rw [refresh_of_grants hgrants, addDuration, if_pos hroom] at hpanic
        cases hpanic

end

/-- **The token cache**: one token is issued without a panic, and returned only before it
    expires, exactly when its lifetime is not zero and the clock has room for it; and so is
    every token of a run in which all that are issued are such. -/
theorem tokenCache_iff (instantMax : Nat) :
    (∀ answer value issue, Grants answer value issue.expiresIn →
      (IssuedSafely instantMax answer issue ↔ Lasting instantMax issue)) ∧
    ∀ (n : Nat) (s : TokenCache n) (label : CacheLabel n),
      (tokenCache instantMax n).Reachable (fun _ label => label.Lasts instantMax) s →
      label.Lasts instantMax →
        ¬ s.Panics instantMax label ∧ ∀ now, s.servedAt label = some now →
          ∃ issue, s.issue = some issue ∧ now < issue.expiry := by
  refine ⟨fun _ _ _ h => issuedSafely_iff h, fun n s label hreach hlasts => ?_⟩
  exact ⟨not_panics hlasts, fun now hserved => TokenCache.Fresh.served (cached_inv hreach) hserved⟩

/-- An answer with a token. -/
def granted (expiresIn : Option Nat) : Except AnalyticsError TokenAnswer :=
  .ok ⟨200, [], .ok ⟨some (text "t"), expiresIn, none, none⟩⟩

theorem grants_granted (expiresIn : Option Nat) :
    Grants (granted expiresIn) (text "t") expiresIn :=
  ⟨200, [], ⟨some (text "t"), expiresIn, none, none⟩, rfl, by decide, rfl, rfl⟩

/-- The largest `Instant` of a platform with signed seconds. -/
def signedInstantMax : Nat := (2 ^ 63 - 1) * second + (second - 1)

/-- A token with the default lifetime is issued, and a minute later it is returned. -/
theorem tokenCache_iff_default :
    IssuedSafely signedInstantMax (granted none) ⟨5, none⟩ ∧
      ∃ s : TokenCache 1, s.servedAt (.read 0 (60 * second)) = some (60 * second) ∧
        ∃ issue, s.issue = some issue ∧ 60 * second < issue.expiry := by
  obtain ⟨hone, hall⟩ := tokenCache_iff signedInstantMax
  have hlasting : Lasting signedInstantMax ⟨5, none⟩ := ⟨by decide, by decide, by decide⟩
  refine ⟨(hone _ _ ⟨5, none⟩ (grants_granted none)).mpr hlasting, ?_⟩
  let labels : List (CacheLabel 1) := [.read 0 0, .write 0 0 (granted none) 5]
  obtain ⟨s, hrun, hserved⟩ : ∃ s, (tokenCache signedInstantMax 1).runFrom
      (tokenCache signedInstantMax 1).start labels = some s ∧
        s.servedAt (.read 0 (60 * second)) = some (60 * second) := ⟨_, by rfl, by rfl⟩
  have hlasts : ∀ value expiresIn, Grants (granted none) value expiresIn →
      Lasting signedInstantMax ⟨5, expiresIn⟩ := by
    rintro value expiresIn ⟨status, body, response, heq, -, -, rfl⟩
    cases heq
    exact hlasting
  have hguarded : (tokenCache signedInstantMax 1).GuardedFrom
      (fun _ label => label.Lasts signedInstantMax) (tokenCache signedInstantMax 1).start labels :=
    ⟨trivial, hlasts, trivial⟩
  have hreach := Machine.reachable_of_runFrom .start hguarded hrun
  exact ⟨s, hserved, (hall 1 s (.read 0 (60 * second)) hreach trivial).2 _ hserved⟩

/-- The largest lifetime makes the refresh panic; a lifetime of zero gives a token that is
    returned for a second. -/
theorem not_issuedSafely :
    (refreshOauthAccessToken signedInstantMax (granted (some (2 ^ 64 - 1))) 0 = none ∧
      ¬ IssuedSafely signedInstantMax (granted (some (2 ^ 64 - 1))) ⟨0, some (2 ^ 64 - 1)⟩) ∧
    refreshOauthAccessToken signedInstantMax (granted (some 0)) 0 =
        some (.ok ⟨text "t", second⟩) ∧
      cachedValue (some ⟨text "t", second⟩) 0 = some (text "t") ∧
      ¬ IssuedSafely signedInstantMax (granted (some 0)) ⟨0, some 0⟩ := by
  have hpanic :
      refreshOauthAccessToken signedInstantMax (granted (some (2 ^ 64 - 1))) 0 = none := by
    rw [refresh_of_grants (grants_granted _)]
    decide
  have hzero : refreshOauthAccessToken signedInstantMax (granted (some 0)) 0 =
      some (.ok ⟨text "t", second⟩) := by
    rw [refresh_of_grants (grants_granted _)]
    rfl
  refine ⟨⟨hpanic, ?_⟩, hzero, by decide, ?_⟩
  · rintro ⟨token, htoken, -⟩
    rw [hpanic] at htoken
    cases htoken
  · rintro ⟨token, htoken, hserved⟩
    obtain rfl := Except.ok.inj (Option.some.inj (hzero.symm.trans htoken))
    exact absurd (hserved 0 (Nat.le_refl 0) (by decide)) (by decide)

end Ga4Mcp.Auth
