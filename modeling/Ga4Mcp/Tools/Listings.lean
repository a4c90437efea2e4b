/-
  The lists of the Admin API, of `src/ga_client.rs`: `collect_paginated` and its callers.

  The upstream is a parameter that may answer each request of a call differently.

  * `listing_eq_ok`: which requests a list tool sends, and what it makes of the answers, for
    every upstream.
  * `listing_of_lists`: from an upstream that lists rows, a call reads a beginning of them,
    once and in order; it is all of them exactly when no token is left over.
-/
import Ga4Mcp.Lib.Checks
import Ga4Mcp.Tools.Client

namespace Ga4Mcp.Tools

open Ga4Mcp.Lib

/-! ## The client -/

/-- How much of a listing is asked for. -/
structure PaginationOptions where
  pageSize : Option Nat
  maxPages : Option Nat

/-- What the lists use of the client. `getJson` is given how many requests the call has sent
    before. -/
structure AdminClient where
  adminBaseUrl : Text
  maxPageSize : Nat
  defaultMaxPages : Nat
  getJson : Nat → Text → List (Text × Text) → Except AnalyticsError Json

/-- `clamp(1, limit.max(1))` of what is asked for, or of the limit. -/
def clampRequested (limit : Nat) (requested : Option Nat) : Nat :=
  min (max (requested.getD limit) 1) (max limit 1)

/-- The token of the next page, if it is not blank. -/
def payloadToken (payload : Json) : Option Text :=
  ((payload.get (text "nextPageToken")).bind Json.asStr).filter fun token =>
    ¬ (Text.trim token).isEmpty

/-- The items of a page. -/
def pageItems (arrayKey : Text) (payload : Json) : List Json :=
  ((payload.get arrayKey).bind Json.asArray).getD []

/-- The query of a page. -/
def pageQuery (pageSize : Nat) (nextPageToken : Option Text) : List (Text × Text) :=
  (text "pageSize", Text.decimal pageSize) ::
    (nextPageToken.map fun token => (text "pageToken", token)).toList

/-- The variables of the loop. -/
structure Collected where
  pagesFetched : Nat
  nextPageToken : Option Text
  items : List Json

namespace AdminClient

variable (client : AdminClient)

/-- The page size within its bounds. -/
def normalizedPageSize (requested : Option Nat) : Nat := clampRequested client.maxPageSize requested

/-- The number of pages within its bounds. -/
def normalizedMaxPages (requested : Option Nat) : Nat :=
  clampRequested client.defaultMaxPages requested

/-- One page more. -/
def fetchPage (url arrayKey : Text) (pageSize : Nat) (collected : Collected) :
    Except AnalyticsError Collected := do
  let payload ← client.getJson collected.pagesFetched url
    (pageQuery pageSize collected.nextPageToken)
  return ⟨collected.pagesFetched + 1, payloadToken payload,
    collected.items ++ pageItems arrayKey payload⟩

/-- The loop, with `max_pages - pages_fetched`. It is entered with at least 1. -/
def collectPages (url arrayKey : Text) (pageSize : Nat) :
    Nat → Collected → Except AnalyticsError Collected
  | 0, collected => .ok collected
  | left + 1, collected => do
      let collected ← client.fetchPage url arrayKey pageSize collected
      if collected.nextPageToken.isNone then return collected
      else collectPages url arrayKey pageSize left collected

/-- The meta of a listing. -/
def paginationMeta (pageSize pagesFetched maxPages : Nat) (nextPageToken : Option Text) : Json :=
  .ofFields [
    ("page_size", .ofNat pageSize),
    ("pages_fetched", .ofNat pagesFetched),
    ("max_pages", .ofNat maxPages),
    ("next_page_token", .ofOption (nextPageToken.map .string))]

/-- `collect_paginated`: the items of the pages in order, and the meta. -/
def collectPaginated (url arrayKey : Text) (pagination : PaginationOptions) :
    Except AnalyticsError (List Json × Json) := do
  let pageSize := client.normalizedPageSize pagination.pageSize
  let maxPages := client.normalizedMaxPages pagination.maxPages
  let collected ← client.collectPages url arrayKey pageSize maxPages ⟨0, none, []⟩
  return (collected.items,
    paginationMeta pageSize collected.pagesFetched maxPages collected.nextPageToken)

/-- A listing under its name. -/
def listing (url arrayKey : Text) (name : String) (pagination : PaginationOptions) :
    Except AnalyticsError Json := do
  let collected ← client.collectPaginated url arrayKey pagination
  return .ofFields [(name, .array collected.1), ("meta", collected.2)]

def getAccountSummaries (pagination : PaginationOptions) : Except AnalyticsError Json :=
  client.listing (client.adminBaseUrl ++ text "/v1beta/accountSummaries") (text "accountSummaries")
    "account_summaries" pagination

def listGoogleAdsLinks (propertyId : PropertyId) (pagination : PaginationOptions) :
    Except AnalyticsError Json := do
  let property ← propertyResourceName propertyId
  client.listing (client.adminBaseUrl ++ text "/v1beta/" ++ property ++ text "/googleAdsLinks")
    (text "googleAdsLinks") "google_ads_links" pagination

def listPropertyAnnotations (propertyId : PropertyId) (pagination : PaginationOptions) :
    Except AnalyticsError Json := do
  let property ← propertyResourceName propertyId
  client.listing
    (client.adminBaseUrl ++ text "/v1alpha/" ++ property ++ text "/reportingDataAnnotations")
    (text "reportingDataAnnotations") "reporting_data_annotations" pagination

end AdminClient

theorem clampRequested_pos (limit : Nat) (requested : Option Nat) :
    0 < clampRequested limit requested :=
  Nat.lt_min.mpr ⟨Nat.le_max_right _ _, Nat.le_max_right _ _⟩

theorem clampRequested_le (limit : Nat) (requested : Option Nat) :
    clampRequested limit requested ≤ max limit 1 :=
  Nat.min_le_right _ _

/-! ## Which requests are sent -/

/-- The answers to a chain of requests, of which each has the token of the answer before,
    and the token of the last answer. -/
inductive Reads (ask : Nat → Option Text → Except AnalyticsError Json) :
    Nat → Option Text → List Json → Option Text → Prop where
  | page {sent : Nat} {token : Option Text} {payload : Json}
      (answer : ask sent token = .ok payload) :
      Reads ask sent token [payload] (payloadToken payload)
  | more {sent : Nat} {token last : Option Text} {payload : Json} {payloads : List Json}
      {next : Text} (answer : ask sent token = .ok payload)
      (goesOn : payloadToken payload = some next)
      (rest : Reads ask (sent + 1) (some next) payloads last) :
      Reads ask sent token (payload :: payloads) last

section Requests

variable (client : AdminClient) (url arrayKey : Text) (pageSize : Nat)

/-- The requests of one call. -/
def AdminClient.ask (sent : Nat) (token : Option Text) : Except AnalyticsError Json :=
  client.getJson sent url (pageQuery pageSize token)

variable {client url arrayKey pageSize}

/-- The variables after one more answer. -/
def Collected.after (collected : Collected) (arrayKey : Text) (payload : Json) : Collected :=
  ⟨collected.pagesFetched + 1, payloadToken payload,
    collected.items ++ pageItems arrayKey payload⟩

theorem collectPages_error {left : Nat} {start : Collected} {err : AnalyticsError}
    (hask : client.ask url pageSize start.pagesFetched start.nextPageToken = .error err) :
    client.collectPages url arrayKey pageSize (left + 1) start = .error err := by
  rw [AdminClient.ask] at hask
  rw [AdminClient.collectPages, AdminClient.fetchPage, hask]
  rfl

theorem collectPages_last {left : Nat} {start : Collected} {payload : Json}
    (hask : client.ask url pageSize start.pagesFetched start.nextPageToken = .ok payload)
    (hend : payloadToken payload = none) :
    client.collectPages url arrayKey pageSize (left + 1) start =
      .ok (start.after arrayKey payload) := by
  rw [AdminClient.ask] at hask
  rw [AdminClient.collectPages, AdminClient.fetchPage, hask]
  dsimp only [Bind.bind, Except.bind, Pure.pure, Except.pure]
  rw [hend, if_pos (by rfl), Collected.after, hend]

theorem collectPages_more {left : Nat} {start : Collected} {payload : Json} {next : Text}
    (hask : client.ask url pageSize start.pagesFetched start.nextPageToken = .ok payload)
    (hnext : payloadToken payload = some next) :
    client.collectPages url arrayKey pageSize (left + 1) start =
      client.collectPages url arrayKey pageSize left (start.after arrayKey payload) := by
  rw [AdminClient.ask] at hask
  rw [AdminClient.collectPages, AdminClient.fetchPage, hask]
  dsimp only [Bind.bind, Except.bind, Pure.pure, Except.pure]
  rw [hnext, if_neg (by simp), Collected.after, hnext]

/-- The variables after a chain of answers. -/
def Collected.afterAll (collected : Collected) (arrayKey : Text) (payloads : List Json)
    (last : Option Text) : Collected :=
  ⟨collected.pagesFetched + payloads.length, last,
    collected.items ++ payloads.flatMap (pageItems arrayKey)⟩

theorem Collected.after_afterAll (collected : Collected) (arrayKey : Text) (payload : Json)
    (payloads : List Json) (last : Option Text) :
    (collected.after arrayKey payload).afterAll arrayKey payloads last =
      collected.afterAll arrayKey (payload :: payloads) last := by
  simp [Collected.afterAll, Collected.after, Nat.add_assoc, Nat.add_comm 1]

/-- A chain that a call with so many requests stops at. -/
def Complete (left : Nat) (payloads : List Json) (last : Option Text) : Prop :=
  payloads.length ≤ left ∧ (last = none ∨ payloads.length = left)

theorem Complete.cons {left : Nat} {payload : Json} {payloads : List Json} {last : Option Text} :
    Complete (left + 1) (payload :: payloads) last ↔ Complete left payloads last := by
  simp [Complete]

section

variable {ask : Nat → Option Text → Except AnalyticsError Json} {sent : Nat} {token last : Option Text}
  {payload : Json} {payloads : List Json}

theorem Reads.head (h : Reads ask sent token payloads last) :
    ∃ payload rest, ask sent token = .ok payload ∧ payloads = payload :: rest := by
  cases h with
  | page answer => exact ⟨_, _, answer, rfl⟩
  | more answer goesOn rest => exact ⟨_, _, answer, rfl⟩

theorem reads_last (hask : ask sent token = .ok payload) (hend : payloadToken payload = none) :
    Reads ask sent token payloads last ↔ payloads = [payload] ∧ last = none := by
  constructor
  · intro h
    cases h with
    | page answer =>
        cases hask.symm.trans answer
        exact ⟨rfl, hend⟩
    | more answer goesOn rest =>
        cases hask.symm.trans answer
        cases hend.symm.trans goesOn
  · rintro ⟨rfl, rfl⟩
    rw [← hend]
    exact .page hask

theorem reads_more {next : Text} (hask : ask sent token = .ok payload)
    (hnext : payloadToken payload = some next) :
    Reads ask sent token payloads last ↔ (payloads = [payload] ∧ last = some next) ∨
      ∃ rest, payloads = payload :: rest ∧ Reads ask (sent + 1) (some next) rest last := by
  constructor
  · intro h
    cases h with
    | page answer =>
        cases hask.symm.trans answer
        exact .inl ⟨rfl, hnext⟩
    | more answer goesOn rest =>
        cases hask.symm.trans answer
        cases hnext.symm.trans goesOn
        exact .inr ⟨_, rfl, rest⟩
  · rintro (⟨rfl, rfl⟩ | ⟨rest, rfl, hrest⟩)
    · rw [← hnext]
      exact .page hask
    · exact .more hask hnext hrest

end

/-- What a run of the loop has read. -/
def ReadsAll (client : AdminClient) (url arrayKey : Text) (pageSize left : Nat)
    (start collected : Collected) : Prop :=
  ∃ payloads last,
    Reads (client.ask url pageSize) start.pagesFetched start.nextPageToken payloads last ∧
    Complete left payloads last ∧ collected = start.afterAll arrayKey payloads last

theorem not_readsAll {left : Nat} {start collected : Collected} {err : AnalyticsError}
    (hask : client.ask url pageSize start.pagesFetched start.nextPageToken = .error err) :
    ¬ ReadsAll client url arrayKey pageSize left start collected := by
  rintro ⟨payloads, last, hreads, -⟩
  obtain ⟨payload, rest, hanswer, -⟩ := hreads.head
  cases hask.symm.trans hanswer

theorem readsAll_last {left : Nat} {start collected : Collected} {payload : Json}
    (hask : client.ask url pageSize start.pagesFetched start.nextPageToken = .ok payload)
    (hend : payloadToken payload = none) :
    ReadsAll client url arrayKey pageSize (left + 1) start collected ↔
      collected = start.after arrayKey payload := by
  have hafter : start.afterAll arrayKey [payload] none = start.after arrayKey payload := by
    simp [Collected.after, Collected.afterAll, hend]
  unfold ReadsAll
  simp only [reads_last hask hend]
  constructor
  · rintro ⟨payloads, last, ⟨rfl, rfl⟩, -, rfl⟩
    exact hafter
  · rintro rfl
    exact ⟨_, _, ⟨rfl, rfl⟩, ⟨by simp, .inl rfl⟩, hafter.symm⟩

/-- One more request, or the end of the loop. -/
theorem readsAll_more {left : Nat} {start collected : Collected} {payload : Json} {next : Text}
    (hask : client.ask url pageSize start.pagesFetched start.nextPageToken = .ok payload)
    (hnext : payloadToken payload = some next) :
    ReadsAll client url arrayKey pageSize (left + 1) start collected ↔
      (left = 0 ∧ collected = start.after arrayKey payload) ∨
        ReadsAll client url arrayKey pageSize left (start.after arrayKey payload) collected := by
  have hafter : start.afterAll arrayKey [payload] (some next) = start.after arrayKey payload := by
    simp [Collected.after, Collected.afterAll, hnext]
  have hstart : (start.after arrayKey payload).nextPageToken = some next := hnext
  unfold ReadsAll
  simp only [reads_more hask hnext, hstart]
  constructor
  · rintro ⟨payloads, last, ⟨rfl, rfl⟩ | ⟨rest, rfl, hrest⟩, hcomplete, rfl⟩
    · obtain ⟨-, hnone | hlength⟩ := hcomplete
      · cases hnone
      · exact .inl ⟨(Nat.succ.inj hlength).symm, hafter⟩
    · exact .inr ⟨rest, last, hrest, Complete.cons.mp hcomplete,
        (Collected.after_afterAll start arrayKey payload rest last).symm⟩
  · rintro (⟨rfl, rfl⟩ | ⟨rest, last, hrest, hcomplete, rfl⟩)
    · exact ⟨_, _, .inl ⟨rfl, rfl⟩, ⟨le_rfl, .inr rfl⟩, hafter.symm⟩
    · exact ⟨_, _, .inr ⟨rest, rfl, hrest⟩, Complete.cons.mpr hcomplete,
        Collected.after_afterAll start arrayKey payload rest last⟩

theorem not_readsAll_zero {start collected : Collected} :
    ¬ ReadsAll client url arrayKey pageSize 0 start collected := by
  rintro ⟨payloads, last, hreads, hcomplete, -⟩
  obtain ⟨payload, rest, -, rfl⟩ := hreads.head
  exact absurd hcomplete.1 (by simp)

/-- A run of the loop is a chain of requests that it stops at. -/
theorem collectPages_eq_ok {left : Nat} {start collected : Collected} :
    client.collectPages url arrayKey pageSize left start = .ok collected ↔
      (left = 0 ∧ collected = start) ∨
        ReadsAll client url arrayKey pageSize left start collected := by
  induction left generalizing start with
  | zero =>
      rw [or_iff_left not_readsAll_zero, AdminClient.collectPages, Except.ok.injEq, eq_comm]
      exact (and_iff_right rfl).symm
  | succ left ih =>
      rw [or_iff_right fun h => by cases h.1]
      cases hask : client.ask url pageSize start.pagesFetched start.nextPageToken with
      | error err =>
          rw [collectPages_error hask]
          exact iff_of_false (fun h => by cases h) (not_readsAll hask)
      | ok payload =>
          cases hnext : payloadToken payload with
          | none =>
              rw [collectPages_last hask hnext, readsAll_last hask hnext, Except.ok.injEq, eq_comm]
          | some next => rw [collectPages_more hask hnext, readsAll_more hask hnext, ih]

end Requests

section Calls

variable (client : AdminClient) (url arrayKey : Text) (pagination : PaginationOptions)

/-- What a call sends and what it makes of the answers. -/
theorem collectPaginated_eq_ok (items : List Json) (pageMeta : Json) :
    client.collectPaginated url arrayKey pagination = .ok (items, pageMeta) ↔
      ∃ payloads last,
        Reads (client.ask url (client.normalizedPageSize pagination.pageSize)) 0 none payloads
          last ∧
        Complete (client.normalizedMaxPages pagination.maxPages) payloads last ∧
        items = payloads.flatMap (pageItems arrayKey) ∧
        pageMeta = AdminClient.paginationMeta (client.normalizedPageSize pagination.pageSize)
          payloads.length (client.normalizedMaxPages pagination.maxPages) last := by
  have hpos : client.normalizedMaxPages pagination.maxPages ≠ 0 :=
    (clampRequested_pos _ _).ne'
  unfold AdminClient.collectPaginated
  dsimp only
  rw [bind_eq_ok]
  simp only [collectPages_eq_ok, hpos, false_and, false_or, pure_eq_ok, Prod.mk.injEq, ReadsAll]
  constructor
  · rintro ⟨collected, ⟨payloads, last, hreads, hcomplete, rfl⟩, rfl, rfl⟩
    exact ⟨payloads, last, hreads, hcomplete, by simp [Collected.afterAll],
      by simp [Collected.afterAll]⟩
  · rintro ⟨payloads, last, hreads, hcomplete, rfl, rfl⟩
    exact ⟨_, ⟨payloads, last, hreads, hcomplete, rfl⟩, by simp [Collected.afterAll],
      by simp [Collected.afterAll]⟩

/-- **A list tool's reply, for every upstream**: it is the items of one chain of requests, each
    with the token of the answer before it, up to the first answer without a token or to the
    limit of requests. -/
theorem listing_eq_ok (name : String) (reply : Json) :
    client.listing url arrayKey name pagination = .ok reply ↔
      ∃ payloads last,
        Reads (client.ask url (client.normalizedPageSize pagination.pageSize)) 0 none payloads
          last ∧
        Complete (client.normalizedMaxPages pagination.maxPages) payloads last ∧
        reply = .ofFields [(name, .array (payloads.flatMap (pageItems arrayKey))),
          ("meta", AdminClient.paginationMeta (client.normalizedPageSize pagination.pageSize)
            payloads.length (client.normalizedMaxPages pagination.maxPages) last)] := by
  rw [AdminClient.listing, bind_eq_ok]
  constructor
  · rintro ⟨⟨items, pageMeta⟩, hcollected, hreply⟩
    obtain ⟨payloads, last, hreads, hcomplete, rfl, rfl⟩ :=
      (collectPaginated_eq_ok client url arrayKey pagination _ _).mp hcollected
    cases hreply
    exact ⟨payloads, last, hreads, hcomplete, rfl⟩
  · rintro ⟨payloads, last, hreads, hcomplete, rfl⟩
    exact ⟨_, (collectPaginated_eq_ok client url arrayKey pagination _ _).mpr
      ⟨payloads, last, hreads, hcomplete, rfl, rfl⟩, rfl⟩

end Calls

/-! ## An upstream that lists rows -/

/-- The answer to a request at a position: some rows from there on, at most a page of them
    and perhaps none, and a token if rows remain. -/
structure ShowsRows (arrayKey : Text) (rows : List Json) (tokenAt : Nat → Text) (pageSize n : Nat)
    (payload : Json) (shown : Nat) : Prop where
  few : shown ≤ pageSize
  within : n + shown ≤ rows.length
  items : pageItems arrayKey payload = (rows.drop n).take shown
  token : payloadToken payload =
    if n + shown < rows.length then some (tokenAt (n + shown)) else none

/-- The upstream lists these rows, and its tokens stand for positions. -/
structure ListsRows (ask : Nat → Option Text → Except AnalyticsError Json) (arrayKey : Text)
    (rows : List Json) (tokenAt : Nat → Text) (pageSize : Nat) : Prop where
  first : ∀ sent, ∃ payload shown, ask sent none = .ok payload ∧
    ShowsRows arrayKey rows tokenAt pageSize 0 payload shown
  next : ∀ sent n, n < rows.length → ∃ payload shown, ask sent (some (tokenAt n)) = .ok payload ∧
    ShowsRows arrayKey rows tokenAt pageSize n payload shown

section Rows

variable {ask : Nat → Option Text → Except AnalyticsError Json} {arrayKey : Text}
  {rows : List Json} {tokenAt : Nat → Text} {pageSize : Nat}

/-- The token of a request at a position. -/
def TokenFor (rows : List Json) (tokenAt : Nat → Text) (n : Nat) (token : Option Text) : Prop :=
  (n = 0 ∧ token = none) ∨ (n < rows.length ∧ token = some (tokenAt n))

theorem ListsRows.answer (h : ListsRows ask arrayKey rows tokenAt pageSize) {n : Nat}
    {token : Option Text} (htoken : TokenFor rows tokenAt n token) (sent : Nat) :
    ∃ payload shown, ask sent token = .ok payload ∧
      ShowsRows arrayKey rows tokenAt pageSize n payload shown := by
  rcases htoken with ⟨rfl, rfl⟩ | ⟨hlt, rfl⟩
  · exact h.first sent
  · exact h.next sent n hlt

/-- What the answers of a chain show together. -/
structure RowsRead (arrayKey : Text) (rows : List Json) (tokenAt : Nat → Text) (pageSize n : Nat)
    (payloads : List Json) (last : Option Text) (read : Nat) : Prop where
  few : read ≤ payloads.length * pageSize
  within : n + read ≤ rows.length
  items : payloads.flatMap (pageItems arrayKey) = (rows.drop n).take read
  token : last = if n + read < rows.length then some (tokenAt (n + read)) else none

theorem ShowsRows.read {n shown : Nat} {payload : Json}
    (h : ShowsRows arrayKey rows tokenAt pageSize n payload shown) :
    RowsRead arrayKey rows tokenAt pageSize n [payload] (payloadToken payload) shown where
  few := by simpa using h.few
  within := h.within
  items := by simpa using h.items
  token := h.token

theorem RowsRead.cons {n shown read : Nat} {payload : Json} {payloads : List Json}
    {last : Option Text} (h : ShowsRows arrayKey rows tokenAt pageSize n payload shown)
    (hrest : RowsRead arrayKey rows tokenAt pageSize (n + shown) payloads last read) :
    RowsRead arrayKey rows tokenAt pageSize n (payload :: payloads) last (shown + read) where
  few := by
    have hfew := h.few
    have hmore := hrest.few
    rw [List.length_cons, Nat.succ_mul]
    omega
  within := by rw [← Nat.add_assoc]; exact hrest.within
  items := by
    rw [List.flatMap_cons, h.items, hrest.items, ← List.drop_drop, List.take_add]
  token := by rw [← Nat.add_assoc]; exact hrest.token

/-- The token that an answer names is for the position that it has come to. -/
theorem ShowsRows.tokenFor {n shown : Nat} {payload : Json} {next : Text}
    (h : ShowsRows arrayKey rows tokenAt pageSize n payload shown)
    (hnext : payloadToken payload = some next) :
    TokenFor rows tokenAt (n + shown) (some next) := by
  have htoken := h.token
  rw [hnext] at htoken
  split at htoken
  · next hmore => exact .inr ⟨hmore, htoken⟩
  · cases htoken

/-- A chain of requests reads on from where it began. -/
theorem ListsRows.rowsRead (h : ListsRows ask arrayKey rows tokenAt pageSize) {sent n : Nat}
    {token last : Option Text} {payloads : List Json} (htoken : TokenFor rows tokenAt n token)
    (hreads : Reads ask sent token payloads last) :
    ∃ read, RowsRead arrayKey rows tokenAt pageSize n payloads last read := by
  induction hreads generalizing n with
  | @page sent token payload answer =>
      obtain ⟨payload', shown, hask, hshows⟩ := h.answer htoken sent
      cases hask.symm.trans answer
      exact ⟨shown, hshows.read⟩
  | @more sent token last payload payloads next answer goesOn rest ih =>
      obtain ⟨payload', shown, hask, hshows⟩ := h.answer htoken sent
      cases hask.symm.trans answer
      obtain ⟨read, hread⟩ := ih (hshows.tokenFor goesOn)
      exact ⟨shown + read, hread.cons hshows⟩

/-- A call finds a chain that it stops at. -/
theorem ListsRows.exists_reads (h : ListsRows ask arrayKey rows tokenAt pageSize)
    (left sent : Nat) {n : Nat} {token : Option Text} (htoken : TokenFor rows tokenAt n token) :
    ∃ payloads last, Reads ask sent token payloads last ∧ Complete (left + 1) payloads last := by
  induction left generalizing n sent token with
  | zero =>
      obtain ⟨payload, shown, hask, -⟩ := h.answer htoken sent
      exact ⟨_, _, .page hask, le_rfl, .inr rfl⟩
  | succ left ih =>
      obtain ⟨payload, shown, hask, hshows⟩ := h.answer htoken sent
      cases hnext : payloadToken payload with
      | none => exact ⟨_, _, .page hask, by simp, .inl hnext⟩
      | some next =>
          obtain ⟨payloads, last, hreads, hcomplete⟩ := ih (sent + 1) (hshows.tokenFor hnext)
          exact ⟨_, _, .more hask hnext hreads, Complete.cons.mpr hcomplete⟩

end Rows

theorem collectPaginated_of_lists (client : AdminClient) (url arrayKey : Text)
    (pagination : PaginationOptions) (rows : List Json) (tokenAt : Nat → Text)
    (h : ListsRows (client.ask url (client.normalizedPageSize pagination.pageSize)) arrayKey rows
      tokenAt (client.normalizedPageSize pagination.pageSize)) :
    ∃ read pages, client.collectPaginated url arrayKey pagination =
        .ok (rows.take read, AdminClient.paginationMeta
          (client.normalizedPageSize pagination.pageSize) pages
          (client.normalizedMaxPages pagination.maxPages)
          (if read < rows.length then some (tokenAt read) else none)) ∧
      read ≤ rows.length ∧ pages ≤ client.normalizedMaxPages pagination.maxPages ∧
      (read < rows.length → pages = client.normalizedMaxPages pagination.maxPages) ∧
      read ≤ max client.defaultMaxPages 1 * max client.maxPageSize 1 := by
  have hpos : 0 < client.normalizedMaxPages pagination.maxPages := clampRequested_pos _ _
  obtain ⟨left, hleft⟩ := Nat.exists_eq_succ_of_ne_zero hpos.ne'
  have hstart : TokenFor rows tokenAt 0 none := .inl ⟨rfl, rfl⟩
  obtain ⟨payloads, last, hreads, hcomplete⟩ := h.exists_reads left 0 hstart
  rw [← Nat.succ_eq_add_one, ← hleft] at hcomplete
  obtain ⟨read, hfew, hwithin, hitems, htoken⟩ := h.rowsRead hstart hreads
  rw [Nat.zero_add] at hwithin htoken
  rw [List.drop_zero] at hitems
  refine ⟨read, payloads.length, ?_, hwithin, hcomplete.1, fun hmore => ?_, ?_⟩
  · rw [collectPaginated_eq_ok]
    exact ⟨payloads, last, hreads, hcomplete, hitems.symm, by rw [htoken]⟩
  · rcases hcomplete.2 with hnone | hall
    · rw [htoken, if_pos hmore] at hnone
      cases hnone
    · exact hall
  · calc read ≤ payloads.length * client.normalizedPageSize pagination.pageSize := hfew
      _ ≤ client.normalizedMaxPages pagination.maxPages *
            client.normalizedPageSize pagination.pageSize := Nat.mul_le_mul_right _ hcomplete.1
      _ ≤ max client.defaultMaxPages 1 * max client.maxPageSize 1 :=
          Nat.mul_le_mul (clampRequested_le _ _) (clampRequested_le _ _)

/-- **A list tool returns a beginning of the rows**, once and in order. It is all of them
    exactly when the reply has no token, and else the call has sent all its requests. No
    arguments reach further than the limits of the client. -/
theorem listing_of_lists (client : AdminClient) (url arrayKey : Text) (name : String)
    (pagination : PaginationOptions) (rows : List Json) (tokenAt : Nat → Text)
    (h : ListsRows (client.ask url (client.normalizedPageSize pagination.pageSize)) arrayKey rows
      tokenAt (client.normalizedPageSize pagination.pageSize)) :
    ∃ read pages, client.listing url arrayKey name pagination =
        .ok (.ofFields [(name, .array (rows.take read)),
          ("meta", AdminClient.paginationMeta (client.normalizedPageSize pagination.pageSize) pages
            (client.normalizedMaxPages pagination.maxPages)
            (if read < rows.length then some (tokenAt read) else none))]) ∧
      read ≤ rows.length ∧ pages ≤ client.normalizedMaxPages pagination.maxPages ∧
      (read < rows.length → pages = client.normalizedMaxPages pagination.maxPages) ∧
      read ≤ max client.defaultMaxPages 1 * max client.maxPageSize 1 := by
  obtain ⟨read, pages, hcollected, hbounds⟩ :=
    collectPaginated_of_lists client url arrayKey pagination rows tokenAt h
  refine ⟨read, pages, ?_, hbounds⟩
  rw [AdminClient.listing, hcollected]
  rfl

/-! ## A listing -/

/-- One row a page, and tokens whose length is the position. -/
def onePerPage (rows : List Json) : AdminClient where
  adminBaseUrl := text "https://admin"
  maxPageSize := 200
  defaultMaxPages := 20
  getJson _ _ query :=
    let n := (query.tail.map fun field => field.2.length).sum
    .ok (.ofFields [
      ("accountSummaries", .array ((rows.drop n).take 1)),
      ("nextPageToken",
        if n + 1 < rows.length then .string (List.replicate (n + 1) 't') else .null)])

theorem get_listPayload (items token : Json) :
    (Json.ofFields [("accountSummaries", items), ("nextPageToken", token)]).get
        (text "accountSummaries") = some items ∧
      (Json.ofFields [("accountSummaries", items), ("nextPageToken", token)]).get
        (text "nextPageToken") = some token := by
  simp [Json.ofFields, Json.get, JsonMap.ofFields, text]

theorem payloadToken_replicate (items : Json) (n : Nat) :
    payloadToken (.ofFields [("accountSummaries", items),
      ("nextPageToken", .string (List.replicate (n + 1) 't'))]) =
        some (List.replicate (n + 1) 't') := by
  have hblank : ¬ (Text.trim (List.replicate (n + 1) 't')).isEmpty = true := by
    rw [List.isEmpty_iff]
    exact Text.trim_ne_nil (List.mem_replicate.mpr ⟨Nat.succ_ne_zero n, rfl⟩) rfl
  rw [payloadToken, (get_listPayload _ _).2]
  exact Option.filter_eq_some_iff.mpr ⟨rfl, decide_eq_true hblank⟩

theorem onePerPage_lists (rows : List Json) (url : Text) :
    ListsRows ((onePerPage rows).ask url 200) (text "accountSummaries") rows
      (fun n => List.replicate n 't') 200 := by
  have hanswer : ∀ n sent token, TokenFor rows (fun n => List.replicate n 't') n token →
      ∃ payload shown, (onePerPage rows).ask url 200 sent token = .ok payload ∧
        ShowsRows (text "accountSummaries") rows (fun n => List.replicate n 't') 200 n payload
          shown := by
    intro n sent token htoken
    have hposition : (((pageQuery 200 token).tail.map fun field => field.2.length).sum) = n := by
      rcases htoken with ⟨rfl, rfl⟩ | ⟨-, rfl⟩
      · rfl
      · simp [pageQuery]
    refine ⟨_, min 1 (rows.length - n), rfl, ?_⟩
    rw [hposition]
    have hle : n ≤ rows.length := by
      rcases htoken with ⟨rfl, -⟩ | ⟨hlt, -⟩
      · exact Nat.zero_le _
      · exact hlt.le
    refine ⟨by omega, by omega, ?_, ?_⟩
    · rw [pageItems, (get_listPayload _ _).1, ← List.length_drop, ← List.take_eq_take_min]
      rfl
    · by_cases hmore : n + 1 < rows.length
      · have hone : min 1 (rows.length - n) = 1 := by omega
        rw [hone, if_pos hmore, if_pos hmore]
        exact payloadToken_replicate _ n
      · have hend : ¬ n + min 1 (rows.length - n) < rows.length := by omega
        rw [if_neg hmore, if_neg hend, payloadToken, (get_listPayload _ _).2]
        rfl
  exact ⟨fun sent => hanswer 0 sent none (.inl ⟨rfl, rfl⟩),
    fun sent n hlt => hanswer n sent _ (.inr ⟨hlt, rfl⟩)⟩

theorem listing_onePerPage :
    ∃ read pages, (onePerPage [.null, .bool true, .bool false]).listing (text "https://admin/list")
        (text "accountSummaries") "account_summaries" ⟨none, some 2⟩ =
        .ok (.ofFields [("account_summaries", .array ([.null, .bool true, .bool false].take read)),
          ("meta", AdminClient.paginationMeta 200 pages 2
            (if read < 3 then some (List.replicate read 't') else none))]) ∧
      read ≤ 3 ∧ pages ≤ 2 ∧ (read < 3 → pages = 2) ∧ read ≤ 20 * 200 :=
  listing_of_lists (onePerPage [.null, .bool true, .bool false]) (text "https://admin/list")
    (text "accountSummaries") "account_summaries" ⟨none, some 2⟩ _ _ (onePerPage_lists _ _)

end Ga4Mcp.Tools
