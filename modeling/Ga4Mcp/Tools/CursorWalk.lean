/-
  Reading a result by its cursors, of `src/tools.rs`.

  A client calls a tool, and calls it again with each `meta.next_cursor` that it gets, until
  there is none.

  * `readsOnce_iff`: over a fixed result, with an upstream or an engine that honours offset
    and limit, the pages are the rows from the offset of the first call on, each once and
    in order, exactly when every page has room for its payload.
  * `not_readsOnce_longValue`: a conversions report without that room. The walk stops with
    an error.
-/
import Ga4Mcp.Lib.Paging
import Ga4Mcp.Tools.CallWindows
import Ga4Mcp.Tools.CursorLaws

namespace Ga4Mcp.Tools

open Ga4Mcp.Lib

namespace PagedCall

/-- The walk of a client that follows the cursors ends without a cursor; its replies show
    pages that are together the rows from `start` on. -/
def ReadsOnce (server : AnalyticsMcp) (call : PagedCall) (columns : List ColumnMeta)
    (rows : List JsonMap) (start : Nat) : Prop :=
  ∃ replies pages,
    Walk (PagedCall.reply server) (fun reply => nextCursor reply.2) PagedCall.withCursor call
      replies ∧
    List.Forall₂ (fun reply page => reply.1 = call.shownData columns page ∧
      rowCountReturned reply.2 = some page.length) replies pages ∧
    pages.flatten = rows.drop start

end PagedCall

/-! ## The walk -/

/-- The last page is the one that reaches the end of the rows. -/
theorem CallPage.ShowsWindow.continues_iff {page : CallPage} {window : Text × Nat × Nat}
    {columns : List ColumnMeta} {rows : List JsonMap} (h : page.ShowsWindow window columns rows)
    (hwindow : WindowSound window) :
    page.nextOffset = window.2.1 + page.rows.length ∧
      (page.Continues ↔ window.2.1 + page.rows.length < rows.length) := by
  have hlength : page.rows.length = min window.2.2 (rows.length - window.2.1) := by
    rw [h.rows_eq, List.length_take, List.length_drop]
  have hoffset := hwindow.offset_le
  have hpos := hwindow.limit_pos
  have hlimit := hwindow.limit_le
  have hnext : page.nextOffset = window.2.1 + page.rows.length := by
    rw [CallPage.nextOffset, h.offset_eq]
    unfold saturatingAdd usizeMax
    unfold maxReportLimit at hoffset
    unfold maxTabularMaxRows at hlimit
    omega
  refine ⟨hnext, ?_⟩
  have htotal := h.total_eq
  cases page with
  | report p =>
      change 0 < (CallPage.report p).rows.length ∧
        (CallPage.report p).nextOffset < (CallPage.report p).rowCountTotal ↔ _
      omega
  | scratchpad p =>
      change (CallPage.scratchpad p).nextOffset < (CallPage.scratchpad p).rowCountTotal ↔ _
      omega

namespace PagedCall

/-- A call of a walk that `first` began, at an offset of the rows. -/
structure AtOffset (server : AnalyticsMcp) (first : PagedCall) (columns : List ColumnMeta)
    (rows : List JsonMap) (queryHash : Text) (limit : Nat) (call : PagedCall) (offset : Nat) :
    Prop where
  serves : call.Serves server columns rows
  prepared : call.prepared server = .ok (queryHash, offset, limit)
  payloads : ∀ k, k = 0 ∨ offset + k * limit < rows.length →
    call.PayloadFits limit (offset + k * limit)
  shown : call.shownData = first.shownData

section Walk

variable {server : AnalyticsMcp} {first call : PagedCall} {columns : List ColumnMeta}
  {rows : List JsonMap} {queryHash : Text} {offset limit : Nat}

/-- The call that the cursor of a full page makes. -/
theorem AtOffset.next (h : AtOffset server first columns rows queryHash limit call offset)
    (hmore : offset + limit < rows.length) (hfits : rows.length ≤ maxReportLimit * 10) :
    AtOffset server first columns rows queryHash limit
      (call.withCursor (encodeCursor queryHash (offset + limit))) (offset + limit) := by
  refine ⟨serves_withCursor h.serves _, prepared_withCursor h.prepared (by omega),
    fun k hk => ?_, (shownData_withCursor call _).trans h.shown⟩
  rw [payloadFits_withCursor]
  -- page `k` from here is page `k + 1` from the call before
  have hshift : offset + limit + k * limit = offset + (k + 1) * limit := by
    rw [Nat.succ_mul]
    omega
  rw [hshift] at hk ⊢
  refine h.payloads (k + 1) (.inr ?_)
  rcases hk with rfl | hk
  · rwa [Nat.zero_add, Nat.one_mul]
  · exact hk

/-- **One step of a walk.** -/
theorem AtOffset.step (h : AtOffset server first columns rows queryHash limit call offset)
    (hfits : rows.length ≤ maxReportLimit * 10) :
    ∃ reply page, call.reply server = some reply ∧
      (reply.1 = first.shownData columns page ∧ rowCountReturned reply.2 = some page.length) ∧
      StepOk withCursor (fun reply => nextCursor reply.2)
        (AtOffset server first columns rows queryHash limit) rows call offset reply page := by
  have hwindow := prepared_sound h.prepared
  have hpayload := h.payloads 0 (.inl rfl)
  rw [Nat.zero_mul, Nat.add_zero] at hpayload
  obtain ⟨page, hpage, hshows⟩ := exists_page h.serves hfits h.prepared hpayload
  obtain ⟨hnext, hcontinues⟩ := hshows.continues_iff hwindow
  dsimp only at hnext hcontinues
  have hlength : page.rows.length = min limit (rows.length - offset) := by
    rw [hshows.rows_eq, List.length_take, List.length_drop]
  have hfitsPage : page.rows.length ≤ usizeMax := by
    unfold usizeMax
    unfold maxReportLimit at hfits
    omega
  have hpos : 0 < limit := hwindow.limit_pos
  refine ⟨call.write page, page.rows, by rw [reply_eq, hpage]; rfl,
    ⟨?_, rowCountReturned_write hpage hfitsPage⟩, ?_, fun hend => ?_, fun c hc => ?_⟩
  · rw [data_write hpage, hshows.columns_eq, h.shown]
  · rw [hshows.rows_eq]
    exact List.take_prefix _ _
  · rw [nextCursor_write hpage] at hend
    have hstop : ¬ page.Continues := by
      intro hgoes
      rw [if_pos hgoes] at hend
      cases hend
    rw [hcontinues] at hstop
    omega
  · rw [nextCursor_write hpage] at hc
    split at hc
    · next hgoes =>
        have hmore := hcontinues.mp hgoes
        have hfull : page.rows.length = limit := by omega
        cases hc
        rw [hnext, hshows.queryHash_eq, hfull]
        refine ⟨List.ne_nil_of_length_pos (by omega), h.next (by omega) hfits⟩
    · cases hc

/-- Every page of a walk had room for its payload. -/
theorem payloads_of_walk (hfits : rows.length ≤ maxReportLimit * 10) (k : Nat) :
    ∀ {call : PagedCall} {offset : Nat} {replies : List (Json × Json)},
      call.Serves server columns rows → call.prepared server = .ok (queryHash, offset, limit) →
      Walk (PagedCall.reply server) (fun reply => nextCursor reply.2) withCursor call replies →
      (k = 0 ∨ offset + k * limit < rows.length) → call.PayloadFits limit (offset + k * limit) := by
  induction k with
  | zero =>
      intro call offset replies _ hprepared hwalk _
      obtain ⟨reply, hreply, -⟩ := hwalk.head
      rw [reply_eq] at hreply
      obtain ⟨page, hpage, -⟩ := Option.map_eq_some_iff.mp hreply
      have hpayload := payloadFits_of_page hpage hprepared
      rwa [Nat.zero_mul, Nat.add_zero]
  | succ k ih =>
      intro call offset replies hserves hprepared hwalk hk
      have hshift : offset + (k + 1) * limit = offset + limit + k * limit := by
        rw [Nat.succ_mul]
        omega
      rw [hshift] at hk ⊢
      have hmore : offset + limit < rows.length := by omega
      -- the first page is full, so its cursor leads to the next one
      obtain ⟨reply, hreply, hrest⟩ := hwalk.head
      rw [reply_eq] at hreply
      obtain ⟨page, hpage, rfl⟩ := Option.map_eq_some_iff.mp hreply
      have hpayload := payloadFits_of_page hpage hprepared
      obtain ⟨page', hpage', hshows⟩ := exists_page hserves hfits hprepared hpayload
      obtain rfl := Option.some.inj (hpage.symm.trans hpage')
      obtain ⟨hoffset, hcontinues⟩ := hshows.continues_iff (prepared_sound hprepared)
      have hfull : page.rows.length = limit := by
        rw [hshows.rows_eq, List.length_take, List.length_drop]
        dsimp only
        omega
      have hcursor : nextCursor (call.write page).2 =
          some (encodeCursor queryHash (offset + limit)) := by
        rw [nextCursor_write hpage, if_pos (hcontinues.mpr (by rwa [hfull])), hshows.queryHash_eq,
          hoffset, hfull]
      obtain ⟨rest, hwalk'⟩ := hrest _ hcursor
      exact (payloadFits_withCursor _ _ _).mp (ih (serves_withCursor hserves _)
        (prepared_withCursor hprepared (by omega)) hwalk' (.inr (by omega)))

/-- **Following the cursors reads each row once**, exactly when every page has room for its
    payload. Only the conversions report can lack it. -/
theorem readsOnce_iff {start : Nat} (hserves : call.Serves server columns rows)
    (hfits : rows.length ≤ maxReportLimit * 10)
    (hprepared : call.prepared server = .ok (queryHash, start, limit)) :
    call.ReadsOnce server columns rows start ↔
      ∀ k, k = 0 ∨ start + k * limit < rows.length →
        call.PayloadFits limit (start + k * limit) := by
  constructor
  · rintro ⟨replies, pages, hwalk, -, -⟩ k hk
    exact payloads_of_walk hfits k hserves hprepared hwalk hk
  · intro hpayloads
    exact exists_walk (fun _ _ hat => AtOffset.step hat hfits) call start
      ⟨hserves, hprepared, hpayloads, rfl⟩

end Walk

end PagedCall

/-! ## A walk over a report -/

/-- The cells of a row, of one kind. -/
def oneCell (value : Text) : Json := .array [.ofFields [("value", .string value)]]

/-- A report of countries, numbered from zero. -/
def numberedReport (count : Nat) : ReportTable where
  dimensionHeaders := [.ofFields [("name", .string (text "country"))]]
  metricHeaders := [.ofFields [("name", .string (text "advertiserAdClicks"))]]
  rows := (List.range count).map fun n => .ofFields [
    ("dimensionValues", oneCell (Text.decimal n)), ("metricValues", oneCell (text "1"))]
  headersShaped := by
    intro header hheader
    rcases List.mem_pair.mp hheader with rfl | rfl <;> rfl
  rowsShaped := by
    intro row hrow
    obtain ⟨n, -, rfl⟩ := List.mem_map.mp hrow
    have hcell : ∀ value, ∃ cells, oneCell value = .array cells ∧
        ∀ cell ∈ cells, cell.isObject = true := by
      intro value
      refine ⟨_, rfl, fun cell hcell => ?_⟩
      rw [List.mem_singleton.mp hcell]
      rfl
    refine ⟨rfl, fun key hkey value hvalue => ?_⟩
    simp only [Json.ofFields, Json.get, JsonMap.ofFields, List.map, List.foldl,
      JsonMap.get_insert, Option.mem_def] at hvalue
    rcases List.mem_pair.mp hkey with rfl | rfl
    · rw [if_neg (by decide), if_pos rfl] at hvalue
      cases hvalue
      exact hcell _
    · rw [if_pos rfl] at hvalue
      cases hvalue
      exact hcell _

theorem length_numberedReport (count : Nat) :
    (numberedReport count).projectedRows.length = count := by
  rw [ReportTable.length_projectedRows]
  exact (List.length_map _).trans List.length_range

/-- A number in the body of a request. -/
def bodyNumber (body : Json) (key : Text) : Nat :=
  (((body.get key).bind Json.asStr).bind parseU64).getD 0

/-- An upstream that reads offset and limit off the body. -/
def windowClient (table : ReportTable) : AnalyticsClient where
  dataBaseUrl := text "https://data"
  adminBaseUrl := text "https://admin"
  postJson := fun _ body => .ok (.ofFields [
    ("dimensionHeaders", .array table.dimensionHeaders),
    ("metricHeaders", .array table.metricHeaders),
    ("rows", .array ((table.rows.drop (bodyNumber body (text "offset"))).take
      (bodyNumber body (text "limit")))),
    ("rowCount", .ofNat table.rows.length)])

/-- A server whose upstream gives windows of a table. -/
def windowServer (table : ReportTable) : AnalyticsMcp :=
  { fixedServer .null 0 [] with client := windowClient table }

/-- A conversions report of a week. -/
def conversionsReport (offset : Option Nat) (dimensionFilter : Option Json) :
    RunConversionsReportArgs where
  dateRanges := [.ofFields [("start_date", .string (text "2026-02-01")),
    ("end_date", .string (text "2026-02-07"))]]
  dimensions := [text "country"]
  metrics := [text "advertiserAdClicks"]
  dimensionFilter := dimensionFilter
  metricFilter := none
  orderBys := none
  maxRows := none
  cursor := none
  outputMode := none
  summaryOnly := false
  maxCellChars := none
  limit := none
  offset := offset
  currencyCode := none
  returnPropertyQuota := false
  propertyId := .number 1
  conversionSpec := ⟨[], none⟩

/-- The body of a request holds its offset and its limit. -/
theorem bodyNumber_runReportPayload (request : BatchRunReportItemRequest) {offset limit : Nat}
    (hoffset : request.offset = some offset) (hlimit : request.limit = some limit)
    (hfits : offset ≤ usizeMax ∧ limit ≤ usizeMax) :
    bodyNumber (.object (buildRunReportPayload request)) (text "offset") = offset ∧
    bodyNumber (.object (buildRunReportPayload request)) (text "limit") = limit := by
  have hget : (Json.object (buildRunReportPayload request)).get (text "offset") =
        some (decimalString offset) ∧
      (Json.object (buildRunReportPayload request)).get (text "limit") =
        some (decimalString limit) := by
    unfold buildRunReportPayload
    simp only [Json.get, JsonMap.get_insert, JsonMap.get_insertSome, hoffset, hlimit]
    simp +decide
  have hread : ∀ n ≤ usizeMax, ((decimalString n).asStr.bind parseU64).getD 0 = n := by
    intro n hn
    rw [decimalString, Json.asStr, Option.bind_some, parseU64_decimal hn]
    rfl
  rw [bodyNumber, bodyNumber, hget.1, hget.2, Option.bind_some, Option.bind_some]
  exact ⟨hread _ hfits.1, hread _ hfits.2⟩

theorem bodyNumber_conversionsPayload (request : RunConversionsReportRequest) (key : Text)
    (hkey : text "conversionSpec" ≠ key) :
    bodyNumber (.object (buildRunConversionsReportPayload request)) key =
      bodyNumber (.object (buildRunReportPayload request.toBatchRunReportItemRequest)) key := by
  rw [bodyNumber, bodyNumber, Json.get, Json.get, buildRunConversionsReportPayload,
    JsonMap.get_insert, if_neg hkey]

theorem windowClient_answers (table : ReportTable) (url : Text) {body : Json} {offset limit : Nat}
    (hoffset : bodyNumber body (text "offset") = offset)
    (hlimit : bodyNumber body (text "limit") = limit) :
    ∃ response, (windowClient table).postJson url body = .ok response ∧
      table.AnswersWindow offset limit response := by
  refine ⟨_, rfl, ?_⟩
  rw [hoffset, hlimit]
  refine ⟨⟨rfl, .inl ?_, .inl ?_, .inl ?_⟩, .inl ?_⟩
  all_goals
    simp only [Json.ofFields, Json.get, JsonMap.ofFields, List.map, List.foldl,
      JsonMap.get_insert]
    simp +decide

theorem serves_windowServer (table : ReportTable) (offset : Option Nat) (filter : Option Json) :
    (PagedCall.runConversionsReport (conversionsReport offset filter)).Serves (windowServer table)
      table.columns table.projectedRows := by
  refine ⟨table, rfl, rfl, fun offset' limit hoffset hlimit => ?_⟩
  have hfits : offset' ≤ usizeMax ∧ limit ≤ usizeMax := by
    unfold usizeMax
    unfold maxReportLimit at hoffset
    unfold maxTabularMaxRows at hlimit
    omega
  obtain ⟨hreadOffset, hreadLimit⟩ := bodyNumber_runReportPayload
    (buildConversionsReportRequest (conversionsReport offset filter) limit offset'
      ).toBatchRunReportItemRequest rfl rfl hfits
  exact windowClient_answers table []
    ((bodyNumber_conversionsPayload _ _ (by decide)).trans hreadOffset)
    ((bodyNumber_conversionsPayload _ _ (by decide)).trans hreadLimit)

/-- A call that follows the cursors over 450 rows, from the third one on. -/
theorem readsOnce_numberedReport :
    (PagedCall.runConversionsReport (conversionsReport (some 2) none)).ReadsOnce
      (windowServer (numberedReport 450)) (numberedReport 450).columns
      (numberedReport 450).projectedRows 2 := by
  have hlength := length_numberedReport 450
  have hwindow : (((PagedCall.runConversionsReport (conversionsReport (some 2) none)).prepared
      (windowServer (numberedReport 450))).toOption.map Prod.snd) = some (2, 200) := by
    decide +kernel
  obtain ⟨⟨queryHash, window⟩, hprepared, rfl⟩ := Option.map_eq_some_iff.mp hwindow
  refine (PagedCall.readsOnce_iff (serves_windowServer _ _ _)
    (by rw [hlength]; decide) (toOption_eq_some.mp hprepared)).mpr fun k hk => ?_
  have hpages : ∀ k < 3, (PagedCall.runConversionsReport (conversionsReport (some 2) none)
      ).PayloadFits 200 (2 + k * 200) := by
    change ∀ k < 3, _ ≤ _
    decide +kernel
  exact hpages k (by omega)

/-! ## A walk that stops -/

/-- A filter that asks for one value. -/
def valueFilter (value : Text) : Json :=
  .ofFields [("filter", .ofFields [("field_name", .string (text "country")),
    ("string_filter", .ofFields [("value", .string value)])])]

theorem snakeToCamelJson_valueFilter (value : Text) : (valueFilter value).snakeToCamelJson =
    .object [(text "filter", .object [(text "fieldName", .string (text "country")),
      (text "stringFilter", .object [(text "value", .string value)])])] := by
  have hkeys : Json.snakeKeyToCamel (text "field_name") = text "fieldName" ∧
      Json.snakeKeyToCamel (text "string_filter") = text "stringFilter" ∧
      Json.snakeKeyToCamel (text "filter") = text "filter" ∧
      Json.snakeKeyToCamel (text "value") = text "value" := by decide
  simp +decide [valueFilter, Json.ofFields, Json.snakeToCamelJson, Json.camelFields,
    JsonMap.ofFields, JsonMap.insert, hkeys]

theorem len_valueFilter {value : Text} (h : ∀ c ∈ value, c.isAlphanum) :
    Text.len (valueFilter value).snakeToCamelJson.render = 62 + Text.len value := by
  have hkeys : Text.len (Json.renderString (text "filter")) = 8 ∧
      Text.len (Json.renderString (text "fieldName")) = 11 ∧
      Text.len (Json.renderString (text "country")) = 9 ∧
      Text.len (Json.renderString (text "stringFilter")) = 14 ∧
      Text.len (Json.renderString (text "value")) = 7 := by decide +kernel
  have hmarks : Text.len ['{'] = 1 ∧ Text.len ['}'] = 1 ∧ Text.len [':'] = 1 ∧
      Text.len [','] = 1 := by decide
  rw [snakeToCamelJson_valueFilter]
  simp only [Json.render, Json.renderFields, len_append, len_renderString h, hkeys, hmarks]
  omega

/-- A conversions report of the countries with one value. -/
def filteredReport (value : Text) : PagedCall :=
  .runConversionsReport (conversionsReport none (some (valueFilter value)))

/-- The payload grows with the value and with the digits of the offset. -/
theorem payloadFits_filteredReport {value : Text} (h : ∀ c ∈ value, c.isAlphanum) (offset : Nat) :
    (filteredReport value).PayloadFits 200 offset ↔
      319 + Text.len value + Text.len (Text.decimal offset) ≤ maxProviderBoundaryJsonBytes := by
  have hfilter : optionalWeight "dimensionFilter"
      ((some (valueFilter value)).map .snakeToCamelJson) = 81 + Text.len value := by
    have hkey : Text.len (Json.renderString (text "dimensionFilter")) = 17 := by decide +kernel
    change JsonMap.fieldWeight (text "dimensionFilter", (valueFilter value).snakeToCamelJson) = _
    rw [JsonMap.fieldWeight, hkey, len_valueFilter h]
    omega
  have hbase : Text.len (normalizedConversionsProviderBoundaryPayload (conversionsReport none none)
      200 0).render = 239 := by
    decide +kernel
  have hsize : Text.len (normalizedConversionsProviderBoundaryPayload
      (conversionsReport none (some (valueFilter value))) 200 offset).render + 1 =
        Text.len (normalizedConversionsProviderBoundaryPayload (conversionsReport none none)
          200 0).render + _ + _ :=
    payloadSize_eq (conversionsReport none none) 200 (some (valueFilter value)) offset
  rw [hfilter, hbase] at hsize
  change Text.len (normalizedConversionsProviderBoundaryPayload
    (conversionsReport none (some (valueFilter value))) 200 offset).render ≤ _ ↔ _
  omega

/-- The checks of the call, apart from that of its payload, do not look at the value. -/
theorem prepared_filteredReport {value : Text} (h : (filteredReport value).PayloadFits 200 0)
    (table : ReportTable) : ∃ queryHash,
      (filteredReport value).prepared (windowServer table) = .ok (queryHash, 0, 200) := by
  have hinputs : validateConversionsReportInputs id
      (conversionsReport none (some (valueFilter value))) = .ok () := by
    have hnone : (validateConversionsReportInputs id (conversionsReport none none)).toOption =
        some () := by
      decide +kernel
    exact toOption_eq_some.mp hnone
  have hproperty : propertyResourceName (.number 1) = .ok (text "properties/1") := by decide
  obtain ⟨queryHash, hhash⟩ : ∃ queryHash, runConversionsReportQueryHash (fun _ => 0)
      (conversionsReport none (some (valueFilter value))) = .ok queryHash :=
    ⟨_, bind_eq_ok.mpr ⟨_, hproperty, rfl⟩⟩
  have hpayload : checkConversionsPayload (conversionsReport none (some (valueFilter value)))
      200 0 = .ok () :=
    checkConversionsPayload_eq_ok.mpr h
  have hfallback : conversionsReportFallbackWindow
      (conversionsReport none (some (valueFilter value))) = (0, 200) := rfl
  have hprepared : prepareRunConversionsReport (windowServer table).toReportServer
      (conversionsReport none (some (valueFilter value))) =
        .ok (⟨queryHash, .rows, false, none, 0, true⟩, 200) := by
    rw [prepareRunConversionsReport, hfallback]
    exact prepareReport_eq_ok.mpr ⟨hinputs, rfl, bind_eq_ok.mpr ⟨(), hpayload, hhash⟩, rfl, rfl⟩
  refine ⟨queryHash, ?_⟩
  rw [filteredReport, PagedCall.prepared, hprepared]
  rfl

/-- A value as long as the payload of the first page allows. -/
def longValue : Text := List.replicate 65216 'a'

theorem payloadFits_longValue (offset : Nat) :
    (filteredReport longValue).PayloadFits 200 offset ↔ Text.len (Text.decimal offset) ≤ 1 := by
  have hreplicate : ∀ n, Text.len (List.replicate n 'a') = n := by
    intro n
    induction n with
    | zero => rfl
    | succ n ih =>
        have hone : Text.len ['a'] = 1 := by decide
        rw [List.replicate_succ', len_append, ih, hone]
  have hletters : ∀ c ∈ longValue, c.isAlphanum := by
    intro c hc
    rw [(List.mem_replicate.mp hc).2]
    decide
  have hvalue : Text.len longValue = 65216 := hreplicate _
  rw [payloadFits_filteredReport hletters, hvalue]
  unfold maxProviderBoundaryJsonBytes
  omega

/-- A report of 201 rows on two pages: the first page is there, with a cursor, and the call
    with the cursor is refused, as its payload is too long by the digits of its offset. -/
theorem not_readsOnce_longValue :
    (filteredReport longValue).Serves (windowServer (numberedReport 201))
      (numberedReport 201).columns (numberedReport 201).projectedRows ∧
    (numberedReport 201).projectedRows.length = 201 ∧
    (∃ queryHash, (filteredReport longValue).prepared (windowServer (numberedReport 201)) =
      .ok (queryHash, 0, 200)) ∧
    ((filteredReport longValue).page (windowServer (numberedReport 201))).isSome ∧
    ¬ (filteredReport longValue).ReadsOnce (windowServer (numberedReport 201))
      (numberedReport 201).columns (numberedReport 201).projectedRows 0 := by
  have hserves : (filteredReport longValue).Serves (windowServer (numberedReport 201))
      (numberedReport 201).columns (numberedReport 201).projectedRows :=
    serves_windowServer (numberedReport 201) none (some (valueFilter longValue))
  have hlength := length_numberedReport 201
  have hfits : (numberedReport 201).projectedRows.length ≤ maxReportLimit * 10 := by
    rw [hlength]
    decide
  have hfirst : (filteredReport longValue).PayloadFits 200 0 :=
    (payloadFits_longValue 0).mpr (by decide)
  obtain ⟨queryHash, hprepared⟩ := prepared_filteredReport hfirst (numberedReport 201)
  obtain ⟨page, hpage, -⟩ := PagedCall.exists_page hserves hfits hprepared hfirst
  refine ⟨hserves, hlength, ⟨queryHash, hprepared⟩, by rw [hpage]; rfl, ?_⟩
  rintro ⟨replies, pages, hwalk, -, -⟩
  have hsecond := PagedCall.payloads_of_walk hfits 1 hserves hprepared hwalk
    (.inr (by rw [hlength]; decide))
  rw [payloadFits_longValue] at hsecond
  exact absurd hsecond (by decide)

end Ga4Mcp.Tools
