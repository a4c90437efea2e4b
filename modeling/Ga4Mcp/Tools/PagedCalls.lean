/-
  The paginated tool calls as one type, of `src/tools.rs`: the report tools, the items of a
  batch, and the scratchpad queries.

  A call has a window (`windowArgs`, what it hands to `resolve_cursor_window`), a page
  (`page`, what it hands to its emitter) and a reply. `reply_eq` and `page_facts` say how
  the three belong together, for every call; `nextCursor_write`, `continuationHint_mem_write`
  and `data_write` say what the reply has of its page.
-/
import Ga4Mcp.Tools.Reports
import Ga4Mcp.Tools.ScratchpadQuery

namespace Ga4Mcp.Tools

open Ga4Mcp.Lib

/-- The server, with both of its sides. -/
structure AnalyticsMcp extends ReportServer, ScratchpadServer

/-- A call of a paginated tool. A batch call counts once for each of its items. -/
inductive PagedCall where
  | runReport (args : RunReportArgs)
  | runPropertyAccessReport (args : RunAccessReportPropertyArgs)
  | runAccountAccessReport (args : RunAccessReportAccountArgs)
  | runConversionsReport (args : RunConversionsReportArgs)
  | runPivotReport (args : RunPivotReportArgs)
  | batchRunReports (args : BatchRunReportsArgs) (index : Nat)
  | scratchpadQuery (query : ScratchpadQuery)

/-- The arguments of `resolve_cursor_window`. -/
structure WindowArgs where
  queryHash : Text
  cursor : Option Text
  requestedOffset : Option Nat
  maxRows : Option Nat
  requestedLimit : Option Nat

/-- The window that a call asks for. -/
def WindowArgs.resolve (args : WindowArgs) : Except AnalyticsError (Nat × Nat) :=
  resolveCursorWindow args.queryHash args.cursor args.requestedOffset args.maxRows
    args.requestedLimit

/-- A page as the emitter of its tool gets it. -/
inductive CallPage where
  | report (page : ReportPage)
  | scratchpad (page : ScratchpadPage)

namespace CallPage

/-- The query hash of the page. -/
def queryHash : CallPage → Text
  | report page => page.options.queryHash
  | scratchpad page => page.queryHash

/-- The offset of the request. -/
def offset : CallPage → Nat
  | report page => page.options.cursorOffset
  | scratchpad page => page.offset

/-- The rows that the upstream or the engine returned. -/
def rows : CallPage → List JsonMap
  | report page => page.projection.rows
  | scratchpad page => page.projection.rows

/-- The total that the upstream or the engine reported. -/
def rowCountTotal : CallPage → Nat
  | report page => page.projection.rowCountTotal
  | scratchpad page => page.projection.rowCountTotal

/-- The columns of the page. -/
def columns : CallPage → List ColumnMeta
  | report page => page.projection.columns
  | scratchpad page => page.projection.columns

/-- The offset after the page. -/
def nextOffset (page : CallPage) : Nat := saturatingAdd page.offset page.rows.length

/-- The page does not reach the total. The GA emitter also asks for a row. -/
def Continues : CallPage → Prop
  | report page =>
      0 < page.projection.rows.length ∧
        (report page).nextOffset < page.projection.rowCountTotal
  | scratchpad page => (scratchpad page).nextOffset < page.projection.rowCountTotal

instance (page : CallPage) : Decidable page.Continues :=
  match page with
  | report _ => inferInstanceAs (Decidable (_ ∧ _))
  | scratchpad _ => inferInstanceAs (Decidable (_ < _))

/-- What the tools see to when they make a page. -/
def WellMade : CallPage → Prop
  | report page => page.options.supportsPagination = true
  | scratchpad page => continuationHint ∉ page.projection.queryHints

/-- The options of a report page are those of the arguments. -/
def Follows (controls : TabularControls) : CallPage → Prop
  | report page =>
      page.options.outputMode = controls.outputMode.getD .rows ∧
        page.options.summaryOnly = controls.summaryOnly ∧
          page.options.maxCellChars = controls.maxCellChars
  | scratchpad _ => True

end CallPage

namespace PagedCall

/-- The call with the offset left out and the cursor put in. -/
def withCursor (cursor : Text) : PagedCall → PagedCall
  | runReport args => runReport { args with offset := none, cursor := some cursor }
  | runPropertyAccessReport args =>
      runPropertyAccessReport { args with offset := none, cursor := some cursor }
  | runAccountAccessReport args =>
      runAccountAccessReport { args with offset := none, cursor := some cursor }
  | runConversionsReport args =>
      runConversionsReport { args with offset := none, cursor := some cursor }
  | runPivotReport args => runPivotReport { args with cursor := some cursor }
  | batchRunReports args index =>
      batchRunReports { args with
        requests := args.requests.modify index fun item =>
          { item with offset := none, cursor := some cursor } } index
  | scratchpadQuery query =>
      scratchpadQuery { query with controls := { query.controls with cursor := some cursor } }

/-- The arguments about the shape of the response. An item that is not there has no page. -/
def controls : PagedCall → TabularControls
  | runReport args => args.toTabularControls
  | runPropertyAccessReport args => args.toTabularControls
  | runAccountAccessReport args => args.toTabularControls
  | runConversionsReport args => args.toTabularControls
  | runPivotReport args => args.toTabularControls
  | batchRunReports args index =>
      (args.requests[index]?.map fun item => item.toTabularControls).getD
        ⟨none, none, none, false, none⟩
  | scratchpadQuery query => query.controls

/-- What the window of a call is made from. -/
def windowArgs (server : AnalyticsMcp) : PagedCall → Except AnalyticsError WindowArgs
  | runReport args => do
      let queryHash ← runReportQueryHash server.hasher args
      return ⟨queryHash, args.cursor, args.offset, args.maxRows, args.limit⟩
  | runPropertyAccessReport args => do
      let queryHash ← runPropertyAccessQueryHash server.hasher args
      return ⟨queryHash, args.cursor, args.offset, args.maxRows, args.limit⟩
  | runAccountAccessReport args => do
      let queryHash ← runAccountAccessQueryHash server.hasher args
      return ⟨queryHash, args.cursor, args.offset, args.maxRows, args.limit⟩
  | runConversionsReport args => do
      let queryHash ← runConversionsReportQueryHash server.hasher args
      return ⟨queryHash, args.cursor, args.offset, args.maxRows, args.limit⟩
  | runPivotReport args => do
      let queryHash ← runPivotQueryHash server.hasher args
      return ⟨queryHash, args.cursor, none, args.maxRows, none⟩
  | batchRunReports args index => do
      let property ← propertyResourceName args.propertyId
      let item ← okOr args.requests[index]? (.internal (text "no such item"))
      return ⟨batchRunReportQueryHash server.hasher property index item, item.cursor, item.offset,
        item.maxRows, item.limit⟩
  | scratchpadQuery query =>
      .ok ⟨scratchpadQueryHash server.hasher query.toolName query.sessionId (Text.trim query.sql),
        query.controls.cursor, none, query.controls.maxRows, none⟩

/-- The page of a call that succeeds. -/
def page (server : AnalyticsMcp) : PagedCall → Option CallPage
  | runReport args => (runReportPage server.toReportServer args).toOption.map .report
  | runPropertyAccessReport args =>
      (runPropertyAccessReportPage server.toReportServer args).toOption.map .report
  | runAccountAccessReport args =>
      (runAccountAccessReportPage server.toReportServer args).toOption.map .report
  | runConversionsReport args =>
      (runConversionsReportPage server.toReportServer args).toOption.map .report
  | runPivotReport args => (runPivotReportPage server.toReportServer args).toOption.map .report
  | batchRunReports args index =>
      (batchRunReportsPages server.toReportServer args).toOption.bind fun pages =>
        pages.2[index]?.map .report
  | scratchpadQuery query =>
      (scratchpadQueryPage server.hasher server.toScratchpadServer query).toOption.map .scratchpad

/-- One report of the reply to a batch. -/
def batchReport (data : Json) (index : Nat) : Option (Json × Json) := do
  let reports ← (data.get (text "reports")).bind Json.asArray
  let report ← reports[index]?
  return (← report.get (text "data"), ← report.get (text "meta"))

/-- `data` and `meta` of the answer, if the call succeeds. -/
def reply (server : AnalyticsMcp) : PagedCall → Option (Json × Json)
  | runReport args => (Tools.runReport server.toReportServer args).toOption
  | runPropertyAccessReport args =>
      (Tools.runPropertyAccessReport server.toReportServer args).toOption
  | runAccountAccessReport args =>
      (Tools.runAccountAccessReport server.toReportServer args).toOption
  | runConversionsReport args => (Tools.runConversionsReport server.toReportServer args).toOption
  | runPivotReport args => (Tools.runPivotReport server.toReportServer args).toOption
  | batchRunReports args index =>
      (Tools.batchRunReports server.toReportServer args).toOption.bind fun reply =>
        batchReport reply.1 index
  | scratchpadQuery query =>
      (runScratchpadQueryContract server.hasher server.toScratchpadServer query).toOption

/-- What the emitter of the call writes for a page. -/
def write : PagedCall → CallPage → Json × Json
  | batchRunReports _ index, .report page => batchItemReply page index
  | scratchpadQuery query, .scratchpad page => scratchpadReply query page
  | _, .report page => reportReply page
  -- never asked: only scratchpad queries have these pages
  | _, .scratchpad _ => (.null, .null)

end PagedCall

/-! ## A page and its window -/

/-- What holds of the page of every call. -/
structure PageFacts (server : AnalyticsMcp) (call : PagedCall) (page : CallPage) : Prop where
  window : ∃ args limit, call.windowArgs server = .ok args ∧ args.queryHash = page.queryHash ∧
    args.resolve = .ok (page.offset, limit)
  soundHash : SoundHash page.queryHash
  offset_le : page.offset ≤ maxReportLimit * 10
  wellMade : page.WellMade
  follows : page.Follows call.controls

/-- The facts about a report page that was prepared by `prepareReport`. -/
theorem pageFacts_of_prepared {server : AnalyticsMcp} {call : PagedCall}
    {validated : Except AnalyticsError Unit} {controls : TabularControls}
    {queryHash : Except AnalyticsError Text} {requestedOffset requestedLimit : Option Nat}
    {options : TabularResponseOptions} {limit : Nat} {projection : GaTabularProjection}
    (hprepared : prepareReport validated controls queryHash requestedOffset requestedLimit =
      .ok (options, limit))
    (hwindow : ∀ hash, queryHash = .ok hash → SoundHash hash ∧ call.windowArgs server =
      .ok ⟨hash, controls.cursor, requestedOffset, controls.maxRows, requestedLimit⟩)
    (hoffset : validated = .ok () → ∀ value ∈ requestedOffset, value ≤ maxReportLimit * 10)
    (hcontrols : call.controls = controls) :
    PageFacts server call (.report ⟨projection, options⟩) := by
  obtain ⟨hvalidated, -, hhash, hresolved, hshape⟩ := prepareReport_eq_ok.mp hprepared
  obtain ⟨hsound, hargs⟩ := hwindow _ hhash
  have hresolve : resolveCursorWindow options.queryHash controls.cursor requestedOffset
      controls.maxRows requestedLimit = .ok (options.cursorOffset, limit) :=
    resolveCursorWindow_eq_ok.mpr ⟨hresolved, (Prod.mk.inj hshape).2⟩
  have hoptions := (Prod.mk.inj hshape).1
  refine ⟨⟨_, limit, hargs, rfl, hresolve⟩, hsound, ?_, ?_, ?_⟩
  · exact resolveCursorOffset_le hresolved (hoffset hvalidated)
  · exact congrArg TabularResponseOptions.supportsPagination hoptions
  · rw [hcontrols]
    exact ⟨congrArg TabularResponseOptions.outputMode hoptions,
      congrArg TabularResponseOptions.summaryOnly hoptions,
      congrArg TabularResponseOptions.maxCellChars hoptions⟩

/-- A batch prepared each of its items. -/
theorem prepareBatch_getElem {server : ReportServer} {args : BatchRunReportsArgs}
    {property : Text} {prepared : List (TabularResponseOptions × Nat)}
    (h : prepareBatch server args = .ok (property, prepared)) :
    propertyResourceName args.propertyId = .ok property ∧
    List.Forall₂ (fun request prepared =>
      prepareBatchItem server property request.1 request.2 = .ok prepared)
      args.requests.zipIdx prepared := by
  obtain ⟨⟨⟩, -, h⟩ := bind_eq_ok.mp h
  obtain ⟨name, hname, h⟩ := bind_eq_ok.mp h
  obtain ⟨items, hitems, h⟩ := bind_eq_ok.mp h
  obtain ⟨rfl, rfl⟩ := Prod.mk.inj (pure_eq_ok.mp h)
  exact ⟨hname, mapM_eq_ok.mp hitems⟩

/-- The item of a prepared batch. -/
theorem prepareBatch_item {server : ReportServer} {args : BatchRunReportsArgs} {property : Text}
    {prepared : List (TabularResponseOptions × Nat)} {index : Nat}
    {window : TabularResponseOptions × Nat}
    (h : prepareBatch server args = .ok (property, prepared))
    (hwindow : prepared[index]? = some window) :
    ∃ item, args.requests[index]? = some item ∧
      prepareBatchItem server property item index = .ok window := by
  obtain ⟨-, hitems⟩ := prepareBatch_getElem h
  obtain ⟨⟨item, position⟩, hrequest, hitem⟩ := forall₂_getElem? hitems hwindow
  rw [List.getElem?_zipIdx] at hrequest
  obtain ⟨item', hitem', heq⟩ := Option.map_eq_some_iff.mp hrequest
  obtain ⟨rfl, hposition⟩ := Prod.mk.inj heq
  rw [Nat.zero_add] at hposition
  subst hposition
  exact ⟨item', hitem', hitem⟩

/-- The page of a batch item: its report, and the window that was prepared for it. -/
theorem batchRunReportsPages_getElem {server : ReportServer} {args : BatchRunReportsArgs}
    {property : Text} {pages : List ReportPage} {index : Nat} {page : ReportPage}
    (h : batchRunReportsPages server args = .ok (property, pages))
    (hpage : pages[index]? = some page) :
    ∃ item limit, args.requests[index]? = some item ∧
      propertyResourceName args.propertyId = .ok property ∧
      prepareBatchItem server property item index = .ok (page.options, limit) := by
  obtain ⟨⟨property', prepared⟩, hprepared, h⟩ := bind_eq_ok.mp h
  obtain ⟨data, -, h⟩ := bind_eq_ok.mp h
  obtain ⟨reports, -, h⟩ := bind_eq_ok.mp h
  obtain ⟨⟨⟩, -, h⟩ := bind_eq_ok.mp h
  obtain ⟨rfl, rfl⟩ := Prod.mk.inj (pure_eq_ok.mp h)
  obtain ⟨report, ⟨options, limit⟩, -, hget, rfl⟩ := List.getElem?_zipWith_eq_some.mp hpage
  obtain ⟨item, hitem, hwindow⟩ := prepareBatch_item hprepared hget
  exact ⟨item, limit, hitem, (prepareBatch_getElem hprepared).1, hwindow⟩

namespace PagedCall

theorem page_facts {server : AnalyticsMcp} {call : PagedCall} {page : CallPage}
    (h : call.page server = some page) : PageFacts server call page := by
  cases call with
  | runReport args =>
      obtain ⟨page, hpage, rfl⟩ := Option.map_eq_some_iff.mp h
      obtain ⟨limit, hprepared, -⟩ := reportPage_eq_ok.mp (toOption_eq_some.mp hpage)
      refine pageFacts_of_prepared hprepared (fun hash hhash => ?_)
        (fun hinputs => (validateReportInputs_ok hinputs).2) rfl
      exact ⟨soundHash_of_signature _ hhash, by rw [windowArgs, hhash]; rfl⟩
  | runPropertyAccessReport args =>
      obtain ⟨page, hpage, rfl⟩ := Option.map_eq_some_iff.mp h
      obtain ⟨limit, hprepared, -⟩ := reportPage_eq_ok.mp (toOption_eq_some.mp hpage)
      refine pageFacts_of_prepared hprepared (fun hash hhash => ?_)
        (fun hinputs => (validateReportInputs_ok hinputs).2) rfl
      exact ⟨soundHash_of_signature _ hhash, by rw [windowArgs, hhash]; rfl⟩
  | runAccountAccessReport args =>
      obtain ⟨page, hpage, rfl⟩ := Option.map_eq_some_iff.mp h
      obtain ⟨limit, hprepared, -⟩ := reportPage_eq_ok.mp (toOption_eq_some.mp hpage)
      refine pageFacts_of_prepared hprepared (fun hash hhash => ?_)
        (fun hinputs => (validateReportInputs_ok hinputs).2) rfl
      exact ⟨soundHash_of_signature _ hhash, by rw [windowArgs, hhash]; rfl⟩
  | runConversionsReport args =>
      obtain ⟨page, hpage, rfl⟩ := Option.map_eq_some_iff.mp h
      obtain ⟨limit, hprepared, -⟩ := reportPage_eq_ok.mp (toOption_eq_some.mp hpage)
      refine pageFacts_of_prepared hprepared (fun hash hhash => ?_)
        (fun hinputs => (validateReportInputs_ok (validateConversionsReportInputs_ok hinputs)).2)
        rfl
      obtain ⟨⟨⟩, -, hhash⟩ := bind_eq_ok.mp hhash
      exact ⟨soundHash_of_signature _ hhash, by rw [windowArgs, hhash]; rfl⟩
  | runPivotReport args =>
      obtain ⟨page, hpage, rfl⟩ := Option.map_eq_some_iff.mp h
      obtain ⟨limit, hprepared, -⟩ := reportPage_eq_ok.mp (toOption_eq_some.mp hpage)
      refine pageFacts_of_prepared hprepared (fun hash hhash => ?_) (fun _ => by simp) rfl
      exact ⟨soundHash_of_signature _ hhash, by rw [windowArgs, hhash]; rfl⟩
  | batchRunReports args index =>
      obtain ⟨⟨property, pages⟩, hpages, hmap⟩ := Option.bind_eq_some_iff.mp h
      obtain ⟨page, hpage, rfl⟩ := Option.map_eq_some_iff.mp hmap
      obtain ⟨item, limit, hitem, hproperty, hprepared⟩ :=
        batchRunReportsPages_getElem (toOption_eq_some.mp hpages) hpage
      refine pageFacts_of_prepared hprepared (fun hash hhash => ?_)
        (fun hinputs => (validateReportInputs_ok hinputs).2) (by rw [controls, hitem]; rfl)
      cases hhash
      exact ⟨stableQueryHash_sound _ _, by rw [windowArgs, hproperty, hitem]; rfl⟩
  | scratchpadQuery query =>
      obtain ⟨page, hpage, rfl⟩ := Option.map_eq_some_iff.mp h
      obtain ⟨hprepared, hprojection⟩ := scratchpadQueryPage_eq_ok.mp (toOption_eq_some.mp hpage)
      obtain ⟨-, -, hhash, hresolved, hsize⟩ := prepareScratchpadQuery_eq_ok.mp hprepared
      dsimp only at hhash hresolved hsize
      refine ⟨⟨_, page.pageSize, rfl, hhash.symm, ?_⟩, ?_, ?_, ?_, trivial⟩
      · rw [hhash] at hresolved
        exact resolveCursorWindow_eq_ok.mpr ⟨hresolved, hsize⟩
      · exact (hhash ▸ stableQueryHash_sound _ _ : SoundHash page.queryHash)
      · exact resolveCursorOffset_le hresolved (by simp)
      · exact continuationHint_not_mem_queryHints hprojection

end PagedCall

/-! ## The reply is the page, written -/

namespace PagedCall

/-- A report is read back from the reply to a batch. -/
theorem batchReport_reports (pages : List ReportPage) (index : Nat) :
    batchReport (.ofFields [("reports", .array (pages.zipIdx.map fun page =>
      let reply := batchItemReply page.1 page.2
      Json.ofFields [("index", .ofNat page.2), ("data", reply.1), ("meta", reply.2)]))]) index =
      pages[index]?.map fun page => batchItemReply page index := by
  have hreports : ∀ value : Json,
      (Json.ofFields [("reports", value)]).get (text "reports") = some value := by
    intro value
    simp [Json.ofFields, Json.get, JsonMap.ofFields]
  have hfields : ∀ idx data reply : Json,
      (Json.ofFields [("index", idx), ("data", data), ("meta", reply)]).get (text "data") =
        some data ∧
      (Json.ofFields [("index", idx), ("data", data), ("meta", reply)]).get (text "meta") =
        some reply := by
    intro idx data reply
    simp [Json.ofFields, Json.get, JsonMap.ofFields, text]
  unfold batchReport
  rw [hreports]
  simp only [Option.bind_eq_bind, Option.bind_some, Json.asArray, List.getElem?_map,
    List.getElem?_zipIdx]
  cases pages[index]? with
  | none => rfl
  | some page => simp [(hfields _ _ _).1, (hfields _ _ _).2]

theorem batchRunReports_eq (server : ReportServer) (args : BatchRunReportsArgs) (index : Nat) :
    ((Tools.batchRunReports server args).toOption.bind fun reply => batchReport reply.1 index) =
      ((batchRunReportsPages server args).toOption.bind fun pages => pages.2[index]?).map
        fun page => batchItemReply page index := by
  unfold Tools.batchRunReports
  cases batchRunReportsPages server args with
  | error err => rfl
  | ok pages => exact batchReport_reports pages.2 index

theorem toOption_map_reply {α : Type} (x : Except AnalyticsError α) {reply : α → Json × Json}
    {wrap : α → CallPage} {write : CallPage → Json × Json}
    (h : ∀ page, reply page = write (wrap page)) :
    (x.map reply).toOption = (x.toOption.map wrap).map write := by
  cases x with
  | error err => rfl
  | ok page => exact congrArg some (h page)

theorem reply_eq (server : AnalyticsMcp) (call : PagedCall) :
    call.reply server = (call.page server).map call.write := by
  cases call with
  | batchRunReports args index =>
      rw [reply, batchRunReports_eq, page]
      cases (batchRunReportsPages server.toReportServer args).toOption with
      | none => rfl
      | some pages =>
          rw [Option.bind_some, Option.bind_some, Option.map_map]
          rfl
  | runReport args => exact toOption_map_reply _ fun _ => rfl
  | runPropertyAccessReport args => exact toOption_map_reply _ fun _ => rfl
  | runAccountAccessReport args => exact toOption_map_reply _ fun _ => rfl
  | runConversionsReport args => exact toOption_map_reply _ fun _ => rfl
  | runPivotReport args => exact toOption_map_reply _ fun _ => rfl
  | scratchpadQuery query => exact toOption_map_reply _ fun _ => rfl

/-- Which emitter wrote a page. -/
theorem write_cases {server : AnalyticsMcp} {call : PagedCall} {page : CallPage}
    (h : call.page server = some page) :
    (∃ p, page = .report p ∧
      (call.write page = reportReply p ∨ ∃ index, call.write page = batchItemReply p index)) ∨
    ∃ query p, page = .scratchpad p ∧ call.write page = scratchpadReply query p := by
  cases call with
  | batchRunReports args index =>
      obtain ⟨pages, -, hmap⟩ := Option.bind_eq_some_iff.mp h
      obtain ⟨p, -, rfl⟩ := Option.map_eq_some_iff.mp hmap
      exact .inl ⟨p, rfl, .inr ⟨index, rfl⟩⟩
  | scratchpadQuery query =>
      obtain ⟨p, -, rfl⟩ := Option.map_eq_some_iff.mp h
      exact .inr ⟨query, p, rfl, rfl⟩
  | runReport args | runPropertyAccessReport args | runAccountAccessReport args
  | runConversionsReport args | runPivotReport args =>
      obtain ⟨p, -, rfl⟩ := Option.map_eq_some_iff.mp h
      exact .inl ⟨p, rfl, .inl rfl⟩

/-- The cursor of a reply, in both emitters. -/
theorem nextCursor_write {server : AnalyticsMcp} {call : PagedCall} {page : CallPage}
    (h : call.page server = some page) :
    nextCursor (call.write page).2 =
      if page.Continues then some (encodeCursor page.queryHash page.nextOffset) else none := by
  have hmade := (page_facts h).wellMade
  rcases write_cases h with ⟨p, rfl, hwrite | ⟨index, hwrite⟩⟩ | ⟨query, p, rfl, hwrite⟩
  · rw [hwrite]
    exact nextCursor_gaProjection p.projection p.options hmade
  · rw [hwrite, batchItemReply, nextCursor, get_insertField (by decide), ← nextCursor]
    exact nextCursor_gaProjection p.projection p.options hmade
  · rw [hwrite]
    exact nextCursor_scratchpadReply query p

/-- The continuation hint of a reply, in both emitters. -/
theorem continuationHint_mem_write {server : AnalyticsMcp} {call : PagedCall} {page : CallPage}
    (h : call.page server = some page) :
    continuationHint ∈ queryHints (call.write page).2 ↔ page.rows.length < page.rowCountTotal := by
  have hmade := (page_facts h).wellMade
  have hreport : ∀ p : ReportPage, p.options.supportsPagination = true →
      (continuationHint ∈ queryHints (reportReply p).2 ↔
        p.projection.rows.length < p.projection.rowCountTotal) := by
    intro p hp
    rw [reportReply, queryHints_gaProjection p.projection p.options hp]
    split
    · next hmore => exact iff_of_true (List.mem_singleton.mpr rfl) hmore
    · next hmore => exact iff_of_false List.not_mem_nil hmore
  rcases write_cases h with ⟨p, rfl, hwrite | ⟨index, hwrite⟩⟩ | ⟨query, p, rfl, hwrite⟩
  · rw [hwrite]
    exact hreport p hmade
  · rw [hwrite, batchItemReply, queryHints, get_insertField (by decide), ← queryHints]
    exact hreport p hmade
  · rw [hwrite]
    exact continuationHint_mem_scratchpadReply query p hmade

/-- What a reply shows for rows: nothing, or the rows in the mode of the arguments. -/
def shownData (call : PagedCall) (columns : List ColumnMeta) (rows : List JsonMap) : Json :=
  if call.controls.summaryOnly then .null
  else payloadByMode (shownRows rows call.controls.maxCellChars) columns
    (call.controls.outputMode.getD .rows)

theorem data_write {server : AnalyticsMcp} {call : PagedCall} {page : CallPage}
    (h : call.page server = some page) :
    (call.write page).1 = call.shownData page.columns page.rows := by
  have hfollows := (page_facts h).follows
  have hreport : ∀ p : ReportPage, (CallPage.report p).Follows call.controls →
      (reportReply p).1 = call.shownData p.projection.columns p.projection.rows := by
    rintro p ⟨hmode, hsummary, hclip⟩
    rw [reportReply, gaProjection_data, hmode, hsummary, hclip]
    rfl
  cases call with
  | batchRunReports args index =>
      obtain ⟨pages, -, hmap⟩ := Option.bind_eq_some_iff.mp h
      obtain ⟨p, -, rfl⟩ := Option.map_eq_some_iff.mp hmap
      exact hreport p hfollows
  | scratchpadQuery query =>
      obtain ⟨p, -, rfl⟩ := Option.map_eq_some_iff.mp h
      exact scratchpadReply_data query p
  | runReport args | runPropertyAccessReport args | runAccountAccessReport args
  | runConversionsReport args | runPivotReport args =>
      obtain ⟨p, -, rfl⟩ := Option.map_eq_some_iff.mp h
      exact hreport p hfollows

theorem rowCountReturned_write {server : AnalyticsMcp} {call : PagedCall} {page : CallPage}
    (h : call.page server = some page) (hfits : page.rows.length ≤ usizeMax) :
    rowCountReturned (call.write page).2 = some page.rows.length := by
  have hmade := (page_facts h).wellMade
  rcases write_cases h with ⟨p, rfl, hwrite | ⟨index, hwrite⟩⟩ | ⟨query, p, rfl, hwrite⟩
  · rw [hwrite]
    exact rowCountReturned_gaProjection p.projection p.options hmade hfits
  · rw [hwrite, batchItemReply, rowCountReturned, get_insertField (by decide), ← rowCountReturned]
    exact rowCountReturned_gaProjection p.projection p.options hmade hfits
  · rw [hwrite]
    exact rowCountReturned_scratchpadReply query p hfits

/-! ## The same query with a cursor -/

/-- A cursor changes nothing about the query. -/
theorem windowArgs_withCursor {server : AnalyticsMcp} {call : PagedCall} {args : WindowArgs}
    (h : call.windowArgs server = .ok args) (cursor : Text) :
    (call.withCursor cursor).windowArgs server =
      .ok { args with cursor := some cursor, requestedOffset := none } := by
  have hreport : ∀ (hash : Except AnalyticsError Text) (cursor' : Option Text)
      (offset maxRows limit : Option Nat),
      (do
        let queryHash ← hash
        return (⟨queryHash, cursor', offset, maxRows, limit⟩ : WindowArgs)) = .ok args →
      (do
        let queryHash ← hash
        return (⟨queryHash, some cursor, none, maxRows, limit⟩ : WindowArgs)) =
          Except.ok { args with cursor := some cursor, requestedOffset := none } := by
    intro hash cursor' offset maxRows limit h
    obtain ⟨queryHash, hhash, h⟩ := bind_eq_ok.mp h
    rw [hhash, ← pure_eq_ok.mp h]
    rfl
  cases call with
  | runReport args => exact hreport _ _ _ _ _ h
  | runPropertyAccessReport args => exact hreport _ _ _ _ _ h
  | runAccountAccessReport args => exact hreport _ _ _ _ _ h
  | runConversionsReport args => exact hreport _ _ _ _ _ h
  | runPivotReport args => exact hreport _ _ _ _ _ h
  | batchRunReports args index =>
      obtain ⟨property, hproperty, h⟩ := bind_eq_ok.mp h
      obtain ⟨item, hitem, h⟩ := bind_eq_ok.mp h
      rw [okOr_eq_ok] at hitem
      rw [← pure_eq_ok.mp h]
      refine bind_eq_ok.mpr ⟨property, hproperty, bind_eq_ok.mpr
        ⟨{ item with offset := none, cursor := some cursor }, ?_, rfl⟩⟩
      rw [okOr_eq_ok, List.getElem?_modify_eq, hitem]
      rfl
  | scratchpadQuery query =>
      cases h
      rfl

theorem shownData_withCursor (call : PagedCall) (cursor : Text) :
    (call.withCursor cursor).shownData = call.shownData := by
  have hcontrols : (call.withCursor cursor).controls.summaryOnly = call.controls.summaryOnly ∧
      (call.withCursor cursor).controls.outputMode = call.controls.outputMode ∧
        (call.withCursor cursor).controls.maxCellChars = call.controls.maxCellChars := by
    cases call with
    | batchRunReports args index =>
        unfold withCursor controls
        dsimp only
        rw [List.getElem?_modify_eq]
        cases args.requests[index]? with
        | none => exact ⟨rfl, rfl, rfl⟩
        | some item => exact ⟨rfl, rfl, rfl⟩
    | _ => exact ⟨rfl, rfl, rfl⟩
  obtain ⟨hsummary, hmode, hclip⟩ := hcontrols
  funext columns rows
  rw [shownData, shownData, hsummary, hmode, hclip]

end PagedCall

end Ga4Mcp.Tools
