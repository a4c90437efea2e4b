/-
  The window of a paginated call and its page, of `src/tools.rs`.

  * `prepared_sound`: what the checks of a call grant; `prepared_withCursor`: a cursor moves
    the window of a call and nothing else.
  * `exists_page`: over a fixed result, with an upstream or an engine that honours offset and
    limit, the page of a granted window is that window of the rows. A conversions report
    also needs room for the payload of the page (`payloadFits_of_page`).
-/
import Ga4Mcp.Tools.PagedCalls
import Ga4Mcp.Tools.PayloadSize
import Ga4Mcp.Tools.Upstream

namespace Ga4Mcp.Tools

open Ga4Mcp.Lib

/-- The query hash, the offset and the limit of a prepared report. -/
def windowOf (prepared : TabularResponseOptions × Nat) : Text × Nat × Nat :=
  (prepared.1.queryHash, prepared.1.cursorOffset, prepared.2)

/-- A fixed report, behind a part of the upstream that honours offset and limit. -/
def ServedBy (columns : List ColumnMeta) (rows : List JsonMap)
    (fetch : Nat → Nat → Except AnalyticsError Json) : Prop :=
  ∃ table : ReportTable, table.columns = columns ∧ table.projectedRows = rows ∧
    table.AnsweredBy fetch

namespace PagedCall

/-- The checks of a call, and the window they grant: query hash, offset and limit. -/
def prepared (server : AnalyticsMcp) : PagedCall → Except AnalyticsError (Text × Nat × Nat)
  | runReport args => (prepareRunReport server.toReportServer args).map windowOf
  | runPropertyAccessReport args =>
      (prepareAccessReport args (runPropertyAccessQueryHash server.hasher args)).map windowOf
  | runAccountAccessReport args =>
      (prepareAccessReport args (runAccountAccessQueryHash server.hasher args)).map windowOf
  | runConversionsReport args =>
      (prepareRunConversionsReport server.toReportServer args).map windowOf
  | runPivotReport args => (prepareRunPivotReport server.toReportServer args).map windowOf
  | batchRunReports args index => do
      let prepared ← prepareBatch server.toReportServer args
      let item ← okOr prepared.2[index]? (.internal (text "no such item"))
      return windowOf item
  | scratchpadQuery query => prepareScratchpadQuery server.hasher query

/-- The result behind a call is fixed, and the upstream or the engine honours offset and
    limit. The pivot tool gets the whole report. -/
def Serves (server : AnalyticsMcp) (columns : List ColumnMeta) (rows : List JsonMap) :
    PagedCall → Prop
  | runReport args => ServedBy columns rows (fetchRunReport server.toReportServer args)
  | runPropertyAccessReport args =>
      ServedBy columns rows (fetchPropertyAccessReport server.toReportServer args)
  | runAccountAccessReport args =>
      ServedBy columns rows (fetchAccountAccessReport server.toReportServer args)
  | runConversionsReport args =>
      ServedBy columns rows (fetchRunConversionsReport server.toReportServer args)
  | runPivotReport args =>
      ∃ table : ReportTable, table.columns = columns ∧ table.projectedRows = rows ∧
        ∃ response, fetchRunPivotReport server.toReportServer args = .ok response ∧
          table.HoldsRows table.rows response
  | batchRunReports args index =>
      -- the other reports of the batch may be any
      ∃ table : ReportTable, table.columns = columns ∧ table.projectedRows = rows ∧
        ∀ windows, windows.length = args.requests.length →
          (∀ window ∈ windows, window.1.cursorOffset ≤ maxReportLimit * 10 ∧
            window.2 ≤ maxTabularMaxRows) →
          ∃ response reports, fetchBatch server.toReportServer args windows = .ok response ∧
            (response.get (text "reports")).bind Json.asArray = some reports ∧
              reports.length = windows.length ∧
                ∀ window report, windows[index]? = some window → reports[index]? = some report →
                  table.AnswersWindow window.1.cursorOffset window.2 report
  | scratchpadQuery query =>
      ∃ conn table, runGuarded server.toScratchpadServer query.sessionId (Text.trim query.sql) .ok =
          .ok conn ∧
        EngineHolds conn (Text.trim query.sql) table ∧ projectResultSet table = .ok (columns, rows)

/-- The provider payload of the page at an offset keeps to its bound, which only the
    conversions report has. -/
def PayloadFits (limit offset : Nat) : PagedCall → Prop
  | runConversionsReport args =>
      Text.len (normalizedConversionsProviderBoundaryPayload args limit offset).render ≤
        maxProviderBoundaryJsonBytes
  | _ => True

end PagedCall

/-! ## The window of a call -/

/-- What the checks grant. -/
structure WindowSound (window : Text × Nat × Nat) : Prop where
  soundHash : SoundHash window.1
  offset_le : window.2.1 ≤ maxReportLimit * 10
  limit_pos : 0 < window.2.2
  limit_le : window.2.2 ≤ maxTabularMaxRows

section PrepareReport

variable {validated validated' : Except AnalyticsError Unit} {controls : TabularControls}
  {queryHash queryHash' : Except AnalyticsError Text} {requestedOffset requestedLimit : Option Nat}

theorem windowSound_of_prepared {prepared : TabularResponseOptions × Nat}
    (h : prepareReport validated controls queryHash requestedOffset requestedLimit = .ok prepared)
    (hsound : ∀ hash, queryHash = .ok hash → SoundHash hash)
    (hoffset : validated = .ok () → ∀ value ∈ requestedOffset, value ≤ maxReportLimit * 10) :
    WindowSound (windowOf prepared) := by
  obtain ⟨hvalidated, -, hhash, hresolved, hshape⟩ := prepareReport_eq_ok.mp h
  have hlimit : prepared.2 = resolvePageSize controls.maxRows requestedLimit :=
    congrArg Prod.snd hshape
  refine ⟨hsound _ hhash, resolveCursorOffset_le hresolved (hoffset hvalidated), ?_, ?_⟩
  · exact hlimit ▸ resolvePageSize_pos controls.maxRows requestedLimit
  · exact hlimit ▸ resolvePageSize_le controls.maxRows requestedLimit

/-- A cursor moves the window and leaves the rest as it is. -/
theorem prepareReport_withCursor {prepared : TabularResponseOptions × Nat}
    (h : prepareReport validated controls queryHash requestedOffset requestedLimit = .ok prepared)
    (hsound : SoundHash prepared.1.queryHash)
    (hvalidated : validated = .ok () → validated' = .ok ())
    (hhash : ∀ hash, queryHash = .ok hash → queryHash' = .ok hash) {offset : Nat}
    (hoffset : offset ≤ maxReportLimit * 10) :
    prepareReport validated'
        { controls with cursor := some (encodeCursor prepared.1.queryHash offset) } queryHash' none
        requestedLimit =
      .ok ({ prepared.1 with cursorOffset := offset }, prepared.2) := by
  obtain ⟨hvalid, hcontrols, hhash', -, hshape⟩ := prepareReport_eq_ok.mp h
  have hfits : offset ≤ usizeMax := by
    unfold usizeMax
    unfold maxReportLimit at hoffset
    omega
  refine prepareReport_eq_ok.mpr ⟨hvalidated hvalid,
    validateTabularControls_encodeCursor hcontrols _ _, hhash _ hhash', ?_, ?_⟩
  · rw [resolveCursorOffset_encodeCursor hsound hfits, if_pos hoffset]
  · rw [hshape]

end PrepareReport

theorem prepareBatchItem_sound {server : ReportServer} {property : Text}
    {item : BatchRunReportItemArgs} {index : Nat} {window : TabularResponseOptions × Nat}
    (h : prepareBatchItem server property item index = .ok window) :
    WindowSound (windowOf window) := by
  refine windowSound_of_prepared h (fun hash hhash => ?_)
    (fun hinputs => (validateReportInputs_ok hinputs).2)
  cases hhash
  exact stableQueryHash_sound _ _

/-- A batch with a cursor in one of its items. -/
theorem prepareBatch_withCursor {server : ReportServer} {args : BatchRunReportsArgs}
    {property : Text} {prepared : List (TabularResponseOptions × Nat)} {index : Nat}
    {window : TabularResponseOptions × Nat}
    (h : prepareBatch server args = .ok (property, prepared))
    (hwindow : prepared[index]? = some window) {offset : Nat}
    (hoffset : offset ≤ maxReportLimit * 10) :
    prepareBatch server { args with
      requests := args.requests.modify index fun item => { item with
        offset := none, cursor := some (encodeCursor window.1.queryHash offset) } } =
      .ok (property, prepared.set index ({ window.1 with cursorOffset := offset }, window.2)) := by
  obtain ⟨item, hitem, hprepared⟩ := prepareBatch_item h hwindow
  obtain ⟨hproperty, hitems⟩ := prepareBatch_getElem h
  obtain ⟨⟨⟩, hinputs, -⟩ := bind_eq_ok.mp h
  have hnew : prepareBatchItem server property { item with
      offset := none, cursor := some (encodeCursor window.1.queryHash offset) } index =
        .ok ({ window.1 with cursorOffset := offset }, window.2) :=
    prepareReport_withCursor hprepared (prepareBatchItem_sound hprepared).soundHash
      validateReportInputs_noOffset (fun _ hhash => hhash) hoffset
  refine bind_eq_ok.mpr ⟨(), ?_, bind_eq_ok.mpr ⟨property, hproperty, bind_eq_ok.mpr
    ⟨_, mapM_eq_ok.mpr (forall₂_modify hitems fun item' hitem' => ?_), rfl⟩⟩⟩
  · rw [validateBatchRunReportsInputs_eq_ok] at hinputs ⊢
    rwa [List.length_modify]
  · rw [hitem] at hitem'
    cases hitem'
    exact hnew

namespace PagedCall

variable {server : AnalyticsMcp} {call : PagedCall} {window : Text × Nat × Nat}

/-- The window of a report tool. -/
theorem prepared_report {validated : Except AnalyticsError Unit} {controls : TabularControls}
    {queryHash : Except AnalyticsError Text} {requestedOffset requestedLimit : Option Nat}
    (h : (prepareReport validated controls queryHash requestedOffset requestedLimit).map windowOf =
      .ok window)
    (hsound : ∀ hash, queryHash = .ok hash → SoundHash hash)
    (hoffset : validated = .ok () → ∀ value ∈ requestedOffset, value ≤ maxReportLimit * 10) :
    WindowSound window := by
  obtain ⟨prepared, hprepared, rfl⟩ := map_eq_ok.mp h
  exact windowSound_of_prepared hprepared hsound hoffset

theorem prepared_sound (h : call.prepared server = .ok window) : WindowSound window := by
  cases call with
  | runReport args =>
      exact prepared_report h (fun _ hhash => soundHash_of_signature _ hhash)
        fun hinputs => (validateReportInputs_ok hinputs).2
  | runPropertyAccessReport args =>
      exact prepared_report h (fun _ hhash => soundHash_of_signature _ hhash)
        fun hinputs => (validateReportInputs_ok hinputs).2
  | runAccountAccessReport args =>
      exact prepared_report h (fun _ hhash => soundHash_of_signature _ hhash)
        fun hinputs => (validateReportInputs_ok hinputs).2
  | runConversionsReport args =>
      refine prepared_report h (fun hash hhash => ?_) fun hinputs =>
        (validateReportInputs_ok (validateConversionsReportInputs_ok hinputs)).2
      obtain ⟨⟨⟩, -, hhash⟩ := bind_eq_ok.mp hhash
      exact soundHash_of_signature _ hhash
  | runPivotReport args =>
      exact prepared_report h (fun _ hhash => soundHash_of_signature _ hhash) fun _ => by simp
  | batchRunReports args index =>
      obtain ⟨⟨property, prepared⟩, hprepared, h⟩ := bind_eq_ok.mp h
      obtain ⟨item, hitem, h⟩ := bind_eq_ok.mp h
      rw [← pure_eq_ok.mp h]
      obtain ⟨request, -, hwindow⟩ := prepareBatch_item hprepared (okOr_eq_ok.mp hitem)
      exact prepareBatchItem_sound hwindow
  | scratchpadQuery query =>
      obtain ⟨-, -, hhash, hresolved, hlimit⟩ := prepareScratchpadQuery_eq_ok.mp h
      refine ⟨hhash ▸ stableQueryHash_sound _ _, resolveCursorOffset_le hresolved (by simp), ?_, ?_⟩
      · exact hlimit ▸ resolvePageSize_pos query.controls.maxRows none
      · exact hlimit ▸ resolvePageSize_le query.controls.maxRows none

theorem prepared_report_withCursor {validated validated' : Except AnalyticsError Unit}
    {controls : TabularControls} {queryHash queryHash' : Except AnalyticsError Text}
    {requestedOffset requestedLimit : Option Nat}
    (h : (prepareReport validated controls queryHash requestedOffset requestedLimit).map windowOf =
      .ok window)
    (hsound : WindowSound window) (hvalidated : validated = .ok () → validated' = .ok ())
    (hhash : ∀ hash, queryHash = .ok hash → queryHash' = .ok hash) {offset : Nat}
    (hoffset : offset ≤ maxReportLimit * 10) :
    (prepareReport validated' { controls with cursor := some (encodeCursor window.1 offset) }
      queryHash' none requestedLimit).map windowOf = .ok (window.1, offset, window.2.2) := by
  obtain ⟨prepared, hprepared, rfl⟩ := map_eq_ok.mp h
  exact map_eq_ok.mpr ⟨_, prepareReport_withCursor hprepared hsound.soundHash hvalidated hhash
    hoffset, rfl⟩

/-- **A call with a cursor** is granted the window at the offset of the cursor. -/
theorem prepared_withCursor (h : call.prepared server = .ok window) {offset : Nat}
    (hoffset : offset ≤ maxReportLimit * 10) :
    (call.withCursor (encodeCursor window.1 offset)).prepared server =
      .ok (window.1, offset, window.2.2) := by
  have hsound := prepared_sound h
  cases call with
  | runReport args =>
      exact prepared_report_withCursor h hsound validateReportInputs_noOffset
        (fun _ hhash => hhash) hoffset
  | runPropertyAccessReport args =>
      exact prepared_report_withCursor h hsound validateReportInputs_noOffset
        (fun _ hhash => hhash) hoffset
  | runAccountAccessReport args =>
      exact prepared_report_withCursor h hsound validateReportInputs_noOffset
        (fun _ hhash => hhash) hoffset
  | runConversionsReport args =>
      refine prepared_report_withCursor h hsound
        (fun hinputs => validateConversionsReportInputs_noOffset hinputs _) (fun hash hhash => ?_)
        hoffset
      -- the fallback window of a call with a cursor starts at zero
      obtain ⟨⟨⟩, hpayload, hhash⟩ := bind_eq_ok.mp hhash
      exact bind_eq_ok.mpr ⟨(), checkConversionsPayload_zero hpayload, hhash⟩
  | runPivotReport args =>
      exact prepared_report_withCursor h hsound (fun hinputs => hinputs) (fun _ hhash => hhash)
        hoffset
  | batchRunReports args index =>
      obtain ⟨⟨property, prepared⟩, hprepared, h⟩ := bind_eq_ok.mp h
      obtain ⟨item, hitem, h⟩ := bind_eq_ok.mp h
      rw [okOr_eq_ok] at hitem
      rw [← pure_eq_ok.mp h]
      refine bind_eq_ok.mpr ⟨_, prepareBatch_withCursor hprepared hitem hoffset, bind_eq_ok.mpr
        ⟨({ item.1 with cursorOffset := offset }, item.2), ?_, rfl⟩⟩
      have hlt := (List.getElem?_eq_some_iff.mp hitem).1
      rw [okOr_eq_ok, List.getElem?_set_self hlt]
  | scratchpadQuery query =>
      obtain ⟨hcontrols, hsql, hhash, -, hlimit⟩ := prepareScratchpadQuery_eq_ok.mp h
      have hfits : offset ≤ usizeMax := by
        unfold usizeMax
        unfold maxReportLimit at hoffset
        omega
      refine prepareScratchpadQuery_eq_ok.mpr ⟨validateTabularControls_encodeCursor hcontrols _ _,
        hsql, hhash, ?_, hlimit⟩
      dsimp only
      rw [resolveCursorOffset_encodeCursor hsound.soundHash hfits, if_pos hoffset]

end PagedCall

/-! ## The page of a call -/

/-- A page of a result, at a window. -/
structure CallPage.ShowsWindow (page : CallPage) (window : Text × Nat × Nat)
    (columns : List ColumnMeta) (rows : List JsonMap) : Prop where
  queryHash_eq : page.queryHash = window.1
  offset_eq : page.offset = window.2.1
  columns_eq : page.columns = columns
  rows_eq : page.rows = (rows.drop window.2.1).take window.2.2
  total_eq : page.rowCountTotal = rows.length

/-- A projection with the rows of a window. -/
structure ProjectsWindow (projection : GaTabularProjection) (offset limit : Nat)
    (columns : List ColumnMeta) (rows : List JsonMap) : Prop where
  columns_eq : projection.columns = columns
  rows_eq : projection.rows = (rows.drop offset).take limit
  total_eq : projection.rowCountTotal = rows.length

theorem reportPage_shows {prepared : Except AnalyticsError (TabularResponseOptions × Nat)}
    {project : Nat → Nat → Except AnalyticsError GaTabularProjection} {window : Text × Nat × Nat}
    {columns : List ColumnMeta} {rows : List JsonMap} (h : prepared.map windowOf = .ok window)
    (hproject : ∃ projection, project window.2.1 window.2.2 = .ok projection ∧
      ProjectsWindow projection window.2.1 window.2.2 columns rows) :
    ∃ page, (reportPage prepared project).toOption.map CallPage.report = some page ∧
      page.ShowsWindow window columns rows := by
  obtain ⟨⟨options, limit⟩, hprepared, rfl⟩ := map_eq_ok.mp h
  obtain ⟨projection, hprojection, hshows⟩ := hproject
  have hpage : reportPage prepared project = .ok ⟨projection, options⟩ :=
    reportPage_eq_ok.mpr ⟨limit, hprepared, hprojection⟩
  rw [hpage]
  exact ⟨_, rfl, rfl, rfl, hshows.columns_eq, hshows.rows_eq, hshows.total_eq⟩

/-- What an answer of the upstream is projected to. -/
theorem projectsWindow_of_answers {table : ReportTable} {offset limit : Nat} {response : Json}
    (h : table.AnswersWindow offset limit response)
    (hfits : table.projectedRows.length ≤ maxReportLimit * 10) (reportKind : Text) :
    ProjectsWindow (projectGaTabularResponse response reportKind) offset limit table.columns
      table.projectedRows := by
  have hlength : table.rows.length ≤ usizeMax := by
    rw [ReportTable.length_projectedRows] at hfits
    unfold usizeMax
    unfold maxReportLimit at hfits
    omega
  obtain ⟨hcolumns, hrows, htotal⟩ := h.projection hlength reportKind
  exact ⟨hcolumns, hrows, htotal⟩

namespace PagedCall

variable {server : AnalyticsMcp} {call : PagedCall} {window : Text × Nat × Nat}
  {columns : List ColumnMeta} {rows : List JsonMap}

theorem projects_of_servedBy {fetch : Nat → Nat → Except AnalyticsError Json}
    (h : ServedBy columns rows fetch) (hfits : rows.length ≤ maxReportLimit * 10)
    (hwindow : WindowSound window) (reportKind : Text) :
    ∃ projection, (do
      let data ← fetch window.2.1 window.2.2
      return projectGaTabularResponse data reportKind) = Except.ok projection ∧
        ProjectsWindow projection window.2.1 window.2.2 columns rows := by
  obtain ⟨table, rfl, rfl, hanswers⟩ := h
  obtain ⟨response, hfetch, hresponse⟩ := hanswers _ _ hwindow.offset_le hwindow.limit_le
  exact ⟨_, bind_eq_ok.mpr ⟨response, hfetch, rfl⟩,
    projectsWindow_of_answers hresponse hfits reportKind⟩

/-- **The page of a granted window** is that window of the rows. -/
theorem exists_page (hserves : call.Serves server columns rows)
    (hfits : rows.length ≤ maxReportLimit * 10) (h : call.prepared server = .ok window)
    (hpayload : call.PayloadFits window.2.2 window.2.1) :
    ∃ page, call.page server = some page ∧ page.ShowsWindow window columns rows := by
  have hwindow := prepared_sound h
  cases call with
  | runReport args =>
      refine reportPage_shows h ?_
      exact projects_of_servedBy hserves hfits hwindow (text "run_report")
  | runPropertyAccessReport args =>
      refine reportPage_shows h ?_
      exact projects_of_servedBy hserves hfits hwindow (text "run_property_access_report")
  | runAccountAccessReport args =>
      refine reportPage_shows h ?_
      exact projects_of_servedBy hserves hfits hwindow (text "run_account_access_report")
  | runConversionsReport args =>
      refine reportPage_shows h ?_
      obtain ⟨table, rfl, rfl, hanswers⟩ := hserves
      obtain ⟨response, hfetch, hresponse⟩ := hanswers _ _ hwindow.offset_le hwindow.limit_le
      have hprojects := projectsWindow_of_answers hresponse hfits (text "run_conversions_report")
      have hlength : table.rows.length ≤ usizeMax := by
        rw [ReportTable.length_projectedRows] at hfits
        unfold usizeMax
        unfold maxReportLimit at hfits
        omega
      refine ⟨_, bind_eq_ok.mpr ⟨(), checkConversionsPayload_eq_ok.mpr hpayload, bind_eq_ok.mpr
        ⟨response, hfetch, bind_eq_ok.mpr ⟨(), hresponse.shape hlength _, rfl⟩⟩⟩,
        hprojects.columns_eq, ?_, hprojects.total_eq⟩
      -- the local cap cuts nothing off
      rw [truncateRows, hprojects.rows_eq, List.take_take, Nat.min_self]
  | runPivotReport args =>
      obtain ⟨table, rfl, rfl, response, hfetch, hresponse⟩ := hserves
      obtain ⟨hcolumns, hrows⟩ := hresponse.projection (text "run_pivot_report")
      refine reportPage_shows h ?_
      refine ⟨_, bind_eq_ok.mpr ⟨response, hfetch, rfl⟩, hcolumns, ?_, ?_⟩
      · exact congrArg (fun rows => (rows.drop window.2.1).take window.2.2) hrows
      · exact congrArg List.length hrows
  | batchRunReports args index =>
      obtain ⟨table, rfl, rfl, hanswers⟩ := hserves
      obtain ⟨⟨property, prepared⟩, hprepared, h⟩ := bind_eq_ok.mp h
      obtain ⟨item, hitem, h⟩ := bind_eq_ok.mp h
      rw [okOr_eq_ok] at hitem
      obtain rfl := pure_eq_ok.mp h
      have hlength : prepared.length = args.requests.length := by
        rw [← (prepareBatch_getElem hprepared).2.length_eq, List.length_zipIdx]
      have hsound : ∀ window ∈ prepared, window.1.cursorOffset ≤ maxReportLimit * 10 ∧
          window.2 ≤ maxTabularMaxRows := by
        intro window hmem
        obtain ⟨i, hi⟩ := List.mem_iff_getElem?.mp hmem
        obtain ⟨request, -, hrequest⟩ := prepareBatch_item hprepared hi
        have hbounds := prepareBatchItem_sound hrequest
        exact ⟨hbounds.offset_le, hbounds.limit_le⟩
      obtain ⟨response, reports, hfetch, hreports, hcount, hreport⟩ :=
        hanswers prepared hlength hsound
      have hlt : index < reports.length := by
        rw [hcount]
        exact (List.getElem?_eq_some_iff.mp hitem).1
      have hget : reports[index]? = some reports[index] := List.getElem?_eq_getElem hlt
      have hprojects := projectsWindow_of_answers (hreport _ _ hitem hget) hfits
        (text "batch_run_reports")
      have hpages : batchRunReportsPages server.toReportServer args = .ok (property,
          List.zipWith (fun report prepared =>
            ⟨projectGaTabularResponse report (text "batch_run_reports"), prepared.1⟩)
            reports prepared) := by
        refine bind_eq_ok.mpr ⟨_, hprepared, bind_eq_ok.mpr ⟨response, hfetch, bind_eq_ok.mpr
          ⟨reports, okOr_eq_ok.mpr hreports, bind_eq_ok.mpr ⟨(), refuseIf_eq_ok.mpr ?_, rfl⟩⟩⟩⟩
        exact not_not_intro hcount
      refine ⟨.report ⟨projectGaTabularResponse reports[index] (text "batch_run_reports"), item.1⟩,
        ?_, rfl, rfl, hprojects.columns_eq, hprojects.rows_eq, hprojects.total_eq⟩
      rw [page, hpages]
      change Option.map CallPage.report (List.zipWith _ reports prepared)[index]? = _
      rw [List.getElem?_zipWith_eq_some.mpr ⟨_, _, hget, hitem, rfl⟩]
      rfl
  | scratchpadQuery query =>
      obtain ⟨conn, table, hconn, hholds, htable⟩ := hserves
      obtain ⟨projection, hprojection, hcolumns, hrows, htotal⟩ :=
        hholds.projection hconn htable hwindow.offset_le hwindow.limit_le
      have hpage : scratchpadQueryPage server.hasher server.toScratchpadServer query =
          .ok ⟨window.1, window.2.1, window.2.2, projection⟩ :=
        scratchpadQueryPage_eq_ok.mpr ⟨h, hprojection⟩
      refine ⟨.scratchpad ⟨window.1, window.2.1, window.2.2, projection⟩, ?_, rfl, rfl, hcolumns,
        hrows, htotal⟩
      rw [page, hpage]
      rfl

/-- A page needs room for its payload. -/
theorem payloadFits_of_page {page : CallPage} (hpage : call.page server = some page)
    (h : call.prepared server = .ok window) : call.PayloadFits window.2.2 window.2.1 := by
  cases call with
  | runConversionsReport args =>
      obtain ⟨p, hp, -⟩ := Option.map_eq_some_iff.mp hpage
      obtain ⟨limit, hprepared, hproject⟩ := reportPage_eq_ok.mp (toOption_eq_some.mp hp)
      obtain ⟨prepared, hprepared', rfl⟩ := map_eq_ok.mp h
      rw [hprepared] at hprepared'
      cases hprepared'
      obtain ⟨⟨⟩, hpayload, -⟩ := bind_eq_ok.mp hproject
      exact checkConversionsPayload_eq_ok.mp hpayload
  | _ => trivial

/-- A cursor does not change the result behind a call. -/
theorem serves_withCursor (h : call.Serves server columns rows) (cursor : Text) :
    (call.withCursor cursor).Serves server columns rows := by
  cases call with
  | batchRunReports args index =>
      obtain ⟨table, hcolumns, hrows, hanswers⟩ := h
      refine ⟨table, hcolumns, hrows, fun windows hlength hbounds => ?_⟩
      rw [List.length_modify] at hlength
      obtain ⟨response, reports, hfetch, hreports⟩ := hanswers windows hlength hbounds
      refine ⟨response, reports, ?_, hreports⟩
      rw [← hfetch]
      refine congrArg (fun requests => server.client.batchRunReports ⟨args.propertyId, requests⟩)
        (zipWith_modify (fun request window => ?_) index args.requests windows)
      rfl
  | _ => exact h

theorem payloadFits_withCursor (cursor : Text) (limit offset : Nat) :
    (call.withCursor cursor).PayloadFits limit offset ↔ call.PayloadFits limit offset := by
  cases call <;> exact Iff.rfl

end PagedCall

end Ga4Mcp.Tools
