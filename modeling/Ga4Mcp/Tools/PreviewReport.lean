/-
  `preview_report_request` of `src/tools.rs`: what `run_report` would ask for, without asking.

  * `previewReportRequest_predicts`: a preview is refused exactly as the report is; after one
    that is not, only the upstream can fail.
  * `post_eq_of_preview`: calls with the same preview send the same.
  * `targetNames_previewed`: the columns that a preview announces for a table are those that
    an ingest of the report makes.
-/
import Ga4Mcp.Tools.CursorIdentity
import Ga4Mcp.Tools.IngestCalls

namespace Ga4Mcp.Tools

open Ga4Mcp.Lib Ga4Mcp.Scratchpad

/-! ## The preview -/

/-- The columns that a preview assumes. -/
def previewReportColumns (dimensions metrics : List Text) : List ColumnMeta :=
  dimensions.map (fun dimension =>
    ((ColumnMeta.new dimension).withLogicalType (text "string")).withNullable true) ++
  metrics.map fun metric =>
    ((ColumnMeta.new metric).withLogicalType (text "number")).withNullable true

/-- A column in the preview. -/
def columnMetaToJson (column : ColumnMeta) : Json := .ofFields [
  ("name", .string column.name),
  ("logical_type", optionalText column.logicalType),
  ("nullable", .ofOption (column.nullable.map .bool))]

/-- The name of a transform. -/
def ingestTransformLabel : IngestValueTransform → Text
  | .identity => text "identity"
  | .parseGaDate => text "parse_ga_date"
  | .parseGaDateHour => text "parse_ga_date_hour"

/-- A mapping in the preview. -/
def IngestColumnMapping.toPreviewJson (mapping : IngestColumnMapping) : Json := .ofFields [
  ("source_name", .string mapping.sourceName),
  ("target_name", .string mapping.targetName),
  ("logical_type", .string mapping.logicalType),
  ("transform", .string (ingestTransformLabel mapping.transform))]

/-- The fields of `request_payload`. -/
def RunReportArgs.previewFields (args : RunReportArgs) (property : Text)
    (effectiveOffset effectiveLimit : Nat) : Signature :=
  [("property", .string property)] ++ args.toReportFields.signature ++
    [("limit", .ofNat effectiveLimit), ("offset", .ofNat effectiveOffset),
      ("currency_code", optionalText args.currencyCode),
      ("return_property_quota", .bool args.returnPropertyQuota)]

/-- What the preview says about the window. -/
def RunReportArgs.previewPagination (args : RunReportArgs)
    (effectiveOffset effectiveLimit : Nat) : Json := .ofFields [
  ("requested_limit", .ofOption (args.limit.map .ofNat)),
  ("requested_offset", .ofNat (args.offset.getD 0)),
  ("max_rows", .ofOption (args.maxRows.map .ofNat)),
  ("effective_limit", .ofNat effectiveLimit),
  ("effective_offset", .ofNat effectiveOffset),
  ("cursor_supplied", .bool args.cursor.isSome)]

/-- What the preview says about itself. -/
def previewHints : List Text := [
  text "preview_report_request does not execute an upstream GA API call",
  text ("use check_report_compatibility before large pulls to preflight dimension/metric " ++
    "compatibility")]

/-- The payload for a property. -/
def previewPayload (args : RunReportArgs) (property queryHash : Text)
    (effectiveOffset effectiveLimit : Nat) : Json :=
  let tabularColumns := previewReportColumns args.dimensions args.metrics
  .ofFields [
    ("preview", .ofFields [
      ("tool", .string (text "run_report")),
      ("query_hash", .string queryHash),
      ("request",
        .sortObject (.ofFields (args.previewFields property effectiveOffset effectiveLimit))),
      ("pagination", args.previewPagination effectiveOffset effectiveLimit)]),
    ("projection", .ofFields [
      ("tabular_columns", .array (tabularColumns.map columnMetaToJson)),
      ("ingest_columns", .array ((buildIngestColumnMappings tabularColumns).map
        IngestColumnMapping.toPreviewJson))]),
    ("hints", .ofTexts previewHints)]

/-- The preview of a report. -/
def buildRunReportPreviewPayload (args : RunReportArgs) (queryHash : Text)
    (effectiveOffset effectiveLimit : Nat) : Except AnalyticsError Json := do
  let property ← propertyResourceName args.propertyId
  return previewPayload args property queryHash effectiveOffset effectiveLimit

section Handler

variable (server : ReportServer) (args : RunReportArgs)

def previewReportRequest : Except AnalyticsError Json := do
  validateReportInputs args.toReportFields args.limit args.offset
  validateTabularControls args.maxRows args.maxCellChars args.cursor
  let queryHash ← runReportQueryHash server.hasher args
  let (effectiveOffset, effectiveLimit) ←
    resolveCursorWindow queryHash args.cursor args.offset args.maxRows args.limit
  buildRunReportPreviewPayload args queryHash effectiveOffset effectiveLimit

/-- What `run_report` sends. -/
def runReportPost : Except AnalyticsError Post := do
  let prepared ← prepareRunReport server args
  (ReportCall.report args).post server.client prepared.1.cursorOffset prepared.2

/-! ## The report that is previewed -/

/-- The two handlers check the same, in the same order. -/
theorem previewReportRequest_eq :
    previewReportRequest server args = (prepareRunReport server args).bind fun prepared =>
      buildRunReportPreviewPayload args prepared.1.queryHash prepared.1.cursorOffset prepared.2 := by
  rw [previewReportRequest, prepareRunReport, prepareReport]
  cases validateReportInputs args.toReportFields args.limit args.offset with
  | error err => rfl
  | ok u =>
      cases validateTabularControls args.maxRows args.maxCellChars args.cursor with
      | error err => rfl
      | ok u =>
          cases hhash : runReportQueryHash server.hasher args with
          | error err => rfl
          | ok queryHash =>
              change (resolveCursorWindow _ _ _ _ _).bind _ =
                ((resolveCursorWindow _ _ _ _ _).bind _).bind _
              cases resolveCursorWindow queryHash args.cursor args.offset args.maxRows
                args.limit <;> rfl

/-- The property of a call whose checks pass. -/
theorem property_of_prepared {prepared : TabularResponseOptions × Nat}
    (h : prepareRunReport server args = .ok prepared) :
    ∃ property, propertyResourceName args.propertyId = .ok property := by
  obtain ⟨-, -, hhash, -⟩ := prepareReport_eq_ok.mp h
  obtain ⟨property, hproperty, -⟩ := bind_eq_ok.mp hhash
  exact ⟨property, hproperty⟩

/-- What the upstream makes of a call. -/
def runReportReply (options : TabularResponseOptions) (data : Json) : Json × Json :=
  reportReply ⟨projectGaTabularResponse data (text "run_report"), options⟩

/-- **A preview is refused** exactly as the report is, with the same error. After a preview that
    is not, `run_report` sends its post and shows what comes back. -/
theorem previewReportRequest_predicts :
    match previewReportRequest server args with
    | .error err => runReport server args = .error err
    | .ok _ => ∃ post options, runReportPost server args = .ok post ∧
        runReport server args = (post.send server.client).map (runReportReply options) := by
  rw [previewReportRequest_eq, runReport, runReportPage, reportPage, runReportPost]
  cases hprepared : prepareRunReport server args with
  | error err => rfl
  | ok prepared =>
      obtain ⟨property, hproperty⟩ := property_of_prepared server args hprepared
      have hpreview : ∀ queryHash offset limit,
          buildRunReportPreviewPayload args queryHash offset limit =
            .ok (previewPayload args property queryHash offset limit) := by
        intro queryHash offset limit
        rw [buildRunReportPreviewPayload, hproperty]
        rfl
      have hpost : ∃ post, (ReportCall.report args).post server.client prepared.1.cursorOffset
          prepared.2 = .ok post := by
        rw [ReportCall.post, hproperty]
        exact ⟨_, rfl⟩
      obtain ⟨post, hpost⟩ := hpost
      rw [Except.bind, hpreview]
      refine ⟨post, prepared.1, hpost, ?_⟩
      change Except.map reportReply (((fetchRunReport server args _ _).bind _).bind _) = _
      rw [fetchRunReport_eq, hpost]
      change Except.map reportReply (((post.send server.client).bind _).bind _) = _
      cases post.send server.client <;> rfl

end Handler

/-! ## Calls with the same preview -/

theorem RunReportArgs.previewFields_nodup (args : RunReportArgs) (property : Text)
    (effectiveOffset effectiveLimit : Nat) :
    ((args.previewFields property effectiveOffset effectiveLimit).map Prod.fst).Nodup := by
  simp [previewFields, ReportFields.signature]

theorem RunReportArgs.previewFields_valid {parse : Text → Except Text Json} {args : RunReportArgs}
    (h : args.toReportFields.Received parse) (property : Text)
    (effectiveOffset effectiveLimit : Nat) :
    (Json.ofFields (args.previewFields property effectiveOffset effectiveLimit)).Valid := by
  refine Json.valid_ofFields ?_
  simp only [previewFields, List.forall_mem_append, List.forall_mem_cons]
  exact ⟨⟨⟨trivial, by simp⟩, ReportFields.signature_valid h _ _⟩, trivial, trivial,
    Json.valid_optionalText _, trivial, by simp⟩

/-- The request in a preview. -/
def previewedRequest (preview : Json) : Option Json :=
  (preview.get (text "preview")).bind fun preview => preview.get (text "request")

theorem previewedRequest_payload (args : RunReportArgs) (property queryHash : Text)
    (offset limit : Nat) : previewedRequest (previewPayload args property queryHash offset limit) =
      some (.sortObject (.ofFields (args.previewFields property offset limit))) := by
  rw [previewedRequest, previewPayload, Json.get_ofFields (by simp) (.head _), Option.bind_some,
    Json.get_ofFields (by simp) (.tail _ (.tail _ (.head _)))]

/-- And a request tells what is asked for. -/
theorem RunReportArgs.previewFields_inj {parse : Text → Except Text Json}
    {args args' : RunReportArgs} (h : args.toReportFields.Received parse)
    (h' : args'.toReportFields.Received parse) {property property' : Text}
    {offset limit offset' limit' : Nat}
    (heq : Json.ofFields (args.previewFields property offset limit) =
      Json.ofFields (args'.previewFields property' offset' limit')) :
    property = property' ∧ args.toBatchRunReportItemArgs.toRequest offset limit =
      args'.toBatchRunReportItemArgs.toRequest offset' limit' := by
  have hall : args.previewFields property offset limit =
      args'.previewFields property' offset' limit' :=
    Json.ofFields_inj rfl (args.previewFields_nodup _ _ _) heq
  obtain ⟨hfirst, hfields, hlast⟩ := signature_parts hall rfl
  simp only [List.cons.injEq, Prod.mk.injEq, true_and, and_true, Json.string.injEq,
    Json.bool.injEq, Json.ofNat, Json.number.injEq, JsonNumber.posInt.injEq] at hfirst hlast
  obtain ⟨rfl, rfl, hcurrency, hquota⟩ := hlast
  refine ⟨hfirst, ?_⟩
  simp only [BatchRunReportItemArgs.toRequest, ReportFields.signature_inj h h' hfields,
    optionalText_injective hcurrency, hquota]

/-- **Calls with the same preview** send the same post, window included. -/
theorem post_eq_of_preview {parse : Text → Except Text Json} {server : ReportServer}
    {args args' : RunReportArgs} (h : args.toReportFields.Received parse)
    (h' : args'.toReportFields.Received parse) {preview : Json}
    (hpreview : previewReportRequest server args = .ok preview)
    (hpreview' : previewReportRequest server args' = .ok preview) :
    ∃ post, runReportPost server args = .ok post ∧ runReportPost server args' = .ok post := by
  have hread : ∀ {args : RunReportArgs}, previewReportRequest server args = .ok preview →
      ∃ prepared property, prepareRunReport server args = .ok prepared ∧
        propertyResourceName args.propertyId = .ok property ∧
        previewPayload args property prepared.1.queryHash prepared.1.cursorOffset prepared.2 =
          preview := by
    intro args hpreview
    rw [previewReportRequest_eq] at hpreview
    obtain ⟨prepared, hprepared, hpreview⟩ := bind_eq_ok.mp hpreview
    obtain ⟨property, hproperty, hpreview⟩ := bind_eq_ok.mp hpreview
    exact ⟨prepared, property, hprepared, hproperty, pure_eq_ok.mp hpreview⟩
  obtain ⟨prepared, property, hprepared, hproperty, hpayload⟩ := hread hpreview
  obtain ⟨prepared', property', hprepared', hproperty', hpayload'⟩ := hread hpreview'
  -- the payloads also show the cursor; the requests in them are all that counts
  have hrequest := congrArg previewedRequest (hpayload.trans hpayload'.symm)
  rw [previewedRequest_payload, previewedRequest_payload, Option.some.injEq,
    Json.sortObject_of_valid _ (RunReportArgs.previewFields_valid h _ _ _),
    Json.sortObject_of_valid _ (RunReportArgs.previewFields_valid h' _ _ _)] at hrequest
  obtain ⟨rfl, hcall⟩ := RunReportArgs.previewFields_inj h h' hrequest
  rw [runReportPost, runReportPost, hprepared, hprepared']
  change ∃ post, (ReportCall.report args).post _ _ _ = .ok post ∧
    (ReportCall.report args').post _ _ _ = .ok post
  rw [ReportCall.post, ReportCall.post, hproperty, hproperty', hcall]
  exact ⟨_, rfl, rfl⟩

theorem pagedReport_received : pagedReport.toReportFields.Received .error where
  dateRanges := by
    intro value hvalue
    obtain rfl := List.mem_singleton.mp hvalue
    exact Json.valid_ofFields (by simp [Json.Valid])
  dimensionFilter := ⟨none, rfl⟩
  metricFilter := ⟨none, rfl⟩
  validDimensionFilter := by simp [pagedReport, conversionsReport]
  validMetricFilter := by simp [pagedReport, conversionsReport]
  orderBys := by simp [pagedReport, conversionsReport]

theorem previewed_pagedReport (table : ReportTable) :
    ∃ preview, previewReportRequest (windowServer table).toReportServer pagedReport =
      .ok preview :=
  ⟨_, rfl⟩

/-- A summary of a report has the preview of the report, and sends what it sends. -/
theorem post_eq_of_preview_summary :
    ∃ post, runReportPost (windowServer (numberedReport 7)).toReportServer pagedReport = .ok post ∧
      runReportPost (windowServer (numberedReport 7)).toReportServer
        { pagedReport with summaryOnly := true } = .ok post := by
  obtain ⟨preview, hpreview⟩ := previewed_pagedReport (numberedReport 7)
  exact post_eq_of_preview pagedReport_received pagedReport_received hpreview hpreview

/-! ## The columns of a table -/

/-- Trimming takes no character of a kind that no blank is of. -/
theorem filter_trim {p : Char → Bool} (hp : ∀ c, Text.isWhitespace c = true → p c = false)
    (t : Text) : (Text.trim t).filter p = t.filter p := by
  have hdrop : ∀ t : Text, (t.dropWhile Text.isWhitespace).filter p = t.filter p := by
    intro t
    induction t with
    | nil => rfl
    | cons c t ih =>
        by_cases hc : Text.isWhitespace c = true
        · rw [List.dropWhile_cons_of_pos hc, ih, List.filter_cons_of_neg (by simp [hp c hc])]
        · rw [List.dropWhile_cons_of_neg hc]
  rw [Text.trim, Text.trimEnd, List.rdropWhile, List.filter_reverse, hdrop, List.filter_reverse,
    List.reverse_reverse, Text.trimStart, hdrop]

theorem temporalMappingForSourceName_trim (t : Text) :
    temporalMappingForSourceName (Text.trim t) = temporalMappingForSourceName t := by
  rw [temporalMappingForSourceName, temporalMappingForSourceName, filter_trim]
  intro c hblank
  rw [← Bool.not_eq_true]
  intro halnum
  rw [Text.not_isWhitespace_of_isAlphanum halnum] at hblank
  cases hblank

theorem normalizeSqlIdentifier_trim (t fallback : Text) :
    normalizeSqlIdentifier (Text.trim t) fallback = normalizeSqlIdentifier t fallback := by
  rw [normalizeSqlIdentifier, normalizeSqlIdentifier, Text.trim_trim]

/-- The bases of the targets come from the trimmed names alone. -/
theorem ingestBases_congr {columns columns' : List ColumnMeta}
    (h : columns.map (Text.trim ∘ ColumnMeta.name) = columns'.map (Text.trim ∘ ColumnMeta.name))
    (index : Nat) :
    ingestBases (columns.zipIdx index) = ingestBases (columns'.zipIdx index) := by
  induction columns generalizing columns' index with
  | nil =>
      rw [List.map_nil, eq_comm, List.map_eq_nil_iff] at h
      rw [h]
  | cons column columns ih =>
      cases columns' with
      | nil => cases h
      | cons column' columns' =>
          rw [List.map_cons, List.map_cons, List.cons.injEq] at h
          obtain ⟨hname, hrest⟩ := h
          have hbase : ∀ fallback, normalizeSqlIdentifier column.name fallback =
              normalizeSqlIdentifier column'.name fallback := by
            intro fallback
            rw [← normalizeSqlIdentifier_trim, ← normalizeSqlIdentifier_trim column'.name]
            exact congrArg (normalizeSqlIdentifier · fallback) hname
          have hderived : temporalMappingForSourceName column.name =
              temporalMappingForSourceName column'.name := by
            rw [← temporalMappingForSourceName_trim, ← temporalMappingForSourceName_trim column'.name]
            exact congrArg temporalMappingForSourceName hname
          have hih := ih hrest (index + 1)
          unfold ingestBases at hih ⊢
          rw [List.zipIdx_cons, List.zipIdx_cons, List.flatMap_cons, List.flatMap_cons, hih]
          dsimp only
          rw [hbase, hderived]

theorem targets_congr {columns columns' : List ColumnMeta}
    (h : columns.map (Text.trim ∘ ColumnMeta.name) = columns'.map (Text.trim ∘ ColumnMeta.name)) :
    (buildIngestColumnMappings columns).map IngestColumnMapping.targetName =
      (buildIngestColumnMappings columns').map IngestColumnMapping.targetName := by
  rw [buildIngestColumnMappings, buildIngestColumnMappings, ingestMappingsFrom_targets,
    ingestMappingsFrom_targets, ingestBases_congr h]

theorem map_name_previewReportColumns (dimensions metrics : List Text) :
    (previewReportColumns dimensions metrics).map ColumnMeta.name = dimensions ++ metrics := by
  rw [previewReportColumns, List.map_append, List.map_map, List.map_map]
  exact congrArg₂ _ (List.map_id _) (List.map_id _)

/-- The target names in a list of columns, of a preview or of the reply of an ingest. -/
def targetNames (columns : Option Json) : List Text :=
  ((columns.bind Json.asArray).getD []).filterMap fun column =>
    (column.get (text "target_name")).bind Json.asStr

theorem targetNames_array {mappings : List IngestColumnMapping} {toJson : IngestColumnMapping → Json}
    (h : ∀ mapping, (toJson mapping).get (text "target_name") = some (.string mapping.targetName)) :
    targetNames (some (.array (mappings.map toJson))) =
      mappings.map IngestColumnMapping.targetName := by
  have hread : (fun column : Json => (column.get (text "target_name")).bind Json.asStr) ∘ toJson =
      some ∘ IngestColumnMapping.targetName := by
    funext mapping
    rw [Function.comp_apply, h]
    rfl
  rw [targetNames, Option.bind_some, Json.asArray, Option.getD_some, List.filterMap_map, hread,
    List.filterMap_eq_map]

/-- The columns that a preview announces for a table. -/
def previewedColumns (preview : Json) : Option Json :=
  (preview.get (text "projection")).bind fun projection => projection.get (text "ingest_columns")

theorem targetNames_preview (args : RunReportArgs) (property queryHash : Text)
    (offset limit : Nat) :
    targetNames (previewedColumns (previewPayload args property queryHash offset limit)) =
      (buildIngestColumnMappings (previewReportColumns args.dimensions args.metrics)).map
        IngestColumnMapping.targetName := by
  have hcolumns : previewedColumns (previewPayload args property queryHash offset limit) =
      some (.array ((buildIngestColumnMappings (previewReportColumns args.dimensions args.metrics)
        ).map IngestColumnMapping.toPreviewJson)) := by
    rw [previewedColumns, previewPayload, Json.get_ofFields (by simp) (.tail _ (.head _)),
      Option.bind_some, Json.get_ofFields (by simp) (.tail _ (.head _))]
  rw [hcolumns]
  exact targetNames_array fun mapping => Json.get_ofFields (by simp) (.tail _ (.head _))

section Ingested

variable {side : IngestSide} {s : Store BoundRow}

/-- The reply of an ingest is about the columns that it has collected, and they are apart. -/
theorem ingestProjected_reply {destination : Except AnalyticsError IngestDestination}
    {collected : Except AnalyticsError (GaTabularProjection × IngestPaginationStats)}
    (hname : ∀ destination', destination = .ok destination' →
      IsIdentifier destination'.normalizedTableName) {reply : Json}
    (h : (ingestProjected side s destination collected).2 = .ok reply) :
    ∃ destination' projection pagination stats, destination = .ok destination' ∧
      collected = .ok (projection, pagination) ∧ TargetsApart projection.columns ∧
      reply = ingestReply destination' projection pagination stats := by
  unfold ingestProjected at h
  split at h
  · cases h
  · cases h
  · next destination' projection pagination =>
      unfold ingestProjectionIntoScratchpad at h
      split at h
      · cases h
      · obtain ⟨stats, hstats, hreply⟩ := map_eq_ok.mp h
        have hapart : TargetsApart projection.columns := by
          unfold ingestRowsWithMode at hstats
          split at hstats
          · cases hstats
          · next id harguments =>
              exact ((call_arguments_eq_ok (hname _ rfl)).mp harguments).2.2
        exact ⟨destination', projection, pagination, stats, rfl, rfl, hapart, hreply.symm⟩

/-- In each answer the upstream names the columns as it was asked for them. -/
def NamesAsAsked (server : ReportServer) (report : RunReportArgs) : Prop :=
  ColumnsAre (fun columns => columns.map ColumnMeta.name =
    (report.dimensions ++ report.metrics).map Text.trim) (fetchRunReport server report)

/-- **The columns that a preview announces** are those of the table that an ingest of the report
    makes, if the upstream names what it is asked for; and names that clash in the preview
    refuse the ingest. -/
theorem targetNames_previewed {server : ReportServer} {args : ScratchpadIngestReportArgs}
    {preview reply : Json} (hpreview : previewReportRequest server args.report = .ok preview)
    (hnames : NamesAsAsked server args.report)
    (hreply : (scratchpadIngestReport side s server args).2 = .ok reply) :
    targetNames (reply.get (text "column_mapping")) = targetNames (previewedColumns preview) ∧
      (targetNames (previewedColumns preview)).Nodup := by
  obtain ⟨destination, projection, pagination, stats, hdestination, hcollected, hapart, rfl⟩ :=
    ingestProjected_reply (fun _ h => (args.destination_ok _ h).1) hreply
  obtain ⟨⟨⟩, haccepted, -⟩ := bind_eq_ok.mp hdestination
  have hcolumns := collectRunReport_columns haccepted hnames hcollected
  rw [previewReportRequest_eq] at hpreview
  obtain ⟨prepared, -, hpreview⟩ := bind_eq_ok.mp hpreview
  obtain ⟨property, -, hpreview⟩ := bind_eq_ok.mp hpreview
  rw [← pure_eq_ok.mp hpreview, targetNames_preview]
  -- targets come from trimmed names, and the request had trimmed them
  have hsame : (buildIngestColumnMappings projection.columns).map IngestColumnMapping.targetName =
      (buildIngestColumnMappings (previewReportColumns args.report.dimensions
        args.report.metrics)).map IngestColumnMapping.targetName := by
    refine targets_congr ?_
    rw [← List.map_map, hcolumns, ← List.map_map, map_name_previewReportColumns, List.map_map]
    exact List.map_congr_left fun t _ => Text.trim_trim t
  have hmapping : (ingestReply destination projection pagination stats).get
      (text "column_mapping") = some (.array ((buildIngestColumnMappings projection.columns).map
        fun mapping => .ofFields [
          ("source_name", .string mapping.sourceName),
          ("target_name", .string mapping.targetName),
          ("logical_type", .string mapping.logicalType)])) := by
    rw [ingestReply]
    exact Json.get_ofFields (by simp) (.tail _ (.tail _ (.tail _ (.tail _ (.tail _ (.head _))))))
  refine ⟨?_, hsame ▸ (nodup_targets_iff _).mpr hapart⟩
  rw [hmapping, ← hsame]
  exact targetNames_array fun mapping => Json.get_ofFields (by simp) (.tail _ (.head _))

end Ingested

/-- The columns of the countries. -/
theorem targetNames_previewed_countries : ∃ preview reply,
    previewReportRequest (windowServer (numberedReport 7)).toReportServer countries.report =
      .ok preview ∧
    (scratchpadIngestReport fineSide openStore (windowServer (numberedReport 7)).toReportServer
      countries).2 = .ok reply ∧
    targetNames (reply.get (text "column_mapping")) = targetNames (previewedColumns preview) := by
  obtain ⟨preview, hpreview⟩ := previewed_pagedReport (numberedReport 7)
  have hsome : (scratchpadIngestReport fineSide openStore
      (windowServer (numberedReport 7)).toReportServer countries).2.toOption.isSome = true := by
    decide +kernel
  obtain ⟨reply, hreply⟩ := Option.isSome_iff_exists.mp hsome
  have hreply := toOption_eq_some.mp hreply
  have hnames : NamesAsAsked (windowServer (numberedReport 7)).toReportServer countries.report := by
    intro offset hoffset limit hlimit data hfetch
    rw [(honouredBy_windowServer (numberedReport 7)).columnsAre (by decide) offset hoffset limit
      hlimit data hfetch]
    decide +kernel
  have hpreviewed := @targetNames_previewed fineSide openStore
    (windowServer (numberedReport 7)).toReportServer countries preview reply hpreview hnames hreply
  exact ⟨preview, reply, hpreview, hreply, hpreviewed.1⟩

end Ga4Mcp.Tools
