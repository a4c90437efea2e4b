/-
  `collect_run_report_projection_for_ingest` of `src/tools.rs`: a report is read page by
  page, until it has been read, the limit is reached, or there are too many pages or rows.

  * `fetchPages_succ`: what one round of the loop can do.
  * `requests_increase`, `fetchPages_spec`: what holds of any upstream. No request is made
    twice, so that an upstream can be a function of the request.
  * `fetchPages_fixed`: an upstream that keeps a fixed report is read to the end, unless
    that takes too many pages or rows.
  * `ingest_pages`: all of it, for the reports that `scratchpad_ingest_report` accepts.
-/
import Ga4Mcp.Tools.CursorWalk

namespace Ga4Mcp.Tools

open Ga4Mcp.Lib

/-! ## The source -/

def maxScratchpadIngestRows : Nat := 100000

def defaultScratchpadIngestPageSize : Nat := maxTabularMaxRows

def maxScratchpadIngestPages : Nat := 128

/-- What is reported of the pages. -/
structure IngestPaginationStats where
  pagesFetched : Nat
  pageSize : Nat
  initialOffset : Nat
  finalOffset : Nat
  requestedLimit : Option Nat
  complete : Bool
deriving DecidableEq, Repr

/-- The rows of a page, within its bounds. -/
def resolveIngestPageSize (maxRows requestedLimit : Option Nat) : Nat :=
  let pageSize := min (max (maxRows.getD defaultScratchpadIngestPageSize) 1) maxTabularMaxRows
  match requestedLimit with
  | some limit => min pageSize (max limit 1)
  | none => pageSize

/-- The variables of the loop. -/
structure IngestState where
  nextOffset : Nat
  remaining : Option Nat
  pagesFetched : Nat
  collectedRows : List JsonMap
  columns : Option (List ColumnMeta)
  gaMeta : Option Json
  rowCountTotal : Nat

/-- Before the first page. -/
def IngestState.start (offset limit : Option Nat) : IngestState :=
  ⟨offset.getD 0, limit, 0, [], none, none, 0⟩

/-- The error of a page too many. -/
def tooManyPages : AnalyticsError :=
  .scratchpadLimitExceeded (text "limit") (text "ingest requires more than " ++
    Text.decimal maxScratchpadIngestPages ++
    text " API pages; narrow date_ranges or set a lower limit")

/-- The error of a row too many. -/
def tooManyRows : AnalyticsError :=
  .scratchpadLimitExceeded (text "rows") (text "ingest would exceed " ++
    Text.decimal maxScratchpadIngestRows ++
    text " rows; narrow date_ranges or set a lower limit")

/-- Zero ends the loop. -/
def IngestState.requestLimit (pageSize : Nat) (s : IngestState) : Nat :=
  match s.remaining with
  | some value => min value pageSize
  | none => pageSize

/-- A page more. -/
def IngestState.addPage (s : IngestState) (projection : GaTabularProjection) : IngestState where
  nextOffset := saturatingAdd s.nextOffset projection.rows.length
  remaining := s.remaining.map fun value => value - projection.rows.length
  pagesFetched := saturatingAdd s.pagesFetched 1
  collectedRows := s.collectedRows ++ projection.rows
  columns := s.columns <|> some projection.columns
  gaMeta := s.gaMeta <|> some projection.gaMeta
  rowCountTotal := max s.rowCountTotal projection.rowCountTotal

/-- The page was the last one, seen after it has been added. -/
def IngestState.reachedEnd (s : IngestState) (requestLimit rowCountReturned : Nat) : Bool :=
  rowCountReturned = 0 ∨ s.rowCountTotal ≤ s.nextOffset ∨ rowCountReturned < requestLimit ∨
    s.remaining = some 0

/-- The loop: the requests made, by offset and limit, and the result. `pagesLeft` counts
    down what `pages_fetched` counts up. -/
def fetchPages (fetch : Nat → Nat → Except AnalyticsError Json) (pageSize : Nat) :
    Nat → IngestState → List (Nat × Nat) × Except AnalyticsError IngestState
  | 0, _ => ([], .error tooManyPages)
  | pagesLeft + 1, s =>
      let requestLimit := s.requestLimit pageSize
      if requestLimit = 0 then ([], .ok s)
      else
        let request := (s.nextOffset, requestLimit)
        match fetch s.nextOffset requestLimit with
        | .error err => ([request], .error err)
        | .ok data =>
            let projection := projectGaTabularResponse data (text "run_report")
            if saturatingAdd s.collectedRows.length projection.rows.length >
                maxScratchpadIngestRows then
              ([request], .error tooManyRows)
            else
              let s' := s.addPage projection
              if s'.reachedEnd requestLimit projection.rows.length then ([request], .ok s')
              else
                let rest := fetchPages fetch pageSize pagesLeft s'
                (request :: rest.1, rest.2)

/-- What the function returns after the loop. -/
def ingestResult (report : RunReportArgs) (pageSize : Nat) (s : IngestState) :
    GaTabularProjection × IngestPaginationStats :=
  let rowCountTotal := max s.rowCountTotal s.collectedRows.length
  let pagination : IngestPaginationStats := {
    pagesFetched := s.pagesFetched
    pageSize := pageSize
    initialOffset := report.offset.getD 0
    finalOffset := s.nextOffset
    requestedLimit := report.limit
    complete := s.remaining = some 0 ∨ rowCountTotal ≤ s.nextOffset }
  let gaMeta := (s.gaMeta.getD (.object [])).insertField (text "ingest_pagination") (.ofFields [
    ("pages_fetched", .ofNat pagination.pagesFetched),
    ("page_size", .ofNat pagination.pageSize),
    ("initial_offset", .ofNat pagination.initialOffset),
    ("final_offset", .ofNat pagination.finalOffset),
    ("requested_limit", .ofOption (pagination.requestedLimit.map .ofNat)),
    ("complete", .bool pagination.complete)])
  (⟨s.collectedRows, rowCountTotal, s.columns.getD [], gaMeta⟩, pagination)

/-- The requests made, and the result. -/
def collectRunReportProjectionForIngest (server : ReportServer) (report : RunReportArgs) :
    List (Nat × Nat) × Except AnalyticsError (GaTabularProjection × IngestPaginationStats) :=
  let pageSize := resolveIngestPageSize report.maxRows report.limit
  let run := fetchPages (fetchRunReport server report) pageSize maxScratchpadIngestPages
    (.start report.offset report.limit)
  (run.1, run.2.map (ingestResult report pageSize))

/-- The checks of `scratchpad_ingest_report` on the report that it is given. -/
def checkIngestReport (report : RunReportArgs) : Except AnalyticsError Unit := do
  refuseIf report.cursor.isSome (.invalidArgument (text "cursor")
    (text "cursor is not supported for scratchpad_ingest_report; use offset/limit"))
  refuseIf report.summaryOnly (.invalidArgument (text "summary_only")
    (text "summary_only=true is not supported for scratchpad_ingest_report"))
  validateReportInputs report.toReportFields report.limit report.offset
  validateTabularControls report.maxRows none none

theorem checkIngestReport_ok {report : RunReportArgs} (h : checkIngestReport report = .ok ()) :
    (∀ value ∈ report.limit, 0 < value) ∧ report.offset.getD 0 ≤ maxReportLimit * 10 := by
  obtain ⟨⟨⟩, -, h⟩ := bind_eq_ok.mp h
  obtain ⟨⟨⟩, -, h⟩ := bind_eq_ok.mp h
  obtain ⟨⟨⟩, hinputs, -⟩ := bind_eq_ok.mp h
  obtain ⟨hlimit, hoffset⟩ := validateReportInputs_ok hinputs
  refine ⟨fun value hvalue => (hlimit value hvalue).1, ?_⟩
  cases hvalue : report.offset with
  | none => exact Nat.zero_le _
  | some value => exact hoffset value hvalue

theorem resolveIngestPageSize_pos (maxRows limit : Option Nat) :
    0 < resolveIngestPageSize maxRows limit := by
  unfold resolveIngestPageSize maxTabularMaxRows
  cases limit with
  | none =>
      dsimp only
      omega
  | some value =>
      dsimp only
      omega

theorem resolveIngestPageSize_le (maxRows limit : Option Nat) :
    resolveIngestPageSize maxRows limit ≤ maxTabularMaxRows := by
  unfold resolveIngestPageSize
  cases limit with
  | none => exact Nat.min_le_right ..
  | some value => exact le_trans (Nat.min_le_left ..) (Nat.min_le_right ..)

/-! ## Any upstream -/

section AnyUpstream

variable {fetch : Nat → Nat → Except AnalyticsError Json} {pageSize : Nat}

/-- What one round of the loop can do. -/
theorem fetchPages_succ (pagesLeft : Nat) (s : IngestState) :
    fetchPages fetch pageSize (pagesLeft + 1) s = ([], .ok s) ∨
    (∃ err, fetchPages fetch pageSize (pagesLeft + 1) s =
      ([(s.nextOffset, s.requestLimit pageSize)], .error err)) ∨
    ∃ data projection, fetch s.nextOffset (s.requestLimit pageSize) = .ok data ∧
      projection = projectGaTabularResponse data (text "run_report") ∧
      ¬ saturatingAdd s.collectedRows.length projection.rows.length > maxScratchpadIngestRows ∧
      (fetchPages fetch pageSize (pagesLeft + 1) s =
          ([(s.nextOffset, s.requestLimit pageSize)], .ok (s.addPage projection)) ∨
        projection.rows ≠ [] ∧ fetchPages fetch pageSize (pagesLeft + 1) s =
          ((s.nextOffset, s.requestLimit pageSize) ::
            (fetchPages fetch pageSize pagesLeft (s.addPage projection)).1,
            (fetchPages fetch pageSize pagesLeft (s.addPage projection)).2)) := by
  rw [fetchPages]
  dsimp only
  by_cases hzero : s.requestLimit pageSize = 0
  · rw [if_pos hzero]
    exact .inl rfl
  rw [if_neg hzero]
  cases hfetch : fetch s.nextOffset (s.requestLimit pageSize) with
  | error err => exact .inr (.inl ⟨err, rfl⟩)
  | ok data =>
      dsimp only
      generalize hprojection : projectGaTabularResponse data (text "run_report") = projection
      by_cases hcap : saturatingAdd s.collectedRows.length projection.rows.length >
          maxScratchpadIngestRows
      · rw [if_pos hcap]
        exact .inr (.inl ⟨_, rfl⟩)
      rw [if_neg hcap]
      refine .inr (.inr ⟨data, projection, rfl, hprojection.symm, hcap, ?_⟩)
      by_cases hend : (s.addPage projection).reachedEnd (s.requestLimit pageSize)
          projection.rows.length = true
      · rw [if_pos hend]
        exact .inl rfl
      · rw [if_neg hend]
        refine .inr ⟨fun hnil => hend ?_, rfl⟩
        rw [hnil, IngestState.reachedEnd, decide_eq_true_iff]
        exact .inl rfl

theorem length_requests_le (pagesLeft : Nat) (s : IngestState) :
    (fetchPages fetch pageSize pagesLeft s).1.length ≤ pagesLeft := by
  induction pagesLeft generalizing s with
  | zero => exact Nat.le_refl 0
  | succ pagesLeft ih =>
      rcases fetchPages_succ pagesLeft s with h | ⟨err, h⟩ | ⟨_, projection, -, -, -, h | ⟨-, h⟩⟩
      all_goals rw [h]
      · exact Nat.zero_le _
      · exact Nat.le_add_left 1 pagesLeft
      · exact Nat.le_add_left 1 pagesLeft
      · exact Nat.succ_le_succ (ih _)

/-- Where the loop stands after `count` rows from `offset`, with a limit on them. -/
structure CountsRows (offset : Nat) (limit : Option Nat) (s : IngestState) : Prop where
  nextOffset : s.nextOffset = offset + s.collectedRows.length
  remaining : s.remaining = limit.map fun value => value - s.collectedRows.length
  fits : s.collectedRows.length ≤ maxScratchpadIngestRows

theorem CountsRows.addPage {offset : Nat} {limit : Option Nat} {s : IngestState}
    {projection : GaTabularProjection} (h : CountsRows offset limit s)
    (hoffset : offset ≤ maxReportLimit * 10)
    (hrows : ¬ saturatingAdd s.collectedRows.length projection.rows.length >
      maxScratchpadIngestRows) :
    CountsRows offset limit (s.addPage projection) := by
  have hsum : s.collectedRows.length + projection.rows.length ≤ maxScratchpadIngestRows := by
    unfold saturatingAdd usizeMax maxScratchpadIngestRows at hrows
    unfold maxScratchpadIngestRows
    omega
  have hlength : (s.addPage projection).collectedRows.length =
      s.collectedRows.length + projection.rows.length := List.length_append
  refine ⟨?_, ?_, by rwa [hlength]⟩
  · have hnext : s.nextOffset + projection.rows.length ≤ usizeMax := by
      rw [h.nextOffset]
      unfold maxReportLimit at hoffset
      unfold maxScratchpadIngestRows at hsum
      unfold usizeMax
      omega
    rw [hlength, IngestState.addPage, saturatingAdd, Nat.min_eq_left hnext, h.nextOffset,
      Nat.add_assoc]
  · rw [hlength, IngestState.addPage, h.remaining, Option.map_map]
    exact congrArg (fun f => limit.map f) (funext fun value => Nat.sub_sub ..)

/-- No request is made twice. -/
theorem requests_increase {offset : Nat} {limit : Option Nat}
    (hoffset : offset ≤ maxReportLimit * 10)
    {pagesLeft : Nat} {s : IngestState} (hs : CountsRows offset limit s) :
    (∀ request ∈ (fetchPages fetch pageSize pagesLeft s).1, s.nextOffset ≤ request.1) ∧
      (fetchPages fetch pageSize pagesLeft s).1.Pairwise
        fun request request' => request.1 < request'.1 := by
  induction pagesLeft generalizing s with
  | zero => exact ⟨fun request hrequest => absurd hrequest List.not_mem_nil, .nil⟩
  | succ pagesLeft ih =>
      have hsingle : ∀ request ∈ [(s.nextOffset, s.requestLimit pageSize)],
          s.nextOffset ≤ request.1 := by
        intro request hrequest
        rw [List.mem_singleton.mp hrequest]
      rcases fetchPages_succ pagesLeft s with
        h | ⟨err, h⟩ | ⟨data, projection, -, -, hcap, h | ⟨hne, h⟩⟩
      all_goals rw [h]
      · exact ⟨fun request hrequest => absurd hrequest List.not_mem_nil, .nil⟩
      · exact ⟨hsingle, List.pairwise_singleton ..⟩
      · exact ⟨hsingle, List.pairwise_singleton ..⟩
      · have hs' := hs.addPage hoffset hcap
        obtain ⟨hle, hpairwise⟩ := ih hs'
        have hmore : s.nextOffset < (s.addPage projection).nextOffset := by
          have hlength : (s.addPage projection).collectedRows.length =
              s.collectedRows.length + projection.rows.length := List.length_append
          have hpos := List.length_pos_of_ne_nil hne
          rw [hs.nextOffset, hs'.nextOffset]
          omega
        refine ⟨fun request hrequest => ?_, hpairwise.cons fun request hrequest => ?_⟩
        · rcases List.mem_cons.mp hrequest with rfl | hrest
          · exact le_rfl
          · exact le_trans hmore.le (hle request hrest)
        · exact lt_of_lt_of_le hmore (hle request hrequest)

/-- **Any upstream**: the rows are counted, and no reported total is forgotten. -/
theorem fetchPages_spec {offset : Nat} {limit : Option Nat} (hoffset : offset ≤ maxReportLimit * 10)
    {pagesLeft : Nat} {s s' : IngestState} (hs : CountsRows offset limit s)
    (hok : (fetchPages fetch pageSize pagesLeft s).2 = .ok s') :
    CountsRows offset limit s' ∧ s.rowCountTotal ≤ s'.rowCountTotal ∧
      ∀ request ∈ (fetchPages fetch pageSize pagesLeft s).1, ∀ data total,
        fetch request.1 request.2 = .ok data → extractRowCount data = some total →
          total ≤ s'.rowCountTotal := by
  induction pagesLeft generalizing s with
  | zero => cases hok
  | succ pagesLeft ih =>
      rcases fetchPages_succ pagesLeft s with
        h | ⟨err, h⟩ | ⟨data, projection, hfetch, rfl, hcap, hround⟩
      · rw [h] at hok ⊢
        obtain rfl := Except.ok.inj hok
        exact ⟨hs, le_rfl, fun request hrequest => absurd hrequest List.not_mem_nil⟩
      · rw [h] at hok
        cases hok
      have hs₁ := hs.addPage hoffset hcap
      have htotal : s.rowCountTotal ≤
          (s.addPage (projectGaTabularResponse data (text "run_report"))).rowCountTotal :=
        Nat.le_max_left ..
      have hreported : ∀ data' total, fetch s.nextOffset (s.requestLimit pageSize) = .ok data' →
          extractRowCount data' = some total →
          total ≤
            (s.addPage (projectGaTabularResponse data (text "run_report"))).rowCountTotal := by
        intro data' total hdata hcount
        obtain rfl : data = data' := Except.ok.inj (hfetch.symm.trans hdata)
        have hread : (projectGaTabularResponse data (text "run_report")).rowCountTotal = total := by
          rw [projectGaTabularResponse]
          dsimp only
          rw [hcount, Option.getD_some]
        rw [← hread]
        exact Nat.le_max_right ..
      rcases hround with h | ⟨-, h⟩
      · rw [h] at hok ⊢
        obtain rfl := Except.ok.inj hok
        refine ⟨hs₁, htotal, fun request hrequest => ?_⟩
        rw [List.mem_singleton.mp hrequest]
        exact hreported
      · rw [h] at hok ⊢
        obtain ⟨hcounts, hle, hall⟩ := ih hs₁ hok
        refine ⟨hcounts, le_trans htotal hle, fun request hrequest => ?_⟩
        rcases List.mem_cons.mp hrequest with rfl | hrest
        · exact fun data' total hdata hcount => le_trans (hreported data' total hdata hcount) hle
        · exact hall request hrest

end AnyUpstream

/-! ## A fixed report -/

section FixedReport

/-- The rows from an offset on, up to a limit. -/
def windowRows (rows : List JsonMap) (offset : Nat) (limit : Option Nat) : List JsonMap :=
  match limit with
  | some value => (rows.drop offset).take value
  | none => rows.drop offset

/-- An empty table takes one page. -/
def pagesNeeded (rowCount pageSize : Nat) : Nat := max ((rowCount + pageSize - 1) / pageSize) 1

/-- The upstream keeps one report. -/
def ReportTable.HonouredBy (table : ReportTable) (fetch : Nat → Nat → Except AnalyticsError Json) :
    Prop :=
  ∀ offset ≤ usizeMax, ∀ limit ≤ usizeMax,
    ∃ response, fetch offset limit = .ok response ∧ table.AnswersWindow offset limit response

theorem length_windowRows (rows : List JsonMap) (offset : Nat) (limit : Option Nat) :
    (windowRows rows offset limit).length =
      match limit with
      | some value => min value (rows.length - offset)
      | none => rows.length - offset := by
  cases limit with
  | none => exact List.length_drop
  | some value => rw [windowRows, List.length_take, List.length_drop]

/-- A page of the report is a page of its window. -/
theorem page_windowRows (rows : List JsonMap) (offset count pageSize : Nat) (limit : Option Nat) :
    (rows.drop (offset + count)).take
        (match limit.map fun value => value - count with
          | some value => min value pageSize
          | none => pageSize) =
      ((windowRows rows offset limit).drop count).take pageSize := by
  cases limit with
  | none => rw [Option.map_none, windowRows, List.drop_drop]
  | some value =>
      rw [Option.map_some, windowRows, List.drop_take, List.drop_drop, List.take_take,
        Nat.min_comm]

theorem pagesNeeded_of_le {rowCount pageSize : Nat} (h : rowCount ≤ pageSize) :
    pagesNeeded rowCount pageSize = 1 := by
  refine Nat.max_eq_right ?_
  rcases Nat.eq_zero_or_pos pageSize with rfl | hpos
  · rw [Nat.div_zero]
    exact Nat.zero_le 1
  · exact Nat.le_of_lt_succ ((Nat.div_lt_iff_lt_mul hpos).mpr (by omega))

theorem pagesNeeded_of_lt {rowCount pageSize : Nat} (hpos : 0 < pageSize)
    (h : pageSize < rowCount) :
    pagesNeeded rowCount pageSize = pagesNeeded (rowCount - pageSize) pageSize + 1 := by
  have hdiv : (rowCount + pageSize - 1) / pageSize =
      (rowCount - pageSize + pageSize - 1) / pageSize + 1 := by
    rw [← Nat.add_div_right _ hpos]
    congr 1
    omega
  have hrest : 0 < (rowCount - pageSize + pageSize - 1) / pageSize :=
    Nat.div_pos (by omega) hpos
  unfold pagesNeeded
  omega

variable {table : ReportTable} {fetch : Nat → Nat → Except AnalyticsError Json}
  {pageSize offset : Nat} {limit : Option Nat}

/-- Where the loop stands while it reads a fixed report. -/
structure ReadsFixed (table : ReportTable) (offset : Nat) (limit : Option Nat) (s : IngestState) :
    Prop extends CountsRows offset limit s where
  isPrefix : s.collectedRows <+: windowRows table.projectedRows offset limit
  total : s.rowCountTotal ≤ table.projectedRows.length

namespace ReadsFixed

variable {s : IngestState}

/-- The answer to the next request. -/
theorem page (h : ReadsFixed table offset limit s) (hhonoured : table.HonouredBy fetch)
    (hfits : table.rows.length ≤ usizeMax) (hoffset : offset ≤ maxReportLimit * 10)
    (hpageSize : pageSize ≤ maxTabularMaxRows) :
    ∃ data, fetch s.nextOffset (s.requestLimit pageSize) = .ok data ∧
      (projectGaTabularResponse data (text "run_report")).rows =
        ((windowRows table.projectedRows offset limit).drop s.collectedRows.length).take
          pageSize ∧
      (projectGaTabularResponse data (text "run_report")).rowCountTotal =
        table.projectedRows.length := by
  have hnext : s.nextOffset ≤ usizeMax := by
    have hcount := h.fits
    rw [h.nextOffset]
    unfold maxReportLimit at hoffset
    unfold maxScratchpadIngestRows at hcount
    unfold usizeMax
    omega
  have hlimit : s.requestLimit pageSize ≤ usizeMax := by
    have hle : s.requestLimit pageSize ≤ pageSize := by
      unfold IngestState.requestLimit
      split
      · exact Nat.min_le_right ..
      · exact le_rfl
    unfold maxTabularMaxRows at hpageSize
    unfold usizeMax
    omega
  obtain ⟨data, hfetch, hanswer⟩ := hhonoured _ hnext _ hlimit
  obtain ⟨-, hrows, htotal⟩ := hanswer.projection hfits (text "run_report")
  refine ⟨data, hfetch, ?_, htotal⟩
  rw [hrows, h.nextOffset, ← page_windowRows, IngestState.requestLimit, h.remaining]

section AddPage

variable {projection : GaTabularProjection}

theorem addPage (h : ReadsFixed table offset limit s) (hoffset : offset ≤ maxReportLimit * 10)
    (hrows : projection.rows =
      ((windowRows table.projectedRows offset limit).drop s.collectedRows.length).take pageSize)
    (htotal : projection.rowCountTotal = table.projectedRows.length)
    (hcap : ¬ saturatingAdd s.collectedRows.length projection.rows.length >
      maxScratchpadIngestRows) :
    ReadsFixed table offset limit (s.addPage projection) := by
  refine ⟨h.toCountsRows.addPage hoffset hcap, ?_, ?_⟩
  · have htake := List.prefix_iff_eq_take.mp h.isPrefix
    change s.collectedRows ++ projection.rows <+: _
    rw [hrows]
    nth_rewrite 1 [htake]
    rw [← List.take_add]
    exact List.take_prefix _ _
  · change max s.rowCountTotal projection.rowCountTotal ≤ _
    rw [htotal]
    exact max_le h.total le_rfl

/-- **The loop ends exactly when the window has been read.** -/
theorem reachedEnd_iff (h : ReadsFixed table offset limit s)
    (h' : ReadsFixed table offset limit (s.addPage projection)) (hpos : 0 < pageSize)
    (hrows : projection.rows =
      ((windowRows table.projectedRows offset limit).drop s.collectedRows.length).take pageSize)
    (htotal : projection.rowCountTotal = table.projectedRows.length) :
    (s.addPage projection).reachedEnd (s.requestLimit pageSize) projection.rows.length = true ↔
      (s.addPage projection).collectedRows.length =
        (windowRows table.projectedRows offset limit).length := by
  have hcount := h.isPrefix.length_le
  have hlength : projection.rows.length = min pageSize
      ((windowRows table.projectedRows offset limit).length - s.collectedRows.length) := by
    rw [hrows, List.length_take, List.length_drop]
  have hlength' : (s.addPage projection).collectedRows.length =
      s.collectedRows.length + projection.rows.length := List.length_append
  have htotal' : (s.addPage projection).rowCountTotal = table.projectedRows.length := by
    change max s.rowCountTotal projection.rowCountTotal = _
    rw [htotal]
    exact max_eq_right h.total
  have hlast : (s.addPage projection).remaining = some 0 ↔
      ∃ value, limit = some value ∧ value ≤ (s.addPage projection).collectedRows.length := by
    rw [h'.remaining, Option.map_eq_some_iff]
    simp only [Nat.sub_eq_zero_iff_le]
  rw [IngestState.reachedEnd, decide_eq_true_iff, htotal', h'.nextOffset, hlast,
    IngestState.requestLimit, h.remaining]
  clear hlast
  rw [length_windowRows] at hcount hlength ⊢
  cases limit with
  | none =>
      dsimp only [Option.map_none] at hcount hlength ⊢
      simp only [reduceCtorEq, false_and, exists_false, or_false]
      omega
  | some value =>
      dsimp only [Option.map_some] at hcount hlength ⊢
      simp only [Option.some.injEq, exists_eq_left']
      omega

end AddPage

end ReadsFixed

/-- **A fixed report** is read to the end of the window, unless that takes too many rows or
    pages. -/
theorem fetchPages_fixed (hhonoured : table.HonouredBy fetch)
    (hfits : table.rows.length ≤ usizeMax) (hoffset : offset ≤ maxReportLimit * 10)
    (hpos : 0 < pageSize) (hpageSize : pageSize ≤ maxTabularMaxRows) (pagesLeft : Nat)
    {s : IngestState} (hs : ReadsFixed table offset limit s) (hmore : s.remaining ≠ some 0) :
    if (windowRows table.projectedRows offset limit).length ≤ maxScratchpadIngestRows ∧
        pagesNeeded ((windowRows table.projectedRows offset limit).length -
          s.collectedRows.length) pageSize ≤ pagesLeft then
      ∃ s', (fetchPages fetch pageSize pagesLeft s).2 = .ok s' ∧
        CountsRows offset limit s' ∧ s'.rowCountTotal ≤ table.projectedRows.length ∧
        s'.collectedRows = windowRows table.projectedRows offset limit
    else (fetchPages fetch pageSize pagesLeft s).2 = .error tooManyPages ∨
      (fetchPages fetch pageSize pagesLeft s).2 = .error tooManyRows := by
  induction pagesLeft generalizing s with
  | zero =>
      have hone : ¬ pagesNeeded ((windowRows table.projectedRows offset limit).length -
          s.collectedRows.length) pageSize ≤ 0 :=
        Nat.not_le.mpr (lt_of_lt_of_le Nat.zero_lt_one (Nat.le_max_right ..))
      rw [if_neg fun h => hone h.2]
      exact .inl rfl
  | succ pagesLeft ih =>
      have hrequest : s.requestLimit pageSize ≠ 0 := by
        unfold IngestState.requestLimit
        split
        · next value hvalue =>
            have hne : value ≠ 0 := fun hzero => hmore (by rw [hvalue, hzero])
            omega
        · omega
      obtain ⟨data, hfetch, hrows, htotal⟩ := hs.page hhonoured hfits hoffset hpageSize
      rw [fetchPages]
      dsimp only
      rw [if_neg hrequest, hfetch]
      dsimp only
      generalize projectGaTabularResponse data (text "run_report") = projection at hrows htotal ⊢
      have hcount := hs.isPrefix.length_le
      have hlength : projection.rows.length = min pageSize
          ((windowRows table.projectedRows offset limit).length - s.collectedRows.length) := by
        rw [hrows, List.length_take, List.length_drop]
      by_cases hcap : saturatingAdd s.collectedRows.length projection.rows.length >
          maxScratchpadIngestRows
      · -- the page alone leads past the cap
        have hlarge : ¬ (windowRows table.projectedRows offset limit).length ≤
            maxScratchpadIngestRows := by
          unfold saturatingAdd at hcap
          omega
        rw [if_pos hcap, if_neg fun h => hlarge h.1]
        exact .inr rfl
      · rw [if_neg hcap]
        have hs' := hs.addPage hoffset hrows htotal hcap
        have hend := hs.reachedEnd_iff hs' hpos hrows htotal
        have hlength' : (s.addPage projection).collectedRows.length =
            s.collectedRows.length + projection.rows.length := List.length_append
        by_cases hlast : (s.addPage projection).reachedEnd (s.requestLimit pageSize)
            projection.rows.length = true
        · rw [if_pos hlast]
          have hall := hend.mp hlast
          have hone : pagesNeeded ((windowRows table.projectedRows offset limit).length -
              s.collectedRows.length) pageSize = 1 := pagesNeeded_of_le (by omega)
          have hrowsFit := hs'.fits
          rw [if_pos ⟨by omega, by omega⟩]
          exact ⟨_, rfl, hs'.toCountsRows, hs'.total, hs'.isPrefix.eq_of_length hall⟩
        · -- a full page, and more to come
          rw [if_neg hlast]
          have hless : (s.addPage projection).collectedRows.length ≠
              (windowRows table.projectedRows offset limit).length := fun h => hlast (hend.mpr h)
          have hpages : pagesNeeded ((windowRows table.projectedRows offset limit).length -
              s.collectedRows.length) pageSize =
                pagesNeeded ((windowRows table.projectedRows offset limit).length -
                  s.collectedRows.length - pageSize) pageSize + 1 :=
            pagesNeeded_of_lt hpos (by omega)
          have hmore' : (s.addPage projection).remaining ≠ some 0 := by
            intro hzero
            refine hlast ?_
            rw [IngestState.reachedEnd, decide_eq_true_iff]
            exact .inr (.inr (.inr hzero))
          have hrest := ih hs' hmore'
          have hshift : (windowRows table.projectedRows offset limit).length -
              (s.addPage projection).collectedRows.length =
              (windowRows table.projectedRows offset limit).length - s.collectedRows.length -
                pageSize := by omega
          rw [hshift] at hrest
          rw [hpages]
          simpa only [Nat.add_le_add_iff_right] using hrest

end FixedReport

/-! ## Ingested reports -/

theorem countsRows_start (offset limit : Option Nat) :
    CountsRows (offset.getD 0) limit (.start offset limit) := by
  refine ⟨rfl, ?_, Nat.zero_le _⟩
  change limit = limit.map fun value => value - 0
  cases limit <;> rfl

/-- `complete` says that the limit or the largest total has been reached. -/
theorem complete_iff {report : RunReportArgs} {pageSize : Nat} {s : IngestState}
    (hs : CountsRows (report.offset.getD 0) report.limit s) :
    (ingestResult report pageSize s).2.complete = true ↔
      (∃ value ∈ report.limit, value ≤ s.collectedRows.length) ∨
        s.rowCountTotal - report.offset.getD 0 ≤ s.collectedRows.length := by
  have hlimit : s.remaining = some 0 ↔ ∃ value ∈ report.limit, value ≤ s.collectedRows.length := by
    rw [hs.remaining, Option.map_eq_some_iff]
    simp only [Nat.sub_eq_zero_iff_le, Option.mem_def]
  have htotal : max s.rowCountTotal s.collectedRows.length ≤ s.nextOffset ↔
      s.rowCountTotal - report.offset.getD 0 ≤ s.collectedRows.length := by
    rw [hs.nextOffset]
    omega
  rw [ingestResult]
  dsimp only
  rw [decide_eq_true_iff, hlimit, htotal]

/-- **Ingest pages through a report without loss or duplication.** A fixed report is read
    from the offset to the limit, unless that takes too many rows or pages. Of any upstream,
    no more pages are asked for and no more rows kept than allowed, and the result is
    complete only if the limit or the largest total that was reported has been reached. -/
theorem ingest_pages {report : RunReportArgs} (haccepted : checkIngestReport report = .ok ())
    (server : ReportServer) :
    (∀ table : ReportTable, table.rows.length ≤ usizeMax →
      table.HonouredBy (fetchRunReport server report) →
      if (windowRows table.projectedRows (report.offset.getD 0) report.limit).length ≤
            maxScratchpadIngestRows ∧
          pagesNeeded (windowRows table.projectedRows (report.offset.getD 0) report.limit).length
            (resolveIngestPageSize report.maxRows report.limit) ≤ maxScratchpadIngestPages then
        ∃ projection pagination,
          (collectRunReportProjectionForIngest server report).2 = .ok (projection, pagination) ∧
          projection.rows =
            windowRows table.projectedRows (report.offset.getD 0) report.limit ∧
          pagination.complete = true
      else ∃ field message, (collectRunReportProjectionForIngest server report).2 =
        .error (.scratchpadLimitExceeded field message)) ∧
    (collectRunReportProjectionForIngest server report).1.length ≤ maxScratchpadIngestPages ∧
    ((collectRunReportProjectionForIngest server report).1.Pairwise
      fun request request' => request.1 < request'.1) ∧
    ∀ projection pagination,
      (collectRunReportProjectionForIngest server report).2 = .ok (projection, pagination) →
      projection.rows.length ≤ maxScratchpadIngestRows ∧
      (pagination.complete = true →
        (∃ value ∈ report.limit, value ≤ projection.rows.length) ∨
        ∀ request ∈ (collectRunReportProjectionForIngest server report).1, ∀ data total,
          fetchRunReport server report request.1 request.2 = .ok data →
          extractRowCount data = some total →
          total - report.offset.getD 0 ≤ projection.rows.length) := by
  obtain ⟨hlimit, hoffset⟩ := checkIngestReport_ok haccepted
  have hstart := countsRows_start report.offset report.limit
  have hpos := resolveIngestPageSize_pos report.maxRows report.limit
  have hpageSize := resolveIngestPageSize_le report.maxRows report.limit
  have hcollect : (collectRunReportProjectionForIngest server report).2 =
      (fetchPages (fetchRunReport server report)
        (resolveIngestPageSize report.maxRows report.limit) maxScratchpadIngestPages
        (.start report.offset report.limit)).2.map
          (ingestResult report (resolveIngestPageSize report.maxRows report.limit)) := rfl
  refine ⟨fun table hfits hhonoured => ?_, length_requests_le _ _,
    (requests_increase hoffset hstart).2, fun projection pagination h => ?_⟩
  · have hmore : (IngestState.start report.offset report.limit).remaining ≠ some 0 := by
      intro hzero
      exact absurd (hlimit 0 hzero) (lt_irrefl 0)
    have hread := fetchPages_fixed hhonoured hfits hoffset hpos hpageSize
      maxScratchpadIngestPages ⟨hstart, List.nil_prefix, Nat.zero_le _⟩ hmore
    have hnone : (IngestState.start report.offset report.limit).collectedRows.length = 0 := rfl
    rw [hnone, Nat.sub_zero] at hread
    split
    · next hroom =>
        rw [if_pos hroom] at hread
        obtain ⟨s, hrun, hs, htotal, hrows⟩ := hread
        rw [hcollect, hrun]
        refine ⟨_, _, rfl, hrows, (complete_iff hs).mpr ?_⟩
        rw [hrows, length_windowRows]
        cases hvalue : report.limit with
        | none => exact .inr (Nat.sub_le_sub_right htotal _)
        | some value =>
            dsimp only
            rcases Nat.le_total value (table.projectedRows.length - report.offset.getD 0) with
              hle | hle
            · exact .inl ⟨value, rfl, by rw [Nat.min_eq_left hle]⟩
            · refine .inr ?_
              rw [Nat.min_eq_right hle]
              exact Nat.sub_le_sub_right htotal _
    · next hroom =>
        rw [if_neg hroom] at hread
        rw [hcollect]
        rcases hread with hrun | hrun
        · rw [hrun]
          exact ⟨_, _, rfl⟩
        · rw [hrun]
          exact ⟨_, _, rfl⟩
  · obtain ⟨s, hrun, hresult⟩ := map_eq_ok.mp h
    obtain ⟨hs, -, htotal⟩ := fetchPages_spec hoffset hstart hrun
    have hrows : projection.rows = s.collectedRows := (congrArg (fun r => r.1.rows) hresult).symm
    have hpagination : pagination = (ingestResult report _ s).2 :=
      (congrArg Prod.snd hresult).symm
    rw [hrows]
    refine ⟨hs.fits, fun hcomplete => ?_⟩
    rw [hpagination, complete_iff hs] at hcomplete
    refine hcomplete.imp_right fun hreached request hrequest data total hdata hcount => ?_
    exact le_trans (Nat.sub_le_sub_right (htotal request hrequest data total hdata hcount) _)
      hreached

/-! ## An ingest of three pages -/

/-- A report of two rows a page. -/
def pagedReport : RunReportArgs :=
  { (conversionsReport (some 2) none).toRunReportArgs with maxRows := some 2 }

theorem honouredBy_windowServer (table : ReportTable) :
    table.HonouredBy (fetchRunReport (windowServer table).toReportServer pagedReport) := by
  intro offset hoffset limit hlimit
  obtain ⟨hreadOffset, hreadLimit⟩ := bodyNumber_runReportPayload
    (pagedReport.toBatchRunReportItemArgs.toRequest offset limit) rfl rfl ⟨hoffset, hlimit⟩
  exact windowClient_answers table [] hreadOffset hreadLimit

theorem ingest_pages_numberedReport : ∃ projection pagination,
    (collectRunReportProjectionForIngest (windowServer (numberedReport 7)).toReportServer
      pagedReport).2 = .ok (projection, pagination) ∧
    projection.rows = (numberedReport 7).projectedRows.drop 2 ∧ pagination.complete = true := by
  have hlength := length_numberedReport 7
  have h := (ingest_pages (show checkIngestReport pagedReport = .ok () by rfl)
    (windowServer (numberedReport 7)).toReportServer).1 (numberedReport 7)
      (by rw [← ReportTable.length_projectedRows, hlength]; decide) (honouredBy_windowServer _)
  have hrows : windowRows (numberedReport 7).projectedRows (pagedReport.offset.getD 0)
      pagedReport.limit = (numberedReport 7).projectedRows.drop 2 := rfl
  have hcount : ((numberedReport 7).projectedRows.drop 2).length = 5 := by
    rw [List.length_drop, hlength]
  rw [hrows, hcount, if_pos (by decide)] at h
  exact h

end Ga4Mcp.Tools
