/-
  The checks of the funnel report, of `src/tools.rs`, and what is measured and posted.

  The checks measure a payload that is assembled from the arguments a second time, with the
  breakdown and the next action converted before the builder converts them.

  * `normalizedFunnelProviderBoundaryPayload_eq`: it is the payload that is posted.
  * `runFunnelReportPost_ok`, `runConversionsReportPost_ok`: what a handler sends has been
    measured.
  * `measuredIsPosted`: both, with the bound on what is sent.
-/
import Ga4Mcp.Tools.CamelKeys
import Ga4Mcp.Tools.PayloadSize
import Ga4Mcp.Tools.ReportViews

namespace Ga4Mcp.Tools

open Ga4Mcp.Lib

/-! ## Durations -/

def maxFunnelDurationSeconds : Nat := 315576000000

/-- The part after the seconds: none, or a fraction. -/
def isValidFunnelFraction (secondsValue : Nat) : List Text → Bool
  | [] => true
  | [fraction] =>
      ¬ fraction.isEmpty && Text.len fraction ≤ 9 && fraction.all Char.isDigit &&
        (secondsValue < maxFunnelDurationSeconds || fraction.all (· = '0'))
  | _ => false

/-- `is_valid_funnel_duration`: digits, at most nine more behind a point, then `s`. -/
def isValidFunnelDuration (value : Text) : Bool :=
  if value.getLast? = some 's' then
    match value.dropLast.splitOn '.' with
    | [] => false
    | seconds :: parts =>
        if seconds.isEmpty ∨ ¬ seconds.all Char.isDigit then false
        else
          match parseU64 seconds with
          | none => false
          | some secondsValue =>
              if secondsValue > maxFunnelDurationSeconds then false
              else isValidFunnelFraction secondsValue parts
  else false

/-! ## Steps -/

def maxFunnelSteps : Nat := 10

def maxFunnelSegments : Nat := 4

def maxFunnelBreakdownLimit : Nat := 15

def maxFunnelNextActionLimit : Nat := 5

/-- An error about the steps. -/
def stepsError (message : Text) : AnalyticsError := .invalidArgument (text "funnel_steps") message

/-- An error about one of them. -/
def stepError (idx : Nat) (message : String) : AnalyticsError :=
  stepsError (text "funnel_steps[" ++ Text.decimal idx ++ text "]" ++ text message)

/-- A JSON object with a field. -/
def isNonEmptyObject (value : Json) : Bool := value.asObject.any fun fields => ¬ fields.isEmpty

/-- A step has an event or a filter, and not both. -/
def validateFunnelStepSource (idx : Nat) (event : Option Text) (filterExpression : Option Json) :
    Except AnalyticsError Unit :=
  match event, filterExpression with
  | some event, none =>
      if (Text.trim event).isEmpty then .error (stepError idx ".event must not be empty")
      else refuseIf (event ≠ Text.trim event)
        (stepError idx ".event must not have leading or trailing whitespace")
  | none, some filter =>
      refuseIf (¬ isNonEmptyObject filter) (stepError idx ".filter_expression must be an object")
  | some _, some _ =>
      .error (stepError idx " must set exactly one of event or filter_expression")
  | none, none => .error (stepError idx " must set either event or filter_expression")

/-- A duration stands on a later step, and is one. -/
def validateFunnelStepDuration (idx : Nat) (duration : Text) : Except AnalyticsError Unit := do
  refuseIf (idx = 0) (stepsError (text ("funnel_steps[0].within_duration_from_prior_step is " ++
    "invalid because there is no prior step")))
  refuseIf (Text.trim duration).isEmpty
    (stepError idx ".within_duration_from_prior_step must not be empty")
  refuseIf (¬ isValidFunnelDuration duration) (stepError idx
    (".within_duration_from_prior_step must be a non-negative protobuf duration such as " ++
      "3600s or 3.5s"))

/-- One round of the loop over the steps. -/
def validateFunnelStep (step : FunnelStepArgs) (idx : Nat) : Except AnalyticsError Unit := do
  refuseIf (step.name.any fun value => (Text.trim value).isEmpty)
    (stepError idx ".name must not be empty")
  validateFunnelStepSource idx step.event step.filterExpression
  refuseIf (idx = 0 ∧ step.isDirectlyFollowedBy = some true) (stepsError
    (text ("funnel_steps[0].is_directly_followed_by must be false because there is no prior " ++
      "step")))
  ifSome step.withinDurationFromPriorStep (validateFunnelStepDuration idx)

/-! ## Arguments -/

/-- Segments are objects with something in them. -/
def validateFunnelSegments (segments : List Json) : Except AnalyticsError Unit := do
  refuseIf (segments.length > maxFunnelSegments) (.invalidArgument (text "segments")
    (text "must include at most " ++ Text.decimal maxFunnelSegments ++ text " segments"))
  segments.zipIdx.forM fun segment =>
    refuseIf (¬ isNonEmptyObject segment.1) (.invalidArgument (text "segments")
      (text "segments[" ++ Text.decimal segment.2 ++ text "] must be a non-empty object"))

/-- A limit is between one and the greatest. -/
def validateOptionalSublimit (field : Text) (value : Option Nat) (maximum : Nat) :
    Except AnalyticsError Unit :=
  ifSome value fun value => refuseIf (value = 0 ∨ value > maximum)
    (.invalidArgument field (text "must be between 1 and " ++ Text.decimal maximum))

/-- The common check of the breakdown and of the next action; `key` names the dimension. -/
def validateLimitedDimension (field key : String) (dimension : Text) (limit : Option Nat)
    (maximum : Nat) : Except AnalyticsError Unit := do
  refuseIf (Text.trim dimension).isEmpty
    (.invalidArgument (text field) (text key ++ text " must not be empty"))
  refuseIf (dimension ≠ Text.trim dimension) (.invalidArgument (text field)
    (text key ++ text " must not have leading or trailing whitespace"))
  validateOptionalSublimit (text field ++ text ".limit") limit maximum

/-- The payload that is measured. -/
def normalizedFunnelProviderBoundaryPayload (args : RunFunnelReportArgs) : Json :=
  .object (buildRunFunnelReportPayload
    { propertyId := args.propertyId
      funnelSteps := args.funnelSteps.map FunnelStepArgs.toJson
      isOpenFunnel := args.isOpenFunnel
      dateRanges := args.dateRanges
      funnelBreakdown := args.funnelBreakdown.map fun breakdown =>
        Json.snakeToCamelJson (limitedDimension "breakdown_dimension"
          breakdown.breakdownDimension breakdown.limit)
      funnelNextAction := args.funnelNextAction.map fun nextAction =>
        Json.snakeToCamelJson (limitedDimension "next_action_dimension"
          nextAction.nextActionDimension nextAction.limit)
      funnelVisualizationType := args.funnelVisualizationType.map FunnelVisualizationType.asStr
      segments := args.segments
      dimensionFilter := args.dimensionFilter
      limit := some (resolveFunnelReportLimit args.maxRows args.limit)
      returnPropertyQuota := args.returnPropertyQuota })

/-- The checks of `run_funnel_report`. -/
def validateFunnelReportInputs (args : RunFunnelReportArgs) : Except AnalyticsError Unit := do
  refuseIf args.funnelSteps.isEmpty (stepsError (text "must include at least one funnel step"))
  refuseIf (args.funnelSteps.length > maxFunnelSteps) (stepsError
    (text "must include at most " ++ Text.decimal maxFunnelSteps ++ text " funnel steps"))
  args.funnelSteps.zipIdx.forM fun step => validateFunnelStep step.1 step.2
  -- no date range is fine here
  validateDateRangesShape args.dateRanges
  ifSome args.segments validateFunnelSegments
  ifSome args.funnelBreakdown fun breakdown =>
    validateLimitedDimension "funnel_breakdown" "breakdown_dimension"
      breakdown.breakdownDimension breakdown.limit maxFunnelBreakdownLimit
  ifSome args.funnelNextAction fun nextAction =>
    validateLimitedDimension "funnel_next_action" "next_action_dimension"
      nextAction.nextActionDimension nextAction.limit maxFunnelNextActionLimit
  validateProviderBoundaryJsonSize (text "provider_payload")
    (normalizedFunnelProviderBoundaryPayload args)
  validateLimitOffset args.limit none

/-! ## The handler -/

/-- What is known of a call before its request. -/
structure FunnelResponseOptions where
  queryHash : Text
  outputMode : OutputMode
  summaryOnly : Bool
  maxCellChars : Option Nat
  effectiveLimit : Nat
  requestedLimit : Option Nat
deriving DecidableEq, Repr

section

variable (server : ReportServer)

/-- A call up to its request. -/
def prepareRunFunnelReport (args : RunFunnelReportArgs) :
    Except AnalyticsError FunnelResponseOptions := do
  validateFunnelReportInputs args
  validateTabularControls args.maxRows args.maxCellChars none
  let queryHash ← runFunnelReportQueryHash server.hasher args
  return ⟨queryHash, args.outputMode.getD .rows, args.summaryOnly, args.maxCellChars,
    resolveFunnelReportLimit args.maxRows args.limit, args.limit⟩

/-- The answer that is projected, and how. -/
def runFunnelReportAnswer (args : RunFunnelReportArgs) :
    Except AnalyticsError (Json × FunnelResponseOptions) := do
  let options ← prepareRunFunnelReport server args
  let data ← fetchRunFunnelReport server args
  return (data, options)

/-! ## What is sent -/

/-- What the handler hands to the network. -/
def runFunnelReportPost (args : RunFunnelReportArgs) :
    Except AnalyticsError (FunnelResponseOptions × Post) := do
  let options ← prepareRunFunnelReport server args
  let post ← args.post server.client
  return (options, post)

/-- A conversions call up to its request, and the request. -/
def runConversionsReportPost (args : RunConversionsReportArgs) :
    Except AnalyticsError ((TabularResponseOptions × Nat) × Post) := do
  let prepared ← prepareRunConversionsReport server args
  checkConversionsPayload args prepared.2 prepared.1.cursorOffset
  let post ← (ReportCall.conversions args).post server.client prepared.1.cursorOffset prepared.2
  return (prepared, post)

/-- The handler sends that and nothing else. -/
theorem runFunnelReportAnswer_eq (args : RunFunnelReportArgs) :
    runFunnelReportAnswer server args = (do
      let sent ← runFunnelReportPost server args
      let data ← sent.2.send server.client
      return (data, sent.1)) := by
  unfold runFunnelReportAnswer runFunnelReportPost
  simp only [fetchRunFunnelReport_eq, bind_assoc, pure_bind]

theorem runConversionsReportPage_eq (args : RunConversionsReportArgs) :
    runConversionsReportPage server args = (do
      let sent ← runConversionsReportPost server args
      let data ← sent.2.send server.client
      validateGaTabularResponseShape data (text "run_conversions_report")
      return ⟨truncateRows (projectGaTabularResponse data (text "run_conversions_report"))
        sent.1.2, sent.1.1⟩) := by
  unfold runConversionsReportPage runConversionsReportPost reportPage
  simp only [fetchRunConversionsReport_eq, bind_assoc, pure_bind]

end

/-! ## What is measured -/

/-- **The measured payload** is the posted one. -/
theorem normalizedFunnelProviderBoundaryPayload_eq (args : RunFunnelReportArgs) :
    normalizedFunnelProviderBoundaryPayload args =
      .object (buildRunFunnelReportPayload args.toRequest) := by
  have htwice : ∀ {α : Type} (value : Option α) (toJson : α → Json),
      (value.map fun a => (toJson a).snakeToCamelJson).map Json.snakeToCamelJson =
        (value.map toJson).map Json.snakeToCamelJson := by
    intro α value toJson
    cases value with
    | none => rfl
    | some a => exact congrArg some (Json.snakeToCamelJson_idem (toJson a))
  have hbreakdown := htwice args.funnelBreakdown FunnelBreakdownArgs.toJson
  have hnextAction := htwice args.funnelNextAction FunnelNextActionArgs.toJson
  simp only [normalizedFunnelProviderBoundaryPayload, buildRunFunnelReportPayload,
    RunFunnelReportArgs.toRequest]
  rw [← hbreakdown, ← hnextAction]
  rfl

theorem validateProviderBoundaryJsonSize_eq_ok {field : Text} {payload : Json} :
    validateProviderBoundaryJsonSize field payload = .ok () ↔
      Text.len payload.render ≤ maxProviderBoundaryJsonBytes :=
  refuseIf_eq_ok.trans Nat.not_lt

theorem validateFunnelReportInputs_ok {args : RunFunnelReportArgs}
    (h : validateFunnelReportInputs args = .ok ()) :
    Text.len (normalizedFunnelProviderBoundaryPayload args).render ≤
      maxProviderBoundaryJsonBytes := by
  obtain ⟨⟨⟩, -, h⟩ := bind_eq_ok.mp h
  obtain ⟨⟨⟩, -, h⟩ := bind_eq_ok.mp h
  obtain ⟨⟨⟩, -, h⟩ := bind_eq_ok.mp h
  obtain ⟨⟨⟩, -, h⟩ := bind_eq_ok.mp h
  obtain ⟨⟨⟩, -, h⟩ := bind_eq_ok.mp h
  obtain ⟨⟨⟩, -, h⟩ := bind_eq_ok.mp h
  obtain ⟨⟨⟩, -, h⟩ := bind_eq_ok.mp h
  obtain ⟨⟨⟩, hsize, -⟩ := bind_eq_ok.mp h
  exact validateProviderBoundaryJsonSize_eq_ok.mp hsize

/-- Two payloads that differ in the window only, which is written as strings. -/
structure DiffersInWindow (payload other : JsonMap) : Prop where
  rest : withoutWindow payload = withoutWindow other
  strings : ∀ fields ∈ [payload, other], ∀ key ∈ ["limit", "offset"],
    ∃ value, JsonMap.get fields (text key) = some (.string value)

theorem conversionsPayload_window (args : RunConversionsReportArgs) (limit offset : Nat) :
    ∀ key ∈ ["limit", "offset"], ∃ value, JsonMap.get (buildRunConversionsReportPayload
      (buildConversionsReportRequest args limit offset)) (text key) = some (.string value) := by
  intro key hkey
  have hread : JsonMap.get (buildRunConversionsReportPayload
      (buildConversionsReportRequest args limit offset)) (text key) = some (.string
        (Text.decimal (if key = "limit" then limit else offset))) := by
    rcases List.mem_pair.mp hkey with rfl | rfl
    all_goals
      simp only [buildRunConversionsReportPayload, buildRunReportPayload,
        buildConversionsReportRequest, BatchRunReportItemArgs.toRequest, JsonMap.get_insert,
        JsonMap.get_insertSome, JsonMap.get_nil, text_inj]
      simp [decimalString]
  exact ⟨_, hread⟩

theorem runFunnelReportPost_ok {server : ReportServer} {args : RunFunnelReportArgs}
    {options : FunnelResponseOptions} {post : Post}
    (h : runFunnelReportPost server args = .ok (options, post)) :
    validateFunnelReportInputs args = .ok () ∧ args.post server.client = .ok post := by
  obtain ⟨options', hprepared, h⟩ := bind_eq_ok.mp h
  obtain ⟨post', hpost, h⟩ := bind_eq_ok.mp h
  obtain ⟨⟨⟩, hvalid, -⟩ := bind_eq_ok.mp hprepared
  obtain ⟨-, rfl⟩ := Prod.mk.inj (pure_eq_ok.mp h)
  exact ⟨hvalid, hpost⟩

theorem runConversionsReportPost_ok {server : ReportServer} {args : RunConversionsReportArgs}
    {options : TabularResponseOptions} {limit : Nat} {post : Post}
    (h : runConversionsReportPost server args = .ok ((options, limit), post)) :
    checkConversionsPayload args limit options.cursorOffset = .ok () ∧
      (ReportCall.conversions args).post server.client options.cursorOffset limit = .ok post := by
  obtain ⟨prepared, -, h⟩ := bind_eq_ok.mp h
  obtain ⟨⟨⟩, hcheck, h⟩ := bind_eq_ok.mp h
  obtain ⟨post', hpost, h⟩ := bind_eq_ok.mp h
  obtain ⟨rfl, rfl⟩ := Prod.mk.inj (pure_eq_ok.mp h)
  exact ⟨hcheck, hpost⟩

theorem funnelPost_payload {client : AnalyticsClient} {args : RunFunnelReportArgs} {post : Post}
    (h : args.post client = .ok post) :
    normalizedFunnelProviderBoundaryPayload args = .object post.payload := by
  obtain ⟨property, -, rfl⟩ := map_eq_ok.mp h
  exact normalizedFunnelProviderBoundaryPayload_eq args

theorem conversionsPost_payload {client : AnalyticsClient} {args : RunConversionsReportArgs}
    {offset limit : Nat} {post : Post}
    (h : (ReportCall.conversions args).post client offset limit = .ok post) :
    post.payload = buildRunConversionsReportPayload
      (buildConversionsReportRequest args limit offset) := by
  obtain ⟨property, -, rfl⟩ := map_eq_ok.mp h
  rfl

/-- **The measured payload is the posted one**, and nothing larger is sent. -/
theorem measuredIsPosted (server : ReportServer) :
    (∀ args : RunFunnelReportArgs, runFunnelReportAnswer server args = (do
        let sent ← runFunnelReportPost server args
        let data ← sent.2.send server.client
        return (data, sent.1)) ∧
      (validateFunnelReportInputs args = .ok () → ∀ post, args.post server.client = .ok post →
        normalizedFunnelProviderBoundaryPayload args = .object post.payload) ∧
      ∀ options post, runFunnelReportPost server args = .ok (options, post) →
        validateFunnelReportInputs args = .ok () ∧ args.post server.client = .ok post ∧
        Text.len (Json.object post.payload).render ≤ maxProviderBoundaryJsonBytes) ∧
    ∀ args : RunConversionsReportArgs, runConversionsReportPage server args = (do
        let sent ← runConversionsReportPost server args
        let data ← sent.2.send server.client
        validateGaTabularResponseShape data (text "run_conversions_report")
        return ⟨truncateRows (projectGaTabularResponse data (text "run_conversions_report"))
          sent.1.2, sent.1.1⟩) ∧
      ∀ options limit post, runConversionsReportPost server args = .ok ((options, limit), post) →
        normalizedConversionsProviderBoundaryPayload args limit options.cursorOffset =
          .object post.payload ∧
        (∃ fallback, normalizedConversionsProviderBoundaryPayload args
            (conversionsReportFallbackWindow args).2 (conversionsReportFallbackWindow args).1 =
              .object fallback ∧
          DiffersInWindow fallback post.payload) ∧
        Text.len (Json.object post.payload).render ≤ maxProviderBoundaryJsonBytes := by
  refine ⟨fun args => ⟨runFunnelReportAnswer_eq server args, fun _ post => funnelPost_payload,
    fun options post hsent => ?_⟩, fun args => ⟨runConversionsReportPage_eq server args,
    fun options limit post hsent => ?_⟩⟩
  · obtain ⟨hvalid, hpost⟩ := runFunnelReportPost_ok hsent
    refine ⟨hvalid, hpost, ?_⟩
    rw [← funnelPost_payload hpost]
    exact validateFunnelReportInputs_ok hvalid
  · obtain ⟨hcheck, hpost⟩ := runConversionsReportPost_ok hsent
    have hpayload := conversionsPost_payload hpost
    refine ⟨congrArg Json.object hpayload.symm, ⟨_, rfl, ?_, ?_⟩, ?_⟩
    · rw [hpayload, withoutWindow_conversions, withoutWindow_conversions]
    · refine List.forall_mem_cons.mpr ⟨conversionsPayload_window _ _ _,
        List.forall_mem_cons.mpr ⟨?_, by simp⟩⟩
      rw [hpayload]
      exact conversionsPayload_window _ _ _
    · rw [hpayload]
      exact checkConversionsPayload_eq_ok.mp hcheck

/-- A funnel of one step, with a breakdown. -/
def oneStepFunnel : RunFunnelReportArgs where
  propertyId := .number 7
  funnelSteps := [⟨none, some (text "login"), none, none, none⟩]
  isOpenFunnel := false
  dateRanges := []
  funnelBreakdown := some ⟨text "country", some 3⟩
  funnelNextAction := none
  funnelVisualizationType := none
  segments := none
  dimensionFilter := none
  limit := none
  returnPropertyQuota := false
  maxRows := none
  outputMode := none
  summaryOnly := false
  maxCellChars := none

/-- A conversions report of one day. -/
def oneDayConversions : RunConversionsReportArgs where
  dateRanges := [.ofFields [("start_date", .string (text "today")),
    ("end_date", .string (text "today"))]]
  dimensions := [text "country"]
  metrics := [text "advertiserAdCost"]
  dimensionFilter := none
  metricFilter := none
  orderBys := none
  maxRows := none
  cursor := none
  outputMode := none
  summaryOnly := false
  maxCellChars := none
  limit := some 20
  offset := some 40
  currencyCode := none
  returnPropertyQuota := false
  propertyId := .number 7
  conversionSpec := ⟨[], none⟩

/-- Both calls get as far as the network. -/
theorem measuredIsPosted_sent :
    let server : ReportServer := ⟨⟨text "https://data", text "https://admin", fun _ _ => .ok .null⟩,
      fun t => UInt64.ofNat t.length, id⟩
    (∃ options post, runFunnelReportPost server oneStepFunnel = .ok (options, post) ∧
      normalizedFunnelProviderBoundaryPayload oneStepFunnel = .object post.payload) ∧
    ∃ options limit post,
      runConversionsReportPost server oneDayConversions = .ok ((options, limit), post) ∧
      normalizedConversionsProviderBoundaryPayload oneDayConversions limit options.cursorOffset =
        .object post.payload := by
  intro server
  have hsent : (runFunnelReportPost server oneStepFunnel).isOk = true ∧
      (runConversionsReportPost server oneDayConversions).isOk = true := by
    decide +kernel
  obtain ⟨hfunnel, hconversions⟩ := hsent
  constructor
  · cases hpost : runFunnelReportPost server oneStepFunnel with
    | error err => rw [hpost] at hfunnel; cases hfunnel
    | ok sent =>
        have hmeasured := (measuredIsPosted server).1 oneStepFunnel
        obtain ⟨hvalid, hargs, -⟩ := hmeasured.2.2 sent.1 sent.2 hpost
        exact ⟨sent.1, sent.2, rfl, hmeasured.2.1 hvalid sent.2 hargs⟩
  · cases hpost : runConversionsReportPost server oneDayConversions with
    | error err => rw [hpost] at hconversions; cases hconversions
    | ok sent =>
        have hmeasured := (measuredIsPosted server).2 oneDayConversions
        exact ⟨sent.1.1, sent.1.2, sent.2, rfl,
          (hmeasured.2 sent.1.1 sent.1.2 sent.2 hpost).1⟩

end Ga4Mcp.Tools
