/-
  The funnel report: its arguments and query hash, of `src/tools.rs`, and its payload, of
  `src/ga_client.rs`. It has no cursor; the query hash stands in its metadata.

  `normalizeFunnelStep` names a step that has no name, and writes the event shorthand out.
-/
import Ga4Mcp.Tools.JsonMaps
import Ga4Mcp.Tools.Reports

namespace Ga4Mcp.Tools

/-! ## Arguments -/

/-- A step of a funnel: an event or a filter, and how it follows the one before. -/
structure FunnelStepArgs where
  name : Option Text
  event : Option Text
  filterExpression : Option Json
  isDirectlyFollowedBy : Option Bool
  withinDurationFromPriorStep : Option Text

/-- The dimension that a funnel is broken down by. -/
structure FunnelBreakdownArgs where
  breakdownDimension : Text
  limit : Option Nat

/-- The dimension of what users do next. -/
structure FunnelNextActionArgs where
  nextActionDimension : Text
  limit : Option Nat

/-- How a funnel is shown. -/
inductive FunnelVisualizationType where
  | standardFunnel
  | trendedFunnel
deriving DecidableEq, Repr

/-- The upstream name of it. -/
def FunnelVisualizationType.asStr : FunnelVisualizationType → Text
  | standardFunnel => text "STANDARD_FUNNEL"
  | trendedFunnel => text "TRENDED_FUNNEL"

/-- The arguments of `run_funnel_report`. -/
structure RunFunnelReportArgs where
  propertyId : PropertyId
  funnelSteps : List FunnelStepArgs
  isOpenFunnel : Bool
  dateRanges : List Json
  funnelBreakdown : Option FunnelBreakdownArgs
  funnelNextAction : Option FunnelNextActionArgs
  funnelVisualizationType : Option FunnelVisualizationType
  segments : Option (List Json)
  dimensionFilter : Option Json
  limit : Option Nat
  returnPropertyQuota : Bool
  maxRows : Option Nat
  outputMode : Option OutputMode
  summaryOnly : Bool
  maxCellChars : Option Nat

/-- The serialised step: fields that are not set are left out. -/
def FunnelStepArgs.toJson (step : FunnelStepArgs) : Json :=
  .object ([]
    |> JsonMap.insertSome (text "name") (step.name.map .string)
    |> JsonMap.insertSome (text "event") (step.event.map .string)
    |> JsonMap.insertSome (text "filter_expression") step.filterExpression
    |> JsonMap.insertSome (text "is_directly_followed_by") (step.isDirectlyFollowedBy.map .bool)
    |> JsonMap.insertSome (text "within_duration_from_prior_step")
      (step.withinDurationFromPriorStep.map .string))

/-! ## The payload -/

/-- A step with a name, and its event as a filter. -/
def normalizeFunnelStep (step : Json) (index : Nat) : Json :=
  match step with
  | .object step =>
      let step :=
        if (JsonMap.get step (text "name")).isSome then step
        else JsonMap.insert (text "name")
          (.string (text "Step " ++ Text.decimal (index + 1))) step
      let step := match JsonMap.get step (text "event") with
        | some event => JsonMap.insert (text "filter_expression")
            (.ofFields [("funnel_event_filter", .ofFields [("event_name", event)])])
            (JsonMap.remove (text "event") step)
        | none => step
      Json.snakeToCamelJson (.object step)
  | step => Json.snakeToCamelJson step

/-- All the steps, with their indices. -/
def normalizeFunnelSteps (steps : List Json) : List Json :=
  steps.zipIdx.map fun step => normalizeFunnelStep step.1 step.2

/-- A dimension with a limit: a breakdown or a next action. -/
def limitedDimension (key : String) (dimension : Text) (limit : Option Nat) : Json :=
  let value := Json.ofFields [(key, .ofFields [("name", .string dimension)])]
  match limit with
  | some limit => value.insertField (text "limit") (decimalString limit)
  | none => value

/-- The breakdown as it is posted. -/
def FunnelBreakdownArgs.toJson (breakdown : FunnelBreakdownArgs) : Json :=
  limitedDimension "breakdown_dimension" breakdown.breakdownDimension breakdown.limit

/-- The next action as it is posted. -/
def FunnelNextActionArgs.toJson (nextAction : FunnelNextActionArgs) : Json :=
  limitedDimension "next_action_dimension" nextAction.nextActionDimension nextAction.limit

/-- A request of `runFunnelReport`. -/
structure RunFunnelReportRequest where
  propertyId : PropertyId
  funnelSteps : List Json
  isOpenFunnel : Bool
  dateRanges : List Json
  funnelBreakdown : Option Json
  funnelNextAction : Option Json
  funnelVisualizationType : Option Text
  segments : Option (List Json)
  dimensionFilter : Option Json
  limit : Option Nat
  returnPropertyQuota : Bool

/-- The body of a funnel report. -/
def buildRunFunnelReportPayload (request : RunFunnelReportRequest) : JsonMap :=
  []
  |> JsonMap.insert (text "funnel") (.ofFields [
    ("isOpenFunnel", .bool request.isOpenFunnel),
    ("steps", .array (normalizeFunnelSteps request.funnelSteps))])
  |> JsonMap.insert (text "returnPropertyQuota") (.bool request.returnPropertyQuota)
  |> JsonMap.insertSome (text "dateRanges")
    (if request.dateRanges.isEmpty then none else some (camelArray request.dateRanges))
  |> JsonMap.insertSome (text "funnelBreakdown") (request.funnelBreakdown.map .snakeToCamelJson)
  |> JsonMap.insertSome (text "funnelNextAction") (request.funnelNextAction.map .snakeToCamelJson)
  |> JsonMap.insertSome (text "funnelVisualizationType")
    (request.funnelVisualizationType.map .string)
  |> JsonMap.insertSome (text "segments") (request.segments.map camelArray)
  |> JsonMap.insertSome (text "dimensionFilter") (request.dimensionFilter.map .snakeToCamelJson)
  |> JsonMap.insertSome (text "limit") (request.limit.map decimalString)

/-- One post of a funnel report. -/
def AnalyticsClient.runFunnelReport (client : AnalyticsClient) (request : RunFunnelReportRequest) :
    Except AnalyticsError Json := do
  let property ← propertyResourceName request.propertyId
  client.postJson (client.dataBaseUrl ++ text "/v1alpha/" ++ property ++ text ":runFunnelReport")
    (.object (buildRunFunnelReportPayload request))

/-! ## The call -/

/-- The rows that are posted for, and kept of either table. -/
def resolveFunnelReportLimit (maxRows requestedLimit : Option Nat) : Nat :=
  let responseLimit := min (max (maxRows.getD defaultTabularMaxRows) 1) maxTabularMaxRows
  max (min (requestedLimit.getD responseLimit) responseLimit) 1

/-- The request of the handler, with the effective limit. -/
def RunFunnelReportArgs.toRequest (args : RunFunnelReportArgs) : RunFunnelReportRequest where
  propertyId := args.propertyId
  funnelSteps := args.funnelSteps.map FunnelStepArgs.toJson
  isOpenFunnel := args.isOpenFunnel
  dateRanges := args.dateRanges
  funnelBreakdown := args.funnelBreakdown.map FunnelBreakdownArgs.toJson
  funnelNextAction := args.funnelNextAction.map FunnelNextActionArgs.toJson
  funnelVisualizationType := args.funnelVisualizationType.map FunnelVisualizationType.asStr
  segments := args.segments
  dimensionFilter := args.dimensionFilter
  limit := some (resolveFunnelReportLimit args.maxRows args.limit)
  returnPropertyQuota := args.returnPropertyQuota

/-- The one request of a call. -/
def fetchRunFunnelReport (server : ReportServer) (args : RunFunnelReportArgs) :
    Except AnalyticsError Json :=
  server.client.runFunnelReport args.toRequest

/-- The query hash of a funnel. -/
def runFunnelReportQueryHash (hasher : Text → UInt64) (args : RunFunnelReportArgs) :
    Except AnalyticsError Text := do
  let property ← propertyResourceName args.propertyId
  return stableQueryHash hasher (Json.snakeToCamelJson (.ofFields [
    ("tool", .string (text "run_funnel_report")),
    ("property", .string property),
    ("funnel_steps", .array (normalizeFunnelSteps (args.funnelSteps.map FunnelStepArgs.toJson))),
    ("is_open_funnel", .bool args.isOpenFunnel),
    ("date_ranges", .array args.dateRanges),
    ("funnel_breakdown", .ofOption (args.funnelBreakdown.map FunnelBreakdownArgs.toJson)),
    ("funnel_next_action", .ofOption (args.funnelNextAction.map FunnelNextActionArgs.toJson)),
    ("funnel_visualization_type",
      optionalText (args.funnelVisualizationType.map FunnelVisualizationType.asStr)),
    ("segments", .ofOption (args.segments.map .array)),
    ("dimension_filter", .ofOption args.dimensionFilter),
    ("return_property_quota", .bool args.returnPropertyQuota)]))

end Ga4Mcp.Tools
