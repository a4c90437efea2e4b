/-
  The report calls of the upstream client, of `src/ga_client.rs`: resource names, request
  payloads and URLs.

  The upstream is a parameter: `postJson` answers a URL and a body with a JSON value, or
  with an error of the transport, the credentials or the API.
-/
import Ga4Mcp.Error
import Ga4Mcp.Tools.Json

namespace Ga4Mcp.Tools

/-! ## Resource names -/

/-- `PropertyId` and `AccountId`. -/
inductive ResourceId where
  | number (value : Nat)
  | text (value : Text)
deriving DecidableEq, Repr

/-- A property, as the arguments name it. -/
abbrev PropertyId := ResourceId

/-- An account, as the arguments name it. -/
abbrev AccountId := ResourceId

/-- A number, or a text of one with or without the prefix. -/
def parseResourceName (value : ResourceId) (fieldName resourcePrefix expectedMessage : Text) :
    Except AnalyticsError Text :=
  let named := fun number => resourcePrefix ++ text "/" ++ Text.decimal number
  match value with
  | .number number => .ok (named number)
  | .text raw =>
      let trimmed := Text.trim raw
      if trimmed.isEmpty then .error (.invalidArgument fieldName (text "must not be empty"))
      else
        match parseU64 trimmed with
        | some number => .ok (named number)
        | none =>
            match (Text.stripPrefix trimmed (resourcePrefix ++ text "/")).bind parseU64 with
            | some number => .ok (named number)
            | none => .error (.invalidArgument fieldName expectedMessage)

/-- `properties/` and the number. -/
def propertyResourceName (propertyId : PropertyId) : Except AnalyticsError Text :=
  parseResourceName propertyId (text "property_id") (text "properties")
    (text "expected a number or 'properties/<number>'")

/-- `accounts/` and the number. -/
def accountResourceName (accountId : AccountId) : Except AnalyticsError Text :=
  parseResourceName accountId (text "account_id") (text "accounts")
    (text "expected a number or 'accounts/<number>'")

/-! ## Requests -/

/-- The fields that every report request has. -/
structure ReportFields where
  dateRanges : List Json
  dimensions : List Text
  metrics : List Text
  dimensionFilter : Option Json
  metricFilter : Option Json
  orderBys : Option (List Json)

/-- What the client posts of one report. -/
structure BatchRunReportItemRequest extends ReportFields where
  limit : Option Nat
  offset : Option Nat
  currencyCode : Option Text
  returnPropertyQuota : Bool

/-- A request of `runReport`. -/
structure RunReportRequest extends BatchRunReportItemRequest where
  propertyId : PropertyId

/-- A request of `runReport` of the alpha version, with conversions. -/
structure RunConversionsReportRequest extends RunReportRequest where
  conversionSpec : Json

/-- A request of `runPivotReport`. -/
structure RunPivotReportRequest extends ReportFields where
  propertyId : PropertyId
  pivots : List Json
  currencyCode : Option Text
  keepEmptyRows : Bool
  returnPropertyQuota : Bool

/-- A request of `batchRunReports`. -/
structure BatchRunReportsRequest where
  propertyId : PropertyId
  requests : List BatchRunReportItemRequest

/-- A request of `runAccessReport`. -/
structure RunAccessReportRequest extends ReportFields where
  offset : Option Nat
  limit : Option Nat
  timeZone : Option Text

/-! ## Payloads -/

/-- `{"name": …}` for each name. -/
def asNamedEntries (values : List Text) : List Json :=
  values.map fun name => .ofFields [("name", .string (Text.trim name))]

/-- The same under the field name of access reports. -/
def asAccessNamedEntries (values : List Text) (fieldName : Text) : List Json :=
  values.map fun name => .object (JsonMap.insert fieldName (.string (Text.trim name)) [])

/-- An array of camelized values. -/
def camelArray (values : List Json) : Json := .array (values.map Json.snakeToCamelJson)

/-- A number as a text, as the service takes it. -/
def decimalString (value : Nat) : Json := .string (Text.decimal value)

/-- A text without the blanks around it. -/
def trimmedString (value : Text) : Json := .string (Text.trim value)

/-- The body of a report. -/
def buildRunReportPayload (request : BatchRunReportItemRequest) : JsonMap :=
  []
  |> JsonMap.insert (text "dimensions") (.array (asNamedEntries request.dimensions))
  |> JsonMap.insert (text "metrics") (.array (asNamedEntries request.metrics))
  |> JsonMap.insert (text "dateRanges") (camelArray request.dateRanges)
  |> JsonMap.insert (text "returnPropertyQuota") (.bool request.returnPropertyQuota)
  |> JsonMap.insertSome (text "dimensionFilter") (request.dimensionFilter.map .snakeToCamelJson)
  |> JsonMap.insertSome (text "metricFilter") (request.metricFilter.map .snakeToCamelJson)
  |> JsonMap.insertSome (text "orderBys") (request.orderBys.map camelArray)
  |> JsonMap.insertSome (text "limit") (request.limit.map decimalString)
  |> JsonMap.insertSome (text "offset") (request.offset.map decimalString)
  |> JsonMap.insertSome (text "currencyCode") (request.currencyCode.map trimmedString)

/-- The body of a conversions report. -/
def buildRunConversionsReportPayload (request : RunConversionsReportRequest) : JsonMap :=
  buildRunReportPayload request.toBatchRunReportItemRequest
  |> JsonMap.insert (text "conversionSpec") request.conversionSpec.snakeToCamelJson

/-- The payload of `run_pivot_report`. -/
def buildRunPivotReportPayload (request : RunPivotReportRequest) : JsonMap :=
  []
  |> JsonMap.insert (text "dimensions") (.array (asNamedEntries request.dimensions))
  |> JsonMap.insert (text "metrics") (.array (asNamedEntries request.metrics))
  |> JsonMap.insert (text "dateRanges") (camelArray request.dateRanges)
  |> JsonMap.insert (text "pivots") (camelArray request.pivots)
  |> JsonMap.insert (text "keepEmptyRows") (.bool request.keepEmptyRows)
  |> JsonMap.insert (text "returnPropertyQuota") (.bool request.returnPropertyQuota)
  |> JsonMap.insertSome (text "dimensionFilter") (request.dimensionFilter.map .snakeToCamelJson)
  |> JsonMap.insertSome (text "metricFilter") (request.metricFilter.map .snakeToCamelJson)
  |> JsonMap.insertSome (text "orderBys") (request.orderBys.map camelArray)
  |> JsonMap.insertSome (text "currencyCode") (request.currencyCode.map trimmedString)

/-- The body of an access report. -/
def buildAccessReportPayload (request : RunAccessReportRequest) : JsonMap :=
  []
  |> JsonMap.insert (text "dateRanges") (camelArray request.dateRanges)
  |> JsonMap.insert (text "dimensions")
    (.array (asAccessNamedEntries request.dimensions (text "dimensionName")))
  |> JsonMap.insert (text "metrics")
    (.array (asAccessNamedEntries request.metrics (text "metricName")))
  |> JsonMap.insertSome (text "dimensionFilter") (request.dimensionFilter.map .snakeToCamelJson)
  |> JsonMap.insertSome (text "metricFilter") (request.metricFilter.map .snakeToCamelJson)
  |> JsonMap.insertSome (text "orderBys") (request.orderBys.map camelArray)
  |> JsonMap.insertSome (text "offset") (request.offset.map decimalString)
  |> JsonMap.insertSome (text "limit") (request.limit.map decimalString)
  |> JsonMap.insertSome (text "timeZone") (request.timeZone.map trimmedString)

/-! ## Calls -/

/-- The client: where it posts, and what comes back. -/
structure AnalyticsClient where
  dataBaseUrl : Text
  adminBaseUrl : Text
  postJson : Text → Json → Except AnalyticsError Json

namespace AnalyticsClient

variable (client : AnalyticsClient)

/-- One post of a report. -/
def runReport (request : RunReportRequest) : Except AnalyticsError Json := do
  let property ← propertyResourceName request.propertyId
  client.postJson (client.dataBaseUrl ++ text "/v1beta/" ++ property ++ text ":runReport")
    (.object (buildRunReportPayload request.toBatchRunReportItemRequest))

/-- One post of a conversions report. -/
def runConversionsReport (request : RunConversionsReportRequest) : Except AnalyticsError Json := do
  let property ← propertyResourceName request.propertyId
  client.postJson (client.dataBaseUrl ++ text "/v1alpha/" ++ property ++ text ":runReport")
    (.object (buildRunConversionsReportPayload request))

/-- One post of a pivot report. -/
def runPivotReport (request : RunPivotReportRequest) : Except AnalyticsError Json := do
  let property ← propertyResourceName request.propertyId
  client.postJson (client.dataBaseUrl ++ text "/v1beta/" ++ property ++ text ":runPivotReport")
    (.object (buildRunPivotReportPayload request))

/-- One post of all the reports of a batch. -/
def batchRunReports (request : BatchRunReportsRequest) : Except AnalyticsError Json := do
  let property ← propertyResourceName request.propertyId
  client.postJson (client.dataBaseUrl ++ text "/v1beta/" ++ property ++ text ":batchRunReports")
    (.ofFields [("requests",
      .array (request.requests.map fun item => .object (buildRunReportPayload item)))])

/-- The common part of the two access reports. -/
def runAccessReport (resource : Except AnalyticsError Text) (request : RunAccessReportRequest) :
    Except AnalyticsError Json := do
  let resource ← resource
  client.postJson (client.adminBaseUrl ++ text "/v1beta/" ++ resource ++ text ":runAccessReport")
    (.object (buildAccessReportPayload request))

/-- One post about a property. -/
def runPropertyAccessReport (propertyId : PropertyId) (request : RunAccessReportRequest) :
    Except AnalyticsError Json :=
  client.runAccessReport (propertyResourceName propertyId) request

/-- One post about an account. -/
def runAccountAccessReport (accountId : AccountId) (request : RunAccessReportRequest) :
    Except AnalyticsError Json :=
  client.runAccessReport (accountResourceName accountId) request

end AnalyticsClient

end Ga4Mcp.Tools
