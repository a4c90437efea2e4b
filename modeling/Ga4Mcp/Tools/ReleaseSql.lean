/-
  The SQL texts of the release helpers, of `src/tools.rs`: the checks of
  `scratchpad_release_regression_report` and `scratchpad_landing_param_shift_report`, and
  the two templates.

  A template is a list of `Piece`: fixed text, and the places where `format!` puts an
  argument. The quotes around an argument belong to its piece.
-/
import Ga4Mcp.Tools.DuckRows
import Ga4Mcp.Tools.ReportArgs

namespace Ga4Mcp.Tools

open Ga4Mcp.Lib

/-! ## Splices -/

/-- `str::replace` of a character by two of it. -/
def doubled (c : Char) (raw : Text) : Text := raw.flatMap fun d => if d = c then [c, c] else [d]

/-- The single quotes of a text, doubled. -/
def escapeSqlLiteral (raw : Text) : Text := doubled '\'' raw

/-- A name between double quotes. -/
def quoteSqlIdentifier (identifier : Text) : Text := ['"'] ++ doubled '"' identifier ++ ['"']

/-- A part of a template. -/
inductive Piece where
  | sql (fixed : String)
  /-- `quote_sql_identifier` of an argument. -/
  | name (identifier : Text)
  /-- `'…'` around `escape_sql_literal` of its text. -/
  | literal (raw : Text)
  /-- `'… day'` around a number. -/
  | days (count : Nat)
  | number (value : Nat)
deriving DecidableEq

instance : Coe String Piece := ⟨.sql⟩

/-- How a part is written. -/
def Piece.write : Piece → Text
  | .sql fixed => text fixed
  | .name identifier => quoteSqlIdentifier identifier
  | .literal raw => ['\''] ++ escapeSqlLiteral raw ++ ['\'']
  | .days count => ['\''] ++ Text.decimal count ++ text " day" ++ ['\'']
  | .number value => Text.decimal value

theorem doubled_of_notMem {c : Char} {raw : Text} (h : c ∉ raw) : doubled c raw = raw := by
  induction raw with
  | nil => rfl
  | cons d raw ih =>
      rw [List.mem_cons, not_or] at h
      rw [doubled, List.flatMap_cons, ← doubled, if_neg (Ne.symm h.1), ih h.2]
      rfl

/-- A number of days is a literal that needs no escape. -/
theorem write_days (count : Nat) :
    (Piece.days count).write = (Piece.literal (Text.decimal count ++ text " day")).write := by
  have hquote : '\'' ∉ Text.decimal count ++ text " day" := by
    rw [List.mem_append, not_or]
    exact ⟨fun h => absurd (Text.isDigit_of_mem_decimal h) (by decide), by decide⟩
  rw [Piece.write, Piece.write, escapeSqlLiteral, doubled_of_notMem hquote]
  simp only [List.append_assoc]

/-- How a template is written. -/
def writePieces (pieces : List Piece) : Text := pieces.flatMap Piece.write

/-! ## Arguments -/

/-- A table name as an identifier, not too long. -/
def normalizeTableIdentifier (raw : Text) : Except AnalyticsError Text := do
  let normalized := normalizeSqlIdentifier raw (text "table")
  refuseIf (Text.len normalized > 63) (.invalidArgument (text "table_name")
    (text "normalized table name must be <= 63 characters"))
  return normalized

/-- An error about the release date. -/
def releaseDateError (message : String) : AnalyticsError :=
  .invalidArgument (text "release_date") (text message)

/-- The last day of a month. -/
def maxDay (year month : Nat) : Nat :=
  match month with
  | 1 | 3 | 5 | 7 | 8 | 10 | 12 => 31
  | 4 | 6 | 9 | 11 => 30
  | 2 => if (year % 4 = 0 ∧ year % 100 ≠ 0) ∨ year % 400 = 0 then 29 else 28
  | _ => 31

/-- The checks are on bytes; only ASCII passes them. -/
def parseIsoDateLiteral (raw : Text) : Except AnalyticsError Text := do
  let value := Text.trim raw
  refuseIf (value.length ≠ 10 ∨ value[4]? ≠ some '-' ∨ value[7]? ≠ some '-')
    (releaseDateError "must use YYYY-MM-DD format")
  refuseIf (¬ value.zipIdx.all fun c => c.2 = 4 ∨ c.2 = 7 ∨ c.1.isDigit)
    (releaseDateError "must use YYYY-MM-DD format")
  let number := fun first last => Nat.ofDigitChars 10 ((value.take last).drop first) 0
  refuseIf (number 5 7 = 0 ∨ number 5 7 > 12) (releaseDateError "month must be between 01 and 12")
  refuseIf (number 8 10 = 0 ∨ number 8 10 > maxDay (number 0 4) (number 5 7))
    (releaseDateError "day is out of range for the given month")
  return value

def maxReleaseWindowDays : Nat := 90

def defaultReleasePreDays : Nat := 7

def defaultReleaseTransitionDays : Nat := 1

def defaultReleasePostDays : Nat := 7

def defaultLandingShiftTopN : Nat := 100

def maxLandingShiftTopN : Nat := 1000

/-- The common check of the window lengths and of `top_n`. -/
def resolvePositiveUpTo (limit : Nat) (value : Option Nat) (defaultValue : Nat) (field : String) :
    Except AnalyticsError Nat := do
  let resolved := value.getD defaultValue
  refuseIf (resolved = 0)
    (.invalidArgument (text field) (text "must be greater than zero"))
  refuseIf (resolved > limit)
    (.invalidArgument (text field) (text "must be <= " ++ Text.decimal limit))
  return resolved

/-- The days of a window. -/
def resolveReleaseWindowDays (value : Option Nat) (defaultValue : Nat) (field : String) :
    Except AnalyticsError Nat :=
  resolvePositiveUpTo maxReleaseWindowDays value defaultValue field

/-- The rows of the landing report. -/
def resolveLandingShiftTopN (value : Option Nat) : Except AnalyticsError Nat :=
  resolvePositiveUpTo maxLandingShiftTopN value defaultLandingShiftTopN "top_n"

theorem resolvePositiveUpTo_ok {limit : Nat} {value : Option Nat} {defaultValue resolved : Nat}
    {field : String} (h : resolvePositiveUpTo limit value defaultValue field = .ok resolved) :
    0 < resolved ∧ resolved ≤ limit := by
  obtain ⟨⟨⟩, hzero, h⟩ := bind_eq_ok.mp h
  obtain ⟨⟨⟩, hlimit, h⟩ := bind_eq_ok.mp h
  obtain rfl := pure_eq_ok.mp h
  exact ⟨Nat.pos_of_ne_zero (refuseIf_eq_ok.mp hzero), Nat.not_lt.mp (refuseIf_eq_ok.mp hlimit)⟩

/-! ## Release regression -/

/-- The arguments that go into the text. -/
structure ScratchpadReleaseRegressionArgs where
  tableName : Text
  releaseDate : Text
  anchorEvent : Text
  comparisonEvent : Text
  dateColumn : Option Text
  eventColumn : Option Text
  metricColumn : Option Text
  preDays : Option Nat
  transitionDays : Option Nat
  postDays : Option Nat

/-- The parameters of `build_release_regression_sql`. -/
structure ReleaseRegressionParams where
  normalizedTableName : Text
  releaseDate : Text
  anchorEvent : Text
  comparisonEvent : Text
  dateColumn : Text
  eventColumn : Text
  metricColumn : Option Text
  preDays : Nat
  transitionDays : Nat
  postDays : Nat
deriving DecidableEq

/-- What the handler of `scratchpad_release_regression_report` does before it builds the
    text. -/
def releaseRegressionParams (args : ScratchpadReleaseRegressionArgs) :
    Except AnalyticsError ReleaseRegressionParams := do
  let normalizedTableName ← normalizeTableIdentifier args.tableName
  let releaseDate ← parseIsoDateLiteral args.releaseDate
  let anchorEvent := Text.trim args.anchorEvent
  refuseIf anchorEvent.isEmpty (.invalidArgument (text "anchor_event") (text "must not be empty"))
  let comparisonEvent := Text.trim args.comparisonEvent
  refuseIf comparisonEvent.isEmpty
    (.invalidArgument (text "comparison_event") (text "must not be empty"))
  refuseIf (anchorEvent = comparisonEvent)
    (.invalidArgument (text "comparison_event") (text "must be different from anchor_event"))
  let preDays ← resolveReleaseWindowDays args.preDays defaultReleasePreDays "pre_days"
  let transitionDays ← resolveReleaseWindowDays args.transitionDays defaultReleaseTransitionDays
    "transition_days"
  let postDays ← resolveReleaseWindowDays args.postDays defaultReleasePostDays "post_days"
  return {
    normalizedTableName, releaseDate, anchorEvent, comparisonEvent, preDays, transitionDays,
    postDays
    dateColumn := normalizeSqlIdentifier (args.dateColumn.getD (text "date")) (text "date")
    eventColumn := normalizeSqlIdentifier (args.eventColumn.getD (text "event_name"))
      (text "event")
    metricColumn := args.metricColumn.map fun value =>
      normalizeSqlIdentifier value (text "metric") }

def metricExpr : Option Text → List Piece
  | none => ["1.0"]
  | some column => ["COALESCE(TRY_CAST(", .name column, " AS DOUBLE), 0.0)"]

namespace ReleaseRegressionParams

/-- The rows of the table, with a date. -/
def normalizedSql (p : ReleaseRegressionParams) : List Piece :=
  ([ "WITH normalized AS (\n",
    "            SELECT\n",
    "                COALESCE(\n",
    "                    TRY_CAST(", .name p.dateColumn, " AS DATE),\n",
    "                    CAST(TRY_STRPTIME(CAST(", .name p.dateColumn,
      " AS VARCHAR), '%Y%m%d') AS DATE),\n",
    "                    CAST(TRY_STRPTIME(CAST(", .name p.dateColumn,
      " AS VARCHAR), '%Y-%m-%d') AS DATE)\n",
    "                ) AS event_date,\n",
    "                CAST(", .name p.eventColumn, " AS VARCHAR) AS event_name,\n",
    "                " ] : List Piece) ++
  metricExpr p.metricColumn ++
  ([ " AS metric_value\n",
    "            FROM ", .name p.normalizedTableName, "\n",
    "        ),\n" ] : List Piece)

/-- The rows with their period. -/
def windowedSql (p : ReleaseRegressionParams) : List Piece :=
  ([ "        windowed AS (\n",
    "            SELECT\n",
    "                CASE\n",
    "                    WHEN event_date >= DATE ", .literal p.releaseDate, " - INTERVAL ",
      .days p.preDays, "\n",
    "                     AND event_date < DATE ", .literal p.releaseDate, " THEN 'pre'\n",
    "                    WHEN event_date >= DATE ", .literal p.releaseDate, "\n",
    "                     AND event_date < DATE ", .literal p.releaseDate, " + INTERVAL ",
      .days p.transitionDays, " THEN 'transition'\n",
    "                    WHEN event_date >= DATE ", .literal p.releaseDate, " + INTERVAL ",
      .days p.transitionDays, "\n" ] : List Piece) ++
  ([ "                     AND event_date < DATE ", .literal p.releaseDate, " + INTERVAL ",
      .days p.postDays, " THEN 'post'\n",
    "                    ELSE NULL\n",
    "                END AS period,\n",
    "                event_name,\n",
    "                metric_value\n",
    "            FROM normalized\n",
    "            WHERE event_date IS NOT NULL\n",
    "        ),\n" ] : List Piece)

/-- The sums of each day. -/
def dailySql (p : ReleaseRegressionParams) : List Piece :=
  [ "        daily AS (\n",
    "            SELECT\n",
    "                period,\n",
    "                event_date,\n",
    "                SUM(CASE WHEN event_name = ", .literal p.anchorEvent,
      " THEN metric_value ELSE 0 END) AS anchor_value,\n",
    "                SUM(CASE WHEN event_name = ", .literal p.comparisonEvent,
      " THEN metric_value ELSE 0 END) AS comparison_value\n",
    "            FROM windowed\n",
    "            WHERE period IS NOT NULL\n",
    "            GROUP BY period, event_date\n",
    "        ),\n" ]

/-- The ratio of each day. -/
def dailyRatioSql : List Piece :=
  [ "        daily_ratio AS (\n",
    "            SELECT\n",
    "                period,\n",
    "                event_date,\n",
    "                anchor_value,\n",
    "                comparison_value,\n",
    "                CASE WHEN comparison_value > 0 THEN anchor_value / comparison_value",
      " END AS ratio_value\n",
    "            FROM daily\n",
    "        ),\n" ]

/-- The ratios of each period. -/
def statsSql : List Piece :=
  [ "        stats AS (\n",
    "            SELECT\n",
    "                period,\n",
    "                COUNT(*) FILTER (WHERE ratio_value IS NOT NULL) AS ratio_n_days,\n",
    "                AVG(ratio_value) AS ratio_mean,\n",
    "                STDDEV_SAMP(ratio_value) AS ratio_sd\n",
    "            FROM daily_ratio\n",
    "            GROUP BY period\n",
    "        ),\n" ]

/-- The sums of each period. -/
def aggregatedSql (p : ReleaseRegressionParams) : List Piece :=
  [ "        aggregated AS (\n",
    "            SELECT\n",
    "                period,\n",
    "                SUM(CASE WHEN event_name = ", .literal p.anchorEvent,
      " THEN metric_value ELSE 0 END) AS anchor_value,\n",
    "                SUM(CASE WHEN event_name = ", .literal p.comparisonEvent,
      " THEN metric_value ELSE 0 END) AS comparison_value\n",
    "            FROM windowed\n",
    "            WHERE period IS NOT NULL\n",
    "            GROUP BY period\n",
    "        ),\n" ]

/-- One row with the sums and ratios of every period. -/
def rolledSql : List Piece :=
  [ "        rolled AS (\n",
    "            SELECT\n",
    "                COALESCE(MAX(CASE WHEN period = 'pre' THEN anchor_value END), 0.0)",
      " AS anchor_pre,\n",
    "                COALESCE(MAX(CASE WHEN period = 'transition' THEN anchor_value",
      " END), 0.0) AS anchor_transition,\n",
    "                COALESCE(MAX(CASE WHEN period = 'post' THEN anchor_value END), 0.0)",
      " AS anchor_post,\n",
    "                COALESCE(MAX(CASE WHEN period = 'pre' THEN comparison_value END),",
      " 0.0) AS comparison_pre,\n",
    "                COALESCE(MAX(CASE WHEN period = 'transition' THEN comparison_value",
      " END), 0.0) AS comparison_transition,\n",
    "                COALESCE(MAX(CASE WHEN period = 'post' THEN comparison_value END),",
      " 0.0) AS comparison_post,\n",
    "                COALESCE(MAX(CASE WHEN period = 'pre' THEN ratio_n_days END), 0) AS",
      " ratio_n_pre,\n",
    "                COALESCE(MAX(CASE WHEN period = 'post' THEN ratio_n_days END), 0)",
      " AS ratio_n_post,\n",
    "                MAX(CASE WHEN period = 'pre' THEN ratio_mean END) AS ratio_mean_pre,\n",
    "                MAX(CASE WHEN period = 'post' THEN ratio_mean END) AS ratio_mean_post,\n",
    "                MAX(CASE WHEN period = 'pre' THEN ratio_sd END) AS ratio_sd_pre,\n",
    "                MAX(CASE WHEN period = 'post' THEN ratio_sd END) AS ratio_sd_post\n",
    "            FROM aggregated\n",
    "            LEFT JOIN stats USING (period)\n",
    "        ),\n" ]

/-- That row with ratios of sums. -/
def ratioedSql : List Piece :=
  [ "        ratioed AS (\n",
    "            SELECT\n",
    "                *,\n",
    "                CASE WHEN comparison_pre > 0 THEN anchor_pre / comparison_pre END",
      " AS ratio_pre,\n",
    "                CASE WHEN comparison_post > 0 THEN anchor_post / comparison_post",
      " END AS ratio_post,\n",
    "                CASE\n",
    "                    WHEN ratio_mean_pre IS NOT NULL AND ratio_mean_post IS NOT NULL\n",
    "                        THEN ratio_mean_post - ratio_mean_pre\n",
    "                    ELSE NULL\n",
    "                END AS ratio_mean_delta,\n",
    "                CASE\n",
    "                    WHEN ratio_n_pre > 1 AND ratio_n_post > 1 THEN\n",
    "                        SQRT(\n",
    "                            (COALESCE(ratio_sd_pre, 0.0) * COALESCE(ratio_sd_pre,",
      " 0.0) / ratio_n_pre) +\n",
    "                            (COALESCE(ratio_sd_post, 0.0) * COALESCE(ratio_sd_post,",
      " 0.0) / ratio_n_post)\n",
    "                        )\n",
    "                    ELSE NULL\n",
    "                END AS ratio_mean_delta_se\n",
    "            FROM rolled\n",
    "        )\n" ]

/-- What is shown of it. -/
def bodySql (p : ReleaseRegressionParams) : List Piece :=
  ([ "        SELECT\n",
    "            DATE ", .literal p.releaseDate, " AS release_date,\n",
    "            ", .literal p.anchorEvent, " AS anchor_event,\n",
    "            ", .literal p.comparisonEvent, " AS comparison_event,\n",
    "            anchor_pre,\n",
    "            anchor_transition,\n",
    "            anchor_post,\n",
    "            comparison_pre,\n",
    "            comparison_transition,\n",
    "            comparison_post,\n",
    "            ratio_pre,\n",
    "            ratio_post,\n",
    "            ratio_n_pre,\n",
    "            ratio_n_post,\n",
    "            ratio_mean_pre,\n",
    "            ratio_mean_post,\n",
    "            ratio_sd_pre,\n",
    "            ratio_sd_post,\n",
    "            ratio_mean_delta,\n",
    "            ratio_mean_delta_se,\n",
    "            CASE\n",
    "                WHEN ratio_mean_delta_se IS NOT NULL AND ratio_mean_delta_se > 0",
      " AND ratio_mean_delta IS NOT NULL\n" ] : List Piece) ++
  ([ "                    THEN ratio_mean_delta / ratio_mean_delta_se\n",
    "                ELSE NULL\n",
    "            END AS ratio_mean_delta_z,\n",
    "            CASE\n",
    "                WHEN ratio_pre IS NOT NULL AND ratio_pre != 0 AND ratio_post IS NOT NULL\n",
    "                    THEN ((ratio_post - ratio_pre) / ratio_pre) * 100\n",
    "                ELSE NULL\n",
    "            END AS ratio_delta_pct,\n",
    "            CASE\n",
    "                WHEN anchor_pre = 0 AND comparison_pre = 0 THEN 'insufficient_baseline'\n",
    "                WHEN ratio_pre IS NULL OR ratio_post IS NULL THEN",
      " 'insufficient_compare_volume'\n",
    "                WHEN anchor_post < anchor_pre * 0.65 AND comparison_post >=",
      " comparison_pre * 0.90\n",
    "                    THEN 'likely_instrumentation_break'\n",
    "                WHEN anchor_post < anchor_pre * 0.75 AND comparison_post <",
      " comparison_pre * 0.75\n",
    "                    THEN 'likely_behavior_shift'\n",
    "                WHEN ratio_pre > 0 AND ABS((ratio_post - ratio_pre) / ratio_pre) <= 0.20\n",
    "                    THEN 'likely_stable'\n",
    "                ELSE 'inconclusive'\n",
    "            END AS confidence_flag\n",
    "        FROM ratioed" ] : List Piece)

/-- The SQL text of the report. -/
def template (p : ReleaseRegressionParams) : List Piece :=
  p.normalizedSql ++ p.windowedSql ++ p.dailySql ++ dailyRatioSql ++ statsSql ++
    p.aggregatedSql ++ rolledSql ++ ratioedSql ++ p.bodySql

end ReleaseRegressionParams

def buildReleaseRegressionSql (p : ReleaseRegressionParams) : Text :=
  writePieces p.template

/-! ## Landing parameters -/

/-- The arguments that go into the text. -/
structure ScratchpadLandingParamShiftArgs where
  tableName : Text
  releaseDate : Text
  dateColumn : Option Text
  landingUrlColumn : Option Text
  channelColumn : Option Text
  sourceMediumColumn : Option Text
  preDays : Option Nat
  transitionDays : Option Nat
  postDays : Option Nat
  topN : Option Nat

/-- The parameters of `build_landing_param_shift_sql`. -/
structure LandingParamShiftParams where
  normalizedTableName : Text
  releaseDate : Text
  dateColumn : Text
  landingUrlColumn : Text
  channelColumn : Option Text
  sourceMediumColumn : Option Text
  preDays : Nat
  transitionDays : Nat
  postDays : Nat
  topN : Nat
deriving DecidableEq

/-- What the handler of `scratchpad_landing_param_shift_report` does before it builds the
    text. -/
def landingParamShiftParams (args : ScratchpadLandingParamShiftArgs) :
    Except AnalyticsError LandingParamShiftParams := do
  let normalizedTableName ← normalizeTableIdentifier args.tableName
  let releaseDate ← parseIsoDateLiteral args.releaseDate
  let preDays ← resolveReleaseWindowDays args.preDays defaultReleasePreDays "pre_days"
  let transitionDays ← resolveReleaseWindowDays args.transitionDays defaultReleaseTransitionDays
    "transition_days"
  let postDays ← resolveReleaseWindowDays args.postDays defaultReleasePostDays "post_days"
  let topN ← resolveLandingShiftTopN args.topN
  return {
    normalizedTableName, releaseDate, preDays, transitionDays, postDays, topN
    dateColumn := normalizeSqlIdentifier (args.dateColumn.getD (text "date_parsed")) (text "date")
    landingUrlColumn := normalizeSqlIdentifier
      (args.landingUrlColumn.getD (text "landingpageplusquerystring")) (text "landing_url")
    channelColumn := args.channelColumn.map fun value =>
      normalizeSqlIdentifier value (text "channel")
    sourceMediumColumn := args.sourceMediumColumn.map fun value =>
      normalizeSqlIdentifier value (text "source_medium") }

/-- `channel_expr` and `source_medium_expr`. -/
def groupExpr : Option Text → List Piece
  | none => [.literal (text "all")]
  | some column => ["COALESCE(CAST(", .name column, " AS VARCHAR), 'all')"]

namespace LandingParamShiftParams

/-- Far from leaving `u32`, for accepted lengths. -/
def postWindowDays (p : LandingParamShiftParams) : Nat := p.transitionDays + p.postDays

/-- The rows of the table, with a date, a URL and two groups. -/
def normalizedSql (p : LandingParamShiftParams) : List Piece :=
  ([ "WITH normalized AS (\n",
    "            SELECT\n",
    "                COALESCE(\n",
    "                    TRY_CAST(", .name p.dateColumn, " AS DATE),\n",
    "                    CAST(TRY_STRPTIME(CAST(", .name p.dateColumn,
      " AS VARCHAR), '%Y%m%d') AS DATE),\n",
    "                    CAST(TRY_STRPTIME(CAST(", .name p.dateColumn,
      " AS VARCHAR), '%Y-%m-%d') AS DATE)\n",
    "                ) AS event_date,\n",
    "                CAST(", .name p.landingUrlColumn, " AS VARCHAR) AS landing_url,\n",
    "                " ] : List Piece) ++
  groupExpr p.channelColumn ++
  ([ " AS channel,\n",
    "                " ] : List Piece) ++
  groupExpr p.sourceMediumColumn ++
  ([ " AS source_medium\n",
    "            FROM ", .name p.normalizedTableName, "\n",
    "        ),\n" ] : List Piece)

/-- The rows with their period and the parts of the URL. -/
def windowedSql (p : LandingParamShiftParams) : List Piece :=
  ([ "        windowed AS (\n",
    "            SELECT\n",
    "                CASE\n",
    "                    WHEN event_date >= DATE ", .literal p.releaseDate, " - INTERVAL ",
      .days p.preDays, "\n",
    "                     AND event_date < DATE ", .literal p.releaseDate, " THEN 'pre'\n",
    "                    WHEN event_date >= DATE ", .literal p.releaseDate, " + INTERVAL ",
      .days p.transitionDays, "\n",
    "                     AND event_date < DATE ", .literal p.releaseDate, " + INTERVAL ",
      .days p.postWindowDays, " THEN 'post'\n",
    "                    ELSE NULL\n",
    "                END AS period,\n",
    "                channel,\n",
    "                source_medium,\n" ] : List Piece) ++
  ([ "                COALESCE(NULLIF(split_part(landing_url, '?', 1), ''), '(none)') AS",
      " landing_path,\n",
    "                split_part(landing_url, '?', 2) AS query_string\n",
    "            FROM normalized\n",
    "            WHERE event_date IS NOT NULL\n",
    "        ),\n" ] : List Piece)

/-- One row for each parameter. -/
def explodedSql : List Piece :=
  [ "        exploded AS (\n",
    "            SELECT\n",
    "                period,\n",
    "                channel,\n",
    "                source_medium,\n",
    "                landing_path,\n",
    "                CASE\n",
    "                    WHEN strpos(param_pair, '=') > 0 THEN",
      " lower(split_part(param_pair, '=', 1))\n",
    "                    ELSE lower(param_pair)\n",
    "                END AS param_key,\n",
    "                CASE\n",
    "                    WHEN strpos(param_pair, '=') > 0 THEN",
      " NULLIF(split_part(param_pair, '=', 2), '')\n",
    "                    ELSE NULL\n",
    "                END AS param_value\n",
    "            FROM windowed\n",
    "            CROSS JOIN UNNEST(\n",
    "                CASE\n",
    "                    WHEN query_string IS NULL OR query_string = '' THEN ['']\n",
    "                    ELSE string_split(query_string, '&')\n",
    "                END\n",
    "            ) AS pairs(param_pair)\n",
    "            WHERE period IN ('pre', 'post')\n",
    "        ),\n" ]

/-- The rows of each parameter and group, in each period. -/
def aggregatedSql : List Piece :=
  [ "        aggregated AS (\n",
    "            SELECT\n",
    "                channel,\n",
    "                source_medium,\n",
    "                landing_path,\n",
    "                param_key,\n",
    "                COALESCE(param_value, '(empty)') AS param_value,\n",
    "                SUM(CASE WHEN period = 'pre' THEN 1 ELSE 0 END) AS pre_rows,\n",
    "                SUM(CASE WHEN period = 'post' THEN 1 ELSE 0 END) AS post_rows\n",
    "            FROM exploded\n",
    "            WHERE param_key IS NOT NULL AND param_key <> ''\n",
    "            GROUP BY\n",
    "                channel,\n",
    "                source_medium,\n",
    "                landing_path,\n",
    "                param_key,\n",
    "                COALESCE(param_value, '(empty)')\n",
    "        ),\n" ]

/-- Their differences. -/
def scoredSql : List Piece :=
  [ "        scored AS (\n",
    "            SELECT\n",
    "                channel,\n",
    "                source_medium,\n",
    "                landing_path,\n",
    "                param_key,\n",
    "                param_value,\n",
    "                md5(param_key || '=' || param_value) AS param_signature,\n",
    "                pre_rows,\n",
    "                post_rows,\n",
    "                post_rows - pre_rows AS delta_rows,\n",
    "                CASE\n",
    "                    WHEN pre_rows > 0 THEN ((post_rows - pre_rows) * 100.0) / pre_rows\n",
    "                    ELSE NULL\n",
    "                END AS delta_pct,\n",
    "                CASE\n",
    "                    WHEN pre_rows = 0 AND post_rows > 0 THEN 'new_in_post'\n",
    "                    WHEN pre_rows > 0 AND post_rows = 0 THEN 'disappeared_post'\n",
    "                    ELSE 'shifted'\n",
    "                END AS shift_type\n",
    "            FROM aggregated\n",
    "        ),\n" ]

/-- And ranks. -/
def rankedSql : List Piece :=
  [ "        ranked AS (\n",
    "            SELECT\n",
    "                *,\n",
    "                ROW_NUMBER() OVER (\n",
    "                    ORDER BY ABS(delta_rows) DESC, post_rows DESC, pre_rows DESC,",
      " channel, source_medium, landing_path, param_key, param_value\n",
    "                ) AS rank_by_abs_delta\n",
    "            FROM scored\n",
    "        )\n" ]

/-- What is shown of them. -/
def bodySql (p : LandingParamShiftParams) : List Piece :=
  [ "        SELECT\n",
    "            DATE ", .literal p.releaseDate, " AS release_date,\n",
    "            channel,\n",
    "            source_medium,\n",
    "            landing_path,\n",
    "            param_key,\n",
    "            param_value,\n",
    "            param_signature,\n",
    "            pre_rows,\n",
    "            post_rows,\n",
    "            delta_rows,\n",
    "            delta_pct,\n",
    "            shift_type,\n",
    "            rank_by_abs_delta\n",
    "        FROM ranked\n",
    "        WHERE rank_by_abs_delta <= ", .number p.topN, "\n",
    "        ORDER BY rank_by_abs_delta" ]

/-- The SQL text of the report. -/
def template (p : LandingParamShiftParams) : List Piece :=
  p.normalizedSql ++ p.windowedSql ++ explodedSql ++ aggregatedSql ++ scoredSql ++ rankedSql ++
    p.bodySql

end LandingParamShiftParams

def buildLandingParamShiftSql (p : LandingParamShiftParams) : Text :=
  writePieces p.template

end Ga4Mcp.Tools
