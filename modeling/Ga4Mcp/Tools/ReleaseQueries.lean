/-
  The release texts as SQL queries.

  Each common table expression is written as a query with the arguments in it, and the
  text is shown to read as these queries: the labelled template is read by evaluation, and
  the arguments are put into the result (`readQuery_pieces`).

  * `ReleaseRegressionParams.readQuery_eq`, `LandingParamShiftParams.readQuery_eq`.
-/
import Ga4Mcp.Lib.Sql.Parser
import Ga4Mcp.Tools.ReleaseTemplates

namespace Ga4Mcp.Tools

open Ga4Mcp.Lib.Sql

/-! ## Reading filled templates -/

/-- What a token of a template carries: fixed text, or what fills a hole. -/
inductive Payload where
  | fixed (t : Text)
  | name (label : Text)
  | literal (label : Text)
  | days (label : Nat)
  | number (label : Nat)
deriving DecidableEq

/-- A payload has a text when it is fixed. -/
def Payload.carrier : Carrier Payload where
  ofText := .fixed
  text?
    | .fixed t => some t
    | _ => none

/-- The text of a payload, under what fills the holes. -/
def Fill.value (f : Fill) : Payload → Text
  | .fixed t => t
  | .name label => f.name label
  | .literal label => f.literal label
  | .days label => Text.decimal (f.days label) ++ text " day"
  | .number label => Text.decimal (f.number label)

theorem Fill.hom (f : Fill) : Payload.carrier.Hom Carrier.text f.value where
  ofText _ := rfl
  text? v t h := by
    cases v with
    | fixed t' => exact h
    | _ => cases h

/-- A hole in quotes: they open, and the next character does not go on with them. -/
def lexHole (s : Lexer Payload) (quote : Quote) (payload : Payload) : Option (Lexer Payload) :=
  (s.step Payload.carrier quote.char).bind fun s =>
    if s.mode = .inside quote [] then some ⟨.ending (quote.token payload), s.tokens⟩ else none

/-- The state of the lexer behind a part of a template. -/
def lexShape (s : Lexer Payload) : Shape → Option (Lexer Payload)
  | .fixed chars => chars.foldlM (Lexer.step Payload.carrier) s
  | .name label => lexHole s .name (.name label)
  | .literal label => lexHole s .string (.literal label)
  | .days label => lexHole s .string (.days label)
  | .number label =>
      if s.mode = .blank then some ⟨.ending (.number (.number label)), s.tokens⟩ else none

/-- The tokens of a template. -/
def lexShapes (shapes : List Shape) : Option (List (Token Payload)) :=
  (shapes.foldlM lexShape Lexer.start).bind Lexer.finish

theorem lexHole_fill {s s' : Lexer Payload} {quote : Quote} {payload : Payload} (f : Fill)
    (h : lexHole s quote payload = some s') :
    ([quote.char] ++ doubled quote.char (f.value payload) ++ [quote.char]).foldlM
      (Lexer.step Carrier.text) (s.map f.value) = some (s'.map f.value) := by
  obtain ⟨s₁, hopen, h⟩ := Option.bind_eq_some_iff.mp h
  split at h
  case isFalse => cases h
  case isTrue hmode =>
    cases h
    obtain ⟨mode, tokens⟩ := s₁
    obtain rfl : mode = .inside quote [] := hmode
    have hstart := f.hom.step hopen
    have hread := foldlM_quoted quote (f.value payload) [] (tokens.map (Token.map f.value))
    rw [List.append_assoc, List.singleton_append, List.foldlM_cons, hstart]
    change ((doubled quote.char (f.value payload) ++ [quote.char]).foldlM
      (Lexer.step Carrier.text) ⟨.inside quote [], tokens.map (Token.map f.value)⟩) = _
    rw [List.foldlM_append, doubled, hread]
    cases quote <;> simp [Lexer.step, Quote.token, Carrier.text, Lexer.map, Mode.map, Token.map]

theorem decimal_ne_nil (n : Nat) : Text.decimal n ≠ [] := Nat.toDigits_ne_nil

theorem lexShape_fill {piece : Piece} {shape : Shape} (hspell : Spells piece shape)
    {s s' : Lexer Payload} (f : Fill) (h : lexShape s shape = some s') :
    (piece.fill f).write.foldlM (Lexer.step Carrier.text) (s.map f.value) =
      some (s'.map f.value) := by
  cases hspell with
  | sql chars =>
      change (text (String.ofList chars)).foldlM _ _ = _
      rw [text, String.toList_ofList]
      exact f.hom.foldlM h
  | name label => exact lexHole_fill f h
  | literal label => exact lexHole_fill f h
  | days label =>
      rw [Piece.fill, write_days]
      exact lexHole_fill f h
  | number label =>
      rw [lexShape] at h
      split at h
      case isFalse => cases h
      case isTrue hmode =>
        cases h
        obtain ⟨mode, tokens⟩ := s
        obtain rfl : mode = .blank := hmode
        exact foldlM_digits (decimal_ne_nil _) (fun c hc => Text.isDigit_of_mem_decimal hc) _

theorem lexShapes_fill {pieces : List Piece} {shapes : List Shape}
    (hspell : List.Forall₂ Spells pieces shapes) {tokens : List (Token Payload)} (f : Fill)
    (h : lexShapes shapes = some tokens) :
    lex (writePieces (pieces.map (Piece.fill f))) = some (tokens.map (Token.map f.value)) := by
  have hrun : ∀ {pieces shapes}, List.Forall₂ Spells pieces shapes → ∀ {s s' : Lexer Payload},
      shapes.foldlM lexShape s = some s' →
        (writePieces (pieces.map (Piece.fill f))).foldlM (Lexer.step Carrier.text)
          (s.map f.value) = some (s'.map f.value) := by
    intro pieces shapes hspell
    induction hspell with
    | nil =>
        intro s s' h
        cases h
        rfl
    | @cons piece shape pieces shapes hpiece hrest ih =>
        intro s s' h
        rw [List.foldlM_cons] at h
        obtain ⟨s₁, hshape, h⟩ := Option.bind_eq_some_iff.mp h
        rw [List.map_cons, writePieces, List.flatMap_cons, List.foldlM_append,
          lexShape_fill hpiece f hshape]
        exact ih h
  obtain ⟨s, hfold, hfinish⟩ := Option.bind_eq_some_iff.mp h
  rw [lex]
  have hread := hrun hspell hfold
  change (writePieces _).foldlM _ Lexer.start = _ at hread
  rw [hread]
  exact Carrier.Hom.finish hfinish

/-- **A filled template** reads as the filled query. -/
theorem readQuery_pieces {pieces : List Piece} {shapes : List Shape}
    (hspell : List.Forall₂ Spells pieces shapes) {q : Query Payload} (f : Fill)
    (h : (lexShapes shapes).bind (parse (.fixed [])) = some q) :
    readQuery (writePieces (pieces.map (Piece.fill f))) = some (q.map f.value) := by
  obtain ⟨tokens, hlex, hparse⟩ := Option.bind_eq_some_iff.mp h
  rw [readQuery, lexShapes_fill hspell f hlex]
  change parse (f.value (.fixed [])) _ = _
  rw [parse_map, hparse]
  rfl

/-! ## Queries with slots -/

variable {ν : Type}

/-- `event_date`, from a column of dates or of texts in two formats. -/
def eventDate (fixed : String → ν) (date : ν) : Expr ν :=
  fn "coalesce" [.cast true (.quoted date) (text "date"),
    .cast false (fn "try_strptime" [.cast false (.quoted date) (text "varchar"),
      .string (fixed "%Y%m%d")]) (text "date"),
    .cast false (fn "try_strptime" [.cast false (.quoted date) (text "varchar"),
      .string (fixed "%Y-%m-%d")]) (text "date")]

/-- `event_date >= first AND event_date < last`. -/
def within (first last : Expr ν) : Expr ν :=
  .binary .and (.binary .greaterEqual (col "event_date") first)
    (.binary .less (col "event_date") last)

/-- `COALESCE(CAST(column AS VARCHAR), 'all')`, or `'all'`. -/
def groupedBy (fixed : String → ν) (all : ν) : Option ν → Expr ν
  | none => .string all
  | some column =>
      fn "coalesce" [.cast false (.quoted column) (text "varchar"), .string (fixed "all")]

/-! ## Release regression -/

/-- What the text of the report is about. -/
structure ReleaseSlots (ν : Type) where
  fixed : String → ν
  table : ν
  release : ν
  anchor : ν
  comparison : ν
  date : ν
  event : ν
  metric : Option ν
  preDays : ν
  transitionDays : ν
  postDays : ν

namespace ReleaseSlots

variable (a : ReleaseSlots ν)

/-- The metric of a row; `1.0` when no column is named. -/
def metricValue : Option ν → Expr ν
  | none => .number (a.fixed "1.0")
  | some column => fn "coalesce" [.cast true (.quoted column) (text "double"),
      .number (a.fixed "0.0")]

/-- The rows of the table, with a date. -/
def normalized : Select ν where
  items := [.named "event_date" (eventDate a.fixed a.date),
    .named "event_name" (.cast false (.quoted a.event) (text "varchar")),
    .named "metric_value" (a.metricValue a.metric)]
  table := .quoted a.table
  join := .none
  condition := none
  groupBy := []
  orderBy := []

/-- `period`: the last window ends `postDays` after the release. -/
def period : Expr ν :=
  .when (within (.binary .minus (.date a.release) (.interval a.preDays)) (.date a.release))
    (.string (a.fixed "pre"))
  (.when (within (.date a.release) (.binary .plus (.date a.release) (.interval a.transitionDays)))
    (.string (a.fixed "transition"))
  (.when (within (.binary .plus (.date a.release) (.interval a.transitionDays))
      (.binary .plus (.date a.release) (.interval a.postDays)))
    (.string (a.fixed "post"))
  .null))

/-- `event_date` is not among the items. -/
def windowed : Select ν where
  items := [.named "period" a.period, .col "event_name", .col "metric_value"]
  table := .bare (text "normalized")
  join := .none
  condition := some (.isNull true (col "event_date"))
  groupBy := []
  orderBy := []

/-- The sum over the rows of one event. -/
def eventSum (event : ν) : Expr ν :=
  fn "sum" [.when (.binary .equal (col "event_name") (.string event)) (col "metric_value")
    (.number (a.fixed "0"))]

/-- The sums of each day. -/
def daily : Select ν where
  items := [.col "period", .col "event_date", .named "anchor_value" (a.eventSum a.anchor),
    .named "comparison_value" (a.eventSum a.comparison)]
  table := .bare (text "windowed")
  join := .none
  condition := some (.isNull true (col "period"))
  groupBy := [col "period", col "event_date"]
  orderBy := []

/-- The first three of the common table expressions. -/
def ctes : List (Name × Select ν) :=
  [(text "normalized", a.normalized), (text "windowed", a.windowed), (text "daily", a.daily)]

end ReleaseSlots

namespace ReleaseRegressionParams

/-- The arguments in their places. -/
def slots (p : ReleaseRegressionParams) : ReleaseSlots Text where
  fixed := text
  table := p.normalizedTableName
  release := p.releaseDate
  anchor := p.anchorEvent
  comparison := p.comparisonEvent
  date := p.dateColumn
  event := p.eventColumn
  metric := p.metricColumn
  preDays := Text.decimal p.preDays ++ text " day"
  transitionDays := Text.decimal p.transitionDays ++ text " day"
  postDays := Text.decimal p.postDays ++ text " day"

/-- The holes in their places. -/
def labelSlots (metric : Bool) : ReleaseSlots Payload where
  fixed s := .fixed (text s)
  table := .name ['t']
  release := .literal ['r']
  anchor := .literal ['a']
  comparison := .literal ['c']
  date := .name ['d']
  event := .name ['e']
  metric := if metric then some (.name ['m']) else none
  preDays := .days 0
  transitionDays := .days 1
  postDays := .days 2

set_option maxRecDepth 4000 in
theorem exists_parse (metric : Bool) :
    ∃ shapes, List.Forall₂ Spells (labels metric).template shapes ∧
      ((lexShapes shapes).bind (parse (.fixed []))).map (fun q => q.ctes.take 3) =
        some (labelSlots metric).ctes := by
  cases metric
  all_goals
    apply Exists.intro
    apply And.intro
    · repeat' constructor
    · decide +kernel

/-- **The text** of the report reads as these queries, and some more. -/
theorem readQuery_eq (p : ReleaseRegressionParams) :
    ∃ ctes body, readQuery (buildReleaseRegressionSql p) = some ⟨p.slots.ctes ++ ctes, body⟩ := by
  obtain ⟨shapes, hspell, hparse⟩ := exists_parse p.metricColumn.isSome
  obtain ⟨q, hq, hctes⟩ := Option.map_eq_some_iff.mp hparse
  refine ⟨(q.map p.fill.value).ctes.drop 3, (q.map p.fill.value).body, ?_⟩
  have hslots : p.slots.ctes = (q.map p.fill.value).ctes.take 3 := by
    rw [Query.map, ← List.map_take, hctes]
    obtain ⟨table, release, anchor, comparison, date, event, metric, pre, transition, post⟩ := p
    cases metric <;> rfl
  rw [buildReleaseRegressionSql, p.template_eq, readQuery_pieces hspell p.fill hq, hslots,
    List.take_append_drop]

end ReleaseRegressionParams

/-! ## Landing parameters -/

/-- What the landing report is filled with. -/
structure LandingSlots (ν : Type) where
  fixed : String → ν
  /-- What stands for a column that is not named. -/
  all : ν
  table : ν
  release : ν
  date : ν
  url : ν
  channel : Option ν
  sourceMedium : Option ν
  preDays : ν
  transitionDays : ν
  /-- `post_window_days`. -/
  windowDays : ν
  topN : ν

namespace LandingSlots

variable (a : LandingSlots ν)

/-- The rows of the table, with a date, a URL and two groups. -/
def normalized : Select ν where
  items := [.named "event_date" (eventDate a.fixed a.date),
    .named "landing_url" (.cast false (.quoted a.url) (text "varchar")),
    .named "channel" (groupedBy a.fixed a.all a.channel),
    .named "source_medium" (groupedBy a.fixed a.all a.sourceMedium)]
  table := .quoted a.table
  join := .none
  condition := none
  groupBy := []
  orderBy := []

/-- The period of a date; there is none for the transition. -/
def period : Expr ν :=
  .when (within (.binary .minus (.date a.release) (.interval a.preDays)) (.date a.release))
    (.string (a.fixed "pre"))
  (.when (within (.binary .plus (.date a.release) (.interval a.transitionDays))
      (.binary .plus (.date a.release) (.interval a.windowDays)))
    (.string (a.fixed "post"))
  .null)

/-- What stands before the question mark. -/
def landingPath : Expr ν :=
  fn "coalesce" [fn "nullif" [fn "split_part" [col "landing_url", .string (a.fixed "?"),
    .number (a.fixed "1")], .string (a.fixed "")], .string (a.fixed "(none)")]

/-- What stands behind it. -/
def queryString : Expr ν :=
  fn "split_part" [col "landing_url", .string (a.fixed "?"), .number (a.fixed "2")]

/-- The rows with their period and the parts of the URL. -/
def windowed : Select ν where
  items := [.named "period" a.period, .col "channel", .col "source_medium",
    .named "landing_path" a.landingPath, .named "query_string" a.queryString]
  table := .bare (text "normalized")
  join := .none
  condition := some (.isNull true (col "event_date"))
  groupBy := []
  orderBy := []

/-- `strpos(param_pair, '=') > 0`. -/
def isAssignment : Expr ν :=
  .binary .greater (fn "strpos" [col "param_pair", .string (a.fixed "=")]) (.number (a.fixed "0"))

/-- The key of a parameter. -/
def paramKey : Expr ν :=
  .when a.isAssignment
    (fn "lower" [fn "split_part" [col "param_pair", .string (a.fixed "="), .number (a.fixed "1")]])
    (fn "lower" [col "param_pair"])

/-- The value of a parameter, NULL without one. -/
def paramValue : Expr ν :=
  .when a.isAssignment
    (fn "nullif" [fn "split_part" [col "param_pair", .string (a.fixed "="), .number (a.fixed "2")],
      .string (a.fixed "")])
    .null

/-- The parameters of a query string. -/
def pairs : Expr ν :=
  .when (.binary .or (.isNull false (col "query_string"))
      (.binary .equal (col "query_string") (.string (a.fixed ""))))
    (.list (.ofList [.string (a.fixed "")]))
    (fn "string_split" [col "query_string", .string (a.fixed "&")])

/-- One row for each parameter. -/
def exploded : Select ν where
  items := [.col "period", .col "channel", .col "source_medium", .col "landing_path",
    .named "param_key" a.paramKey, .named "param_value" a.paramValue]
  table := .bare (text "windowed")
  join := .unnest a.pairs (text "pairs") (text "param_pair")
  condition := some (.among (col "period")
    (.ofList [.string (a.fixed "pre"), .string (a.fixed "post")]))
  groupBy := []
  orderBy := []

/-- `COALESCE(param_value, '(empty)')`. -/
def shownValue : Expr ν := fn "coalesce" [col "param_value", .string (a.fixed "(empty)")]

/-- The rows of a period. -/
def periodRows (period : String) : Expr ν :=
  fn "sum" [.when (.binary .equal (col "period") (.string (a.fixed period)))
    (.number (a.fixed "1")) (.number (a.fixed "0"))]

/-- The rows of each parameter and group, in each period. -/
def aggregated : Select ν where
  items := [.col "channel", .col "source_medium", .col "landing_path", .col "param_key",
    .named "param_value" a.shownValue, .named "pre_rows" (a.periodRows "pre"),
    .named "post_rows" (a.periodRows "post")]
  table := .bare (text "exploded")
  join := .none
  condition := some (.binary .and (.isNull true (col "param_key"))
    (.binary .notEqual (col "param_key") (.string (a.fixed ""))))
  groupBy := [col "channel", col "source_medium", col "landing_path", col "param_key",
    a.shownValue]
  orderBy := []

/-- What the release changed. -/
def deltaRows : Expr ν := .binary .minus (col "post_rows") (col "pre_rows")

/-- A count above a bound. -/
def above (column bound : String) : Expr ν :=
  .binary .greater (col column) (.number (a.fixed bound))

/-- A count of zero. -/
def isZero (column : String) : Expr ν := .binary .equal (col column) (.number (a.fixed "0"))

/-- The groups with their differences. -/
def scored : Select ν where
  items := [.col "channel", .col "source_medium", .col "landing_path", .col "param_key",
    .col "param_value",
    .named "param_signature" (fn "md5" [.binary .concat
      (.binary .concat (col "param_key") (.string (a.fixed "="))) (col "param_value")]),
    .col "pre_rows", .col "post_rows", .named "delta_rows" deltaRows,
    .named "delta_pct" (.when (a.above "pre_rows" "0")
      (.binary .divide (.binary .times deltaRows (.number (a.fixed "100.0"))) (col "pre_rows"))
      .null),
    .named "shift_type"
      (.when (.binary .and (a.isZero "pre_rows") (a.above "post_rows" "0"))
        (.string (a.fixed "new_in_post"))
      (.when (.binary .and (a.above "pre_rows" "0") (a.isZero "post_rows"))
        (.string (a.fixed "disappeared_post"))
      (.string (a.fixed "shifted"))))]
  table := .bare (text "aggregated")
  join := .none
  condition := none
  groupBy := []
  orderBy := []

/-- And ranks. -/
def ranked : Select ν where
  items := [.all, .named "rank_by_abs_delta" (.over (text "row_number")
    (.ofList [fn "abs" [col "delta_rows"], col "post_rows", col "pre_rows", col "channel",
      col "source_medium", col "landing_path", col "param_key", col "param_value"])
    [true, true, true, false, false, false, false, false])]
  table := .bare (text "scored")
  join := .none
  condition := none
  groupBy := []
  orderBy := []

/-- The parts of the query in order. -/
def ctes : List (Name × Select ν) :=
  [(text "normalized", a.normalized), (text "windowed", a.windowed),
    (text "exploded", a.exploded), (text "aggregated", a.aggregated), (text "scored", a.scored),
    (text "ranked", ranked)]

/-- The last select: the rows of the first ranks. -/
def shown : Select ν where
  items := [.named "release_date" (.date a.release), .col "channel", .col "source_medium",
    .col "landing_path", .col "param_key", .col "param_value", .col "param_signature",
    .col "pre_rows", .col "post_rows", .col "delta_rows", .col "delta_pct", .col "shift_type",
    .col "rank_by_abs_delta"]
  table := .bare (text "ranked")
  join := .none
  condition := some (.binary .lessEqual (col "rank_by_abs_delta") (.number a.topN))
  groupBy := []
  orderBy := [(col "rank_by_abs_delta", false)]

end LandingSlots

namespace LandingParamShiftParams

/-- The arguments in their places. -/
def slots (p : LandingParamShiftParams) : LandingSlots Text where
  fixed := text
  all := text "all"
  table := p.normalizedTableName
  release := p.releaseDate
  date := p.dateColumn
  url := p.landingUrlColumn
  channel := p.channelColumn
  sourceMedium := p.sourceMediumColumn
  preDays := Text.decimal p.preDays ++ text " day"
  transitionDays := Text.decimal p.transitionDays ++ text " day"
  windowDays := Text.decimal p.postWindowDays ++ text " day"
  topN := Text.decimal p.topN

/-- The holes in their places. -/
def labelSlots (channel sourceMedium : Bool) : LandingSlots Payload where
  fixed s := .fixed (text s)
  all := .literal (text "all")
  table := .name ['t']
  release := .literal ['r']
  date := .name ['d']
  url := .name ['u']
  channel := if channel then some (.name ['c']) else none
  sourceMedium := if sourceMedium then some (.name ['s']) else none
  preDays := .days 0
  transitionDays := .days 1
  windowDays := .days 3
  topN := .number 0

set_option maxRecDepth 4000 in
theorem exists_parse (channel sourceMedium : Bool) :
    ∃ shapes, List.Forall₂ Spells (labels channel sourceMedium).template shapes ∧
      (lexShapes shapes).bind (parse (.fixed [])) =
        some ⟨(labelSlots channel sourceMedium).ctes, (labelSlots channel sourceMedium).shown⟩ := by
  cases channel <;> cases sourceMedium
  all_goals
    apply Exists.intro
    apply And.intro
    · repeat' constructor
    · decide +kernel

/-- **The text** of the report reads as these queries. -/
theorem readQuery_eq (p : LandingParamShiftParams) :
    readQuery (buildLandingParamShiftSql p) = some ⟨p.slots.ctes, p.slots.shown⟩ := by
  obtain ⟨shapes, hspell, hq⟩ :=
    exists_parse p.channelColumn.isSome p.sourceMediumColumn.isSome
  rw [buildLandingParamShiftSql, p.template_eq, readQuery_pieces hspell p.fill hq]
  obtain ⟨table, release, date, url, channel, source, pre, transition, post, top⟩ := p
  cases channel <;> cases source <;> rfl

end LandingParamShiftParams

end Ga4Mcp.Tools
