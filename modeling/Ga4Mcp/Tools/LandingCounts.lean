/-
  What the landing report counts.

  Each common table expression is evaluated on the rows of the one before it; the groups of
  `aggregated` then count the pairs of `codePairs`.

  * `scored_rows`: the rows of the last expression, one for each group.
  * `LandingGroup.numberIn_scoredOf`: the number shown for a group counts the pairs of `codePairs`
    in its URLs.
-/
import Ga4Mcp.Tools.LandingPairs
import Ga4Mcp.Tools.ReleaseScope

namespace Ga4Mcp.Tools

open Ga4Mcp.Lib.Sql

/-! ## Functions by name -/

theorem function?_names :
    function? (text "coalesce") = some .coalesce ∧ function? (text "nullif") = some .nullif ∧
      function? (text "split_part") = some .splitPart ∧
      function? (text "string_split") = some .stringSplit ∧
      function? (text "strpos") = some .strpos ∧ function? (text "lower") = some .lower ∧
      function? (text "sum") = some .sum := by
  decide +kernel

theorem numberOf_digits : numberOf (text "0") = 0 ∧ numberOf (text "1") = 1 ∧
    numberOf (text "2") = 2 := by
  decide +kernel

/-! ## Rows of `windowed` -/

/-- The URL of a row of `normalized`. -/
def urlOf (row : Row) : Option Text :=
  match row (text "landing_url") with
  | .text url => some url
  | _ => none

/-- The part of a URL in front of its query string. -/
def pathOf (url : Option Text) : Text :=
  match (url.getD []).takeWhile (· ≠ '?') with
  | [] => text "(none)"
  | path => path

section

variable (e : Engine) (p : LandingParamShiftParams) (group : List Row) (row : Row)

/-- A piece of the URL; `NULL` has none. -/
theorem urlPiece_eval {n : Text} {k : ℚ} (hn : numberOf n = k) :
    (fn "split_part" [col "landing_url", .string (text "?"), .number n]).eval e group row =
      ((urlOf row).map fun url => Value.text (splitPart url '?' k.num.toNat)).getD .null := by
  obtain ⟨-, -, hsplit, -⟩ := function?_names
  have hargs : [col "landing_url", .string (text "?"), .number n].map (Expr.eval e group row) =
      [row (text "landing_url"), .text ['?'], .number k] := by
    rw [← hn]
    rfl
  rw [fn_eval e group row _ hsplit rfl, hargs, urlOf]
  change scalarCall e (text "split_part") _ = _
  cases row (text "landing_url") <;> simp [scalarCall, hsplit]

theorem landingPath_eval :
    p.slots.landingPath.eval e group row = .text (pathOf (urlOf row)) := by
  obtain ⟨hcoalesce, hnullif, -⟩ := function?_names
  have hpiece := urlPiece_eval e group row numberOf_digits.2.1
  rw [LandingSlots.landingPath, fn_eval e group row _ hcoalesce rfl]
  change scalarCall e (text "coalesce") [(fn "nullif" [_, .string (text "")]).eval e group row,
    .text (text "(none)")] = _
  rw [fn_eval e group row _ hnullif rfl]
  change scalarCall e (text "coalesce") [scalarCall e (text "nullif") [Expr.eval e group row
    (fn "split_part" [col "landing_url", .string (text "?"), .number (text "1")]), .text []],
    .text (text "(none)")] = _
  rw [hpiece, coalesce_eval e hcoalesce]
  cases urlOf row with
  | none =>
      change coalesce [scalarCall e (text "nullif") [.null, .text []], .text (text "(none)")] = _
      rw [nullif_null e hnullif, coalesce_null]
      rfl
  | some url =>
      change coalesce [scalarCall e (text "nullif") [.text (splitPart url '?' 1), .text []],
        .text (text "(none)")] = _
      rw [nullif_text e hnullif, splitPart_one, pathOf, Option.getD_some]
      split
      case isTrue hnil => rw [hnil, coalesce_null]
      case isFalse hne =>
        rw [coalesce_text]
        split
        case h_1 hnil => exact absurd hnil hne
        case h_2 => rfl

/-- The second piece; without a URL it is `NULL`. -/
theorem queryString_eval :
    p.slots.queryString.eval e group row =
      ((urlOf row).map fun url =>
        Value.text ((behind '?' url).takeWhile (· ≠ '?'))).getD .null := by
  have hpiece := urlPiece_eval e group row numberOf_digits.2.2
  change (fn "split_part" [col "landing_url", .string (text "?"), .number (text "2")]).eval e group
    row = _
  rw [hpiece]
  cases urlOf row with
  | none => rfl
  | some url => exact congrArg Value.text (splitPart_two url '?')

/-- The pairs of a row; without a URL there is an empty one. -/
def itemsOf (url : Option Text) : List Text := url.elim [[]] piecePairs

theorem pairs_eval {url : Option Text} (hquery : row (text "query_string") =
      (url.map fun url => Value.text ((behind '?' url).takeWhile (· ≠ '?'))).getD .null) :
    p.slots.pairs.eval e group row = .texts (itemsOf url) := by
  obtain ⟨-, -, -, hsplit, -⟩ := function?_names
  have hcol : (col "query_string" : Expr Text).eval e group row = row (text "query_string") := rfl
  have hisNull : (Expr.isNull false (col "query_string") : Expr Text).eval e group row =
      .bool ((row (text "query_string") = .null) != false) := rfl
  rw [LandingSlots.pairs, Expr.eval]
  cases url with
  | none =>
      have hnull : row (text "query_string") = .null := hquery
      simp only [Expr.eval, hcol, hnull]
      rfl
  | some url =>
      have htext : row (text "query_string") =
          .text ((behind '?' url).takeWhile (· ≠ '?')) := hquery
      have hcall : (fn "string_split" [col "query_string", .string (text "&")]).eval e group row =
          .texts (piecePairs url) := by
        rw [fn_eval e group row _ hsplit rfl]
        change scalarCall e (text "string_split") [row (text "query_string"), .text ['&']] = _
        rw [htext]
        simp [scalarCall, hsplit, piecePairs]
      have hcondition : ((Expr.binary .or (.isNull false (col "query_string"))
          (.binary .equal (col "query_string") (.string (text "")))).eval e group row).isTrue =
            decide ((behind '?' url).takeWhile (· ≠ '?') = []) := by
        change (Value.or (.bool ((row (text "query_string") = .null) != false))
          (Value.test (row (text "query_string")) (.text []) Ordering.isEq)).isTrue = _
        rw [htext, test_texts]
        by_cases hnil : (behind '?' url).takeWhile (· ≠ '?') = []
        · rw [decide_eq_true hnil]
          rfl
        · rw [decide_eq_false hnil]
          rfl
      change (if (Expr.eval e group row (.binary .or (.isNull false (col "query_string"))
        (.binary .equal (col "query_string") (.string (text ""))))).isTrue = true then _ else
          Expr.eval e group row (fn "string_split" [col "query_string", .string (text "&")])) = _
      rw [hcondition, hcall, itemsOf, Option.elim_some]
      split
      case isFalse => rfl
      case isTrue hnil =>
        rw [decide_eq_true_iff] at hnil
        rw [piecePairs, hnil]
        rfl

theorem isAssignment_eval {item : Text} (hitem : row (text "param_pair") = .text item) :
    p.slots.isAssignment.eval e group row = .bool (decide ('=' ∈ item)) := by
  obtain ⟨-, -, -, -, hstrpos, -⟩ := function?_names
  obtain ⟨hzero, -, -⟩ := numberOf_digits
  have hcall : (fn "strpos" [col "param_pair", .string (text "=")]).eval e group row =
      .number (strpos item '=') := by
    rw [fn_eval e group row _ hstrpos rfl]
    change scalarCall e (text "strpos") [row (text "param_pair"), .text ['=']] = _
    rw [hitem]
    simp [scalarCall, hstrpos]
  change Value.binary .greater (Expr.eval e group row (fn "strpos" [_, _]))
    (.number (numberOf (text "0"))) = _
  rw [hzero]
  change Value.binary .greater (Expr.eval e group row
    (fn "strpos" [col "param_pair", .string (text "=")])) _ = _
  rw [hcall, Value.binary, Value.test, Value.compare?]
  simp only [Value.isGT_compare]
  by_cases hmem : '=' ∈ item
  · simp [strpos, hmem, Nat.cast_add_one_pos]
  · simp [strpos, hmem]

theorem pairPiece_eval {item n : Text} {k : ℚ} (hn : numberOf n = k)
    (hitem : row (text "param_pair") = .text item) :
    (fn "split_part" [col "param_pair", .string (text "="), .number n]).eval e group row =
      .text (splitPart item '=' k.num.toNat) := by
  obtain ⟨-, -, hsplit, -⟩ := function?_names
  rw [fn_eval e group row _ hsplit rfl]
  change scalarCall e (text "split_part")
    [row (text "param_pair"), .text ['='], .number (numberOf n)] = _
  rw [hitem, hn]
  simp [scalarCall, hsplit]

theorem lower_eval {arg : Expr Text} {t : Text} (h : arg.eval e group row = .text t) :
    (fn "lower" [arg]).eval e group row = .text (e.lower t) := by
  obtain ⟨-, -, -, -, -, hlower, -⟩ := function?_names
  rw [fn_eval e group row _ hlower rfl]
  change scalarCall e (text "lower") [arg.eval e group row] = _
  rw [h]
  simp [scalarCall, hlower]

theorem paramKey_eval {item : Text} (hitem : row (text "param_pair") = .text item) :
    p.slots.paramKey.eval e group row =
      .text (e.lower (if '=' ∈ item then item.takeWhile (· ≠ '=') else item)) := by
  have hpiece := pairPiece_eval e group row numberOf_digits.2.1 hitem
  have hcol : (col "param_pair" : Expr Text).eval e group row = .text item := hitem
  rw [LandingSlots.paramKey, Expr.eval, isAssignment_eval e p group row hitem,
    lower_eval e group row hcol]
  change (if _ then Expr.eval e group row (fn "lower" [fn "split_part" [col "param_pair",
    .string (text "="), .number (text "1")]]) else _) = _
  rw [lower_eval e group row hpiece]
  change (if (Value.bool (decide ('=' ∈ item))).isTrue = true then
    Value.text (e.lower (splitPart item '=' 1)) else _) = _
  rw [splitPart_one]
  by_cases hmem : '=' ∈ item
  · simp [hmem, Value.isTrue]
  · simp [hmem, Value.isTrue]

theorem paramValue_eval {item : Text} (hitem : row (text "param_pair") = .text item) :
    p.slots.paramValue.eval e group row =
      if '=' ∈ item then
        if (behind '=' item).takeWhile (· ≠ '=') = [] then .null
        else .text ((behind '=' item).takeWhile (· ≠ '='))
      else .null := by
  obtain ⟨-, hnullif, -⟩ := function?_names
  have hpiece := pairPiece_eval e group row numberOf_digits.2.2 hitem
  have hcall : (fn "nullif" [fn "split_part" [col "param_pair", .string (text "="),
      .number (text "2")], .string (text "")]).eval e group row =
        if (behind '=' item).takeWhile (· ≠ '=') = [] then .null
        else .text ((behind '=' item).takeWhile (· ≠ '=')) := by
    rw [fn_eval e group row _ hnullif rfl]
    change scalarCall e (text "nullif") [Expr.eval e group row (fn "split_part"
      [col "param_pair", .string (text "="), .number (text "2")]), .text []] = _
    rw [hpiece]
    change scalarCall e (text "nullif") [.text (splitPart item '=' 2), .text []] = _
    rw [nullif_text e hnullif, splitPart_two]
  rw [LandingSlots.paramValue, Expr.eval, isAssignment_eval e p group row hitem]
  change (if (Value.bool (decide ('=' ∈ item))).isTrue = true then Expr.eval e group row
    (fn "nullif" [fn "split_part" [col "param_pair", .string (text "="), .number (text "2")],
      .string (text "")]) else .null) = _
  rw [hcall]
  by_cases hmem : '=' ∈ item
  · simp [hmem, Value.isTrue]
  · simp [hmem, Value.isTrue]

end

/-! ## Rows of the tables -/

section

variable (e : Engine) (p : LandingParamShiftParams)

/-- A row of `windowed`. -/
structure WindowedRow (row windowed : Row) : Prop where
  period : windowed (text "period") = p.slots.period.eval e [] row
  channel : windowed (text "channel") = row (text "channel")
  sourceMedium : windowed (text "source_medium") = row (text "source_medium")
  landingPath : windowed (text "landing_path") = .text (pathOf (urlOf row))
  queryString : windowed (text "query_string") =
    ((urlOf row).map fun url => Value.text ((behind '?' url).takeWhile (· ≠ '?'))).getD .null

theorem windowedRow (columns : List Name) (group : List Row) (row : Row) :
    WindowedRow e p row (p.slots.windowed.output e columns group row) where
  period := rfl
  channel := rfl
  sourceMedium := rfl
  landingPath := landingPath_eval e p group row
  queryString := queryString_eval e p group row

/-- A row of the join with the pairs. -/
def paired (windowed : Row) (item : Text) : Row :=
  fun name => if name = text "param_pair" then .text item else windowed name

/-- A row of `exploded`. -/
structure ExplodedRow (windowed : Row) (item : Text) (exploded : Row) : Prop where
  period : exploded (text "period") = windowed (text "period")
  channel : exploded (text "channel") = windowed (text "channel")
  sourceMedium : exploded (text "source_medium") = windowed (text "source_medium")
  landingPath : exploded (text "landing_path") = windowed (text "landing_path")
  paramKey : exploded (text "param_key") =
    .text (e.lower (if '=' ∈ item then item.takeWhile (· ≠ '=') else item))
  paramValue : exploded (text "param_value") =
    if '=' ∈ item then
      if (behind '=' item).takeWhile (· ≠ '=') = [] then .null
      else .text ((behind '=' item).takeWhile (· ≠ '='))
    else .null

theorem explodedRow (columns : List Name) (group : List Row) (windowed : Row) (item : Text) :
    ExplodedRow e windowed item
      (p.slots.exploded.output e columns group (paired windowed item)) where
  period := rfl
  channel := rfl
  sourceMedium := rfl
  landingPath := rfl
  paramKey := paramKey_eval e p group (paired windowed item) rfl
  paramValue := paramValue_eval e p group (paired windowed item) rfl

/-- `COALESCE(param_value, '(empty)')` of a row. -/
theorem shownValue_eval (group : List Row) (row : Row) :
    p.slots.shownValue.eval e group row =
      coalesce [row (text "param_value"), .text (text "(empty)")] := by
  obtain ⟨hcoalesce, -⟩ := function?_names
  rw [LandingSlots.shownValue, fn_eval e group row _ hcoalesce rfl]
  change scalarCall e (text "coalesce") _ = _
  rw [coalesce_eval e hcoalesce]
  rfl

/-- The keys of a group. -/
def groupKey (row : Row) : List Value :=
  [row (text "channel"), row (text "source_medium"), row (text "landing_path"),
    row (text "param_key"), coalesce [row (text "param_value"), .text (text "(empty)")]]

theorem groupBy_eval (row : Row) :
    p.slots.aggregated.groupBy.map (Expr.eval e [] row) = groupKey row := by
  change [_, _, _, _, p.slots.shownValue.eval e [] row] = _
  rw [shownValue_eval]
  rfl

theorem sum_flags {α : Type} (p : α → Prop) [DecidablePred p] (l : List α) :
    (l.map fun a => if p a then (1 : ℚ) else 0).sum = l.countP fun a => p a := by
  induction l with
  | nil => rfl
  | cons a l ih =>
      rw [List.map_cons, List.sum_cons, ih, List.countP_cons]
      by_cases h : p a
      · simp [h, add_comm]
      · simp [h]

/-- The sum that counts the rows of a period. -/
theorem periodRows_eval (period : String) {group : List Row} (hgroup : group ≠ []) (row : Row) :
    (p.slots.periodRows period).eval e group row =
      .number (group.countP fun r => r (text "period") = .text (text period)) := by
  obtain ⟨-, -, -, -, -, -, hsum⟩ := function?_names
  obtain ⟨hzero, hone, -⟩ := numberOf_digits
  have hflag : (fun r : Row => (Expr.when (.binary .equal (col "period")
      (.string (p.slots.fixed period))) (.number (p.slots.fixed "1"))
        (.number (p.slots.fixed "0"))).eval e [] r) =
        fun r => .number (if r (text "period") = .text (text period) then 1 else 0) := by
    funext r
    change (if (Value.test (r (text "period")) (.text (text period)) Ordering.isEq).isTrue = true
      then Value.number (numberOf (text "1")) else .number (numberOf (text "0"))) = _
    rw [Value.isTrue_test_text, hone, hzero]
    split <;> rename_i h <;> simp_all
  have hflags : (group.map fun r =>
      Value.number (if r (text "period") = .text (text period) then 1 else 0)) =
        (group.map fun r => if r (text "period") = .text (text period) then (1 : ℚ) else 0).map
          .number :=
    (List.map_map ..).symm
  rw [LandingSlots.periodRows, fn_eval_aggregate e group row _ hsum rfl, hflag, hflags,
    sum_numbers e _ (by simpa using hgroup), sum_flags]

/-- The columns that name a group of `aggregated`. -/
def groupOf (row : Row) : List Value :=
  [row (text "channel"), row (text "source_medium"), row (text "landing_path"),
    row (text "param_key"), row (text "param_value")]

/-- A row of `aggregated`. -/
structure AggregatedRow (group : List Row) (aggregated : Row) : Prop where
  groupOf_eq : ∀ k, (∀ row ∈ group, groupKey row = k) → groupOf aggregated = k
  preRows : aggregated (text "pre_rows") =
    .number (group.countP fun r => r (text "period") = .text (text "pre"))
  postRows : aggregated (text "post_rows") =
    .number (group.countP fun r => r (text "period") = .text (text "post"))

theorem aggregatedRow (columns : List Name) {group : List Row} (hgroup : group ≠ []) :
    AggregatedRow group
      (p.slots.aggregated.output e columns group (group.headD fun _ => .null)) := by
  obtain ⟨row, rest, rfl⟩ := List.exists_cons_of_ne_nil hgroup
  constructor
  case preRows => exact periodRows_eval e p "pre" hgroup row
  case postRows => exact periodRows_eval e p "post" hgroup row
  case groupOf_eq =>
    intro k hk
    rw [← hk row List.mem_cons_self]
    change [row (text "channel"), row (text "source_medium"), row (text "landing_path"),
      row (text "param_key"), p.slots.shownValue.eval e (row :: rest) row] = _
    rw [shownValue_eval]
    rfl

/-- A row of `scored` repeats the one of `aggregated`. -/
theorem scoredRow (columns : List Name) (group : List Row) (aggregated : Row) :
    let scored := p.slots.scored.output e columns group aggregated
    groupOf scored = groupOf aggregated ∧
      scored (text "pre_rows") = aggregated (text "pre_rows") ∧
      scored (text "post_rows") = aggregated (text "post_rows") :=
  ⟨rfl, rfl, rfl⟩

end

/-! ## Counted rows -/

/-- The windows that are compared. -/
inductive LandingWindow where
  | pre
  | post
deriving DecidableEq, Repr

namespace LandingWindow

/-- The name of a window in the report. -/
def name : LandingWindow → Text
  | pre => text "pre"
  | post => text "post"

/-- The column that counts the rows of a window. -/
def column : LandingWindow → Text
  | pre => text "pre_rows"
  | post => text "post_rows"

end LandingWindow

/-- The number in a column of a group, zero for a group without rows. -/
def numberIn (relation : Relation) (k : List Value) (column : Text) : Value :=
  ((relation.rows.find? fun row => groupOf row = k).map (· column)).getD (.number 0)

section

variable (e : Engine) (p : LandingParamShiftParams)

/-- The condition of `aggregated`. -/
def named (row : Row) : Bool :=
  (Value.and (.bool (row (text "param_key") ≠ .null))
    (Value.test (row (text "param_key")) (.text []) Ordering.isNe)).isTrue

theorem AggregatedRow.column_eq {group : List Row} {aggregated : Row}
    (h : AggregatedRow group aggregated) (w : LandingWindow) :
    aggregated w.column = .number (group.countP fun row => row (text "period") = .text w.name) := by
  cases w with
  | pre => exact h.preRows
  | post => exact h.postRows

theorem aggregated_rows (exploded : Relation) :
    (p.slots.aggregated.eval e exploded).rows =
      ((((exploded.rows.filter named).map groupKey).dedup.map fun k =>
        (exploded.rows.filter named).filter fun row => groupKey row = k).map fun group =>
          p.slots.aggregated.output e exploded.columns group (group.headD fun _ => .null)) := by
  have hkept : exploded.rows.filter named = exploded.rows.filter fun row =>
      ((Expr.binary .and (.isNull true (col "param_key"))
        (.binary .notEqual (col "param_key") (.string (text "")))).eval e [] row).isTrue := by
    refine List.filter_congr fun row _ => ?_
    change _ = (Value.and (.bool ((row (text "param_key") = .null) != true))
      (Value.test (row (text "param_key")) (.text []) Ordering.isNe)).isTrue
    rw [named]
    simp
  rw [Select.eval_rows_grouped exploded rfl (by exact List.cons_ne_nil _ _) hkept]
  simp only [groupBy_eval]

theorem scored_rows (aggregated : Relation) :
    (p.slots.scored.eval e aggregated).rows = aggregated.rows.map fun row =>
      p.slots.scored.output e aggregated.columns aggregated.rows row :=
  Select.eval_rows aggregated rfl rfl rfl

/-- **A group** of `scored` counts the rows of `exploded` with its key. -/
theorem numberIn_scored (exploded : Relation) (k : List Value) (w : LandingWindow) :
    numberIn (p.slots.scored.eval e (p.slots.aggregated.eval e exploded)) k w.column =
      .number (exploded.rows.countP fun row =>
        named row ∧ groupKey row = k ∧ row (text "period") = .text w.name) := by
  let group := fun k => (exploded.rows.filter named).filter fun row => groupKey row = k
  have hrow : ∀ k ∈ (exploded.rows.filter named).map groupKey, AggregatedRow (group k)
      (p.slots.aggregated.output e exploded.columns (group k)
        ((group k).headD fun _ => .null)) := by
    intro k hk
    obtain ⟨row, hrow, rfl⟩ := List.mem_map.mp hk
    refine aggregatedRow e p exploded.columns (List.ne_nil_of_mem (a := row) ?_)
    exact List.mem_filter.mpr ⟨hrow, decide_eq_true rfl⟩
  have hcount : ((group k).countP fun row => row (text "period") = .text w.name) =
      exploded.rows.countP fun row =>
        named row ∧ groupKey row = k ∧ row (text "period") = .text w.name := by
    rw [List.countP_filter, List.countP_filter]
    refine List.countP_congr fun row _ => ?_
    simp only [Bool.and_eq_true, decide_eq_true_iff]
    tauto
  rw [numberIn, scored_rows, aggregated_rows, List.map_map, Select.find?_groups groupKey _ (k := k),
    ← hcount]
  · split
    case isTrue hk =>
      rw [Option.map_some, Option.getD_some, ← (hrow k hk).column_eq w]
      cases w <;> rfl
    case isFalse hk =>
      have hnil : group k = [] := by
        refine List.filter_eq_nil_iff.mpr fun row hmem hkey => hk ?_
        exact List.mem_map.mpr ⟨row, hmem, of_decide_eq_true hkey⟩
      rw [hnil]
      rfl
  · intro k' hk'
    have hgroup := (hrow k' hk').groupOf_eq k' fun row hmem =>
      of_decide_eq_true (List.mem_filter.mp hmem).2
    rw [Function.comp_apply, (scoredRow e p _ _ _).1, hgroup]

end

/-! ## Counted pairs -/

namespace LandingWindow

/-- The days of a window. -/
def contains (e : Engine) (p : LandingParamShiftParams) (day : Int) : LandingWindow → Bool
  | pre => e.date p.releaseDate - p.preDays ≤ day && day < e.date p.releaseDate
  | post => e.date p.releaseDate + p.transitionDays ≤ day &&
      day < e.date p.releaseDate + p.transitionDays + p.postDays

/-- A row of `normalized` in a window. -/
def landsIn (e : Engine) (p : LandingParamShiftParams) (row : Row) (w : LandingWindow) : Bool :=
  match row (text "event_date") with
  | .date day => w.contains e p day
  | _ => false

end LandingWindow

section

variable {e : Engine} {p : LandingParamShiftParams}

/-- Only days compare with days. -/
theorem within_eval_of_no_date {group : List Row} {row : Row} {first last : Expr Text} {a b : Int}
    (hrow : ∀ day, row (text "event_date") ≠ .date day)
    (hfirst : first.eval e group row = .date a) (hlast : last.eval e group row = .date b) :
    ((within first last).eval e group row).isTrue = false := by
  have hcol : (col "event_date" : Expr Text).eval e group row = row (text "event_date") := rfl
  simp only [within, Expr.eval, hcol, hfirst, hlast, Value.binary]
  cases hdate : row (text "event_date") with
  | date day => exact absurd hdate (hrow day)
  | _ => rfl

theorem period_eq_iff (group : List Row) (row : Row) (w : LandingWindow) :
    p.slots.period.eval e group row = .text w.name ↔ w.landsIn e p row = true := by
  obtain ⟨-, hne, -⟩ := periods_ne
  have hpost : Value.text (text "post") ≠ .text (text "pre") := by simpa using hne.symm
  have hnull : ∀ t, Value.null ≠ .text t := fun t h => by cases h
  have hplus := plusDays_eval e group row p.releaseDate
  have hminus := minusDays_eval e group row p.releaseDate
  have hrelease := release_eval e group row p.releaseDate
  rw [LandingWindow.landsIn]
  split
  case h_1 day hday =>
    have hperiod := p.period_eval e group hday
    have hwindow : (p.postWindowDays : Int) = p.transitionDays + p.postDays := Nat.cast_add _ _
    rw [hperiod]
    dsimp only
    cases w with
    | pre =>
        change _ = Value.text (text "pre") ↔ _
        simp only [LandingWindow.contains, Bool.and_eq_true, decide_eq_true_iff]
        grind
    | post =>
        change _ = Value.text (text "post") ↔ _
        simp only [LandingWindow.contains, Bool.and_eq_true, decide_eq_true_iff]
        grind
  case h_2 hother =>
    have hperiod : p.slots.period.eval e group row = .null := by
      have hpre := within_eval_of_no_date hother (hminus p.preDays) hrelease
      have hpost := within_eval_of_no_date hother (hplus p.transitionDays) (hplus p.postWindowDays)
      simp only [LandingSlots.period, Expr.eval, LandingParamShiftParams.slots]
      rw [hpre, hpost]
      rfl
    rw [hperiod]
    simp

/-- A value that counts is shown as it is. -/
theorem shown_eq_iff {cut value : Text} (hvalue : counts value = true) :
    coalesce [if cut = [] then .null else .text cut, .text (text "(empty)")] = .text value ↔
      cut = value := by
  by_cases hnil : cut = []
  · rw [if_pos hnil, coalesce_null, Value.text.injEq]
    constructor
    · rintro rfl
      exact absurd hvalue (by simp [counts])
    · rintro rfl
      rw [hnil] at hvalue
      cases hvalue
  · rw [if_neg hnil, coalesce_text, Value.text.injEq]

/-- The rows of a group of `aggregated` are the pairs of `codePair`. -/
theorem ExplodedRow.counted_iff {windowed exploded : Row} {item key value : Text}
    (h : ExplodedRow e windowed item exploded) (hvalue : counts value = true)
    (channel source path : Value) :
    (named exploded = true ∧
        groupKey exploded = [channel, source, path, .text key, .text value]) ↔
      (windowed (text "channel") = channel ∧ windowed (text "source_medium") = source ∧
        windowed (text "landing_path") = path) ∧ codePair e.lower item = some (key, value) := by
  have hnamed : named exploded =
      decide (e.lower (if '=' ∈ item then item.takeWhile (· ≠ '=') else item) ≠ []) := by
    rw [named, Value.isTrue_and, h.paramKey, Value.isTrue_test_ne_text]
    rfl
  rw [hnamed, groupKey, h.channel, h.sourceMedium, h.landingPath, h.paramKey, h.paramValue]
  by_cases hmem : '=' ∈ item
  · have hsplit : Text.splitOnce '=' item = some (item.takeWhile (· ≠ '='), behind '=' item) :=
      if_pos hmem
    simp only [if_pos hmem, codePair, hsplit, Option.bind_some, List.cons.injEq, and_true,
      shown_eq_iff hvalue]
    generalize (behind '=' item).takeWhile (· ≠ '=') = cut
    generalize e.lower (item.takeWhile (· ≠ '=')) = lowered
    by_cases hcut : cut = value
    · rw [hcut, hvalue]
      simp
      tauto
    · simp [hcut]
  · have hsplit : Text.splitOnce '=' item = none := if_neg hmem
    have hshown : coalesce [.null, .text (text "(empty)")] ≠ .text value := by
      rw [coalesce_null, ne_eq, Value.text.injEq]
      rintro rfl
      exact absurd hvalue (by simp [counts])
    simp [if_neg hmem, codePair, hsplit, hshown]

end

/-! ## From the URLs to the groups -/

section

variable (e : Engine) (p : LandingParamShiftParams)

/-- `exploded`, from the rows of `normalized`. -/
def explodedOf (normalized : Relation) : Relation :=
  p.slots.exploded.eval e
    (unnest e (p.slots.windowed.eval e normalized) p.slots.pairs (text "param_pair"))

/-- `scored`, from the rows of `normalized`. -/
def scoredOf (normalized : Relation) : Relation :=
  p.slots.scored.eval e (p.slots.aggregated.eval e (explodedOf e p normalized))

/-- A group of rows of `normalized`: a window, and what the rows of `scored` are told by. -/
structure LandingGroup where
  window : LandingWindow
  channel : Value
  sourceMedium : Value
  path : Text

/-- A row of `normalized` is one of the group. -/
def LandingGroup.holds (g : LandingGroup) (row : Row) : Bool :=
  g.window.landsIn e p row && row (text "channel") = g.channel &&
    row (text "source_medium") = g.sourceMedium && pathOf (urlOf row) = g.path

/-- The URLs of a group. -/
def LandingGroup.urls (g : LandingGroup) (rows : List Row) : List Text :=
  (rows.filter (g.holds e p)).filterMap urlOf

/-- The keys of a row of `scored`. -/
def LandingGroup.keys (g : LandingGroup) (key value : Text) : List Value :=
  [g.channel, g.sourceMedium, .text g.path, .text key, .text value]

/-- A row of `exploded` is counted in a group. -/
def LandingGroup.counted (g : LandingGroup) (key value : Text) (exploded : Row) : Bool :=
  named exploded ∧ groupKey exploded = g.keys key value ∧
    exploded (text "period") = .text g.window.name

/-- The condition of `exploded`. -/
def compared (windowed : Row) : Bool :=
  (Value.among (windowed (text "period")) ([text "pre", text "post"].map .text)).isTrue

variable {e p}

theorem LandingGroup.counted_iff (g : LandingGroup) {key value : Text}
    (hvalue : counts value = true) {row windowed exploded : Row} {item : Text}
    (hwindowed : WindowedRow e p row windowed) (hexploded : ExplodedRow e windowed item exploded) :
    (g.counted key value exploded && compared windowed) =
      (g.holds e p row && codePair e.lower item == some (key, value)) := by
  have hname : g.window.name ∈ [text "pre", text "post"] := by
    cases g.window
    · exact List.mem_cons_self
    · exact List.mem_cons_of_mem _ List.mem_cons_self
  have hcounted := @ExplodedRow.counted_iff e windowed exploded item key value hexploded hvalue
    g.channel g.sourceMedium (.text g.path)
  rw [hwindowed.channel, hwindowed.sourceMedium, hwindowed.landingPath, Value.text.injEq]
    at hcounted
  have hperiod := period_eq_iff (e := e) (p := p) [] row g.window
  rw [Bool.eq_iff_iff, counted, compared, Value.isTrue_among_texts, hexploded.period,
    hwindowed.period, keys, holds]
  simp only [Bool.and_eq_true, decide_eq_true_iff, beq_iff_eq, ← hperiod]
  rw [← and_assoc, hcounted]
  constructor
  · rintro ⟨⟨⟨⟨hchannel, hsource, hpath⟩, hcode⟩, hw⟩, -⟩
    exact ⟨⟨⟨⟨hw, hchannel⟩, hsource⟩, hpath⟩, hcode⟩
  · rintro ⟨⟨⟨⟨hw, hchannel⟩, hsource⟩, hpath⟩, hcode⟩
    exact ⟨⟨⟨⟨hchannel, hsource, hpath⟩, hcode⟩, hw⟩, g.window.name, hname, hw⟩

/-- The pairs of one row of `normalized` that a group counts. -/
theorem LandingGroup.countP_items (g : LandingGroup) {key value : Text}
    (hvalue : counts value = true) {row windowed : Row} (hwindowed : WindowedRow e p row windowed)
    (columns : List Name) (group : List Row) :
    ((itemsOf (urlOf row)).countP fun item =>
      g.counted key value (p.slots.exploded.output e columns group (paired windowed item)) &&
        compared windowed) =
      if g.holds e p row then
        ((itemsOf (urlOf row)).filterMap (codePair e.lower)).count (key, value)
      else 0 := by
  have hitem : ∀ item, (g.counted key value
      (p.slots.exploded.output e columns group (paired windowed item)) && compared windowed) =
        (g.holds e p row && codePair e.lower item == some (key, value)) := fun item =>
    g.counted_iff hvalue hwindowed (explodedRow e p columns group windowed item)
  simp only [hitem, List.count_filterMap]
  by_cases hholds : g.holds e p row = true
  · rw [if_pos hholds]
    simp only [hholds, Bool.true_and]
  · rw [if_neg hholds]
    simp [Bool.eq_false_iff.mpr hholds]

/-- Rows without a URL have no pair that counts. -/
theorem LandingGroup.sum_rows (g : LandingGroup) (rows : List Row) (pair : Text × Text) :
    (rows.map fun row => if g.holds e p row then
      ((itemsOf (urlOf row)).filterMap (codePair e.lower)).count pair else 0).sum =
        ((g.urls e p rows).flatMap (codePairs e.lower)).count pair := by
  induction rows with
  | nil => rfl
  | cons row rows ih =>
      rw [List.map_cons, List.sum_cons, ih, urls, urls]
      by_cases hholds : g.holds e p row = true
      · rw [if_pos hholds, List.filter_cons_of_pos hholds]
        cases hurl : urlOf row with
        | none =>
            rw [List.filterMap_cons_none hurl]
            exact Nat.zero_add _
        | some url =>
            rw [List.filterMap_cons_some hurl, List.flatMap_cons, List.count_append]
            rfl
      · rw [if_neg hholds, List.filter_cons_of_neg hholds, Nat.zero_add]

theorem windowed_rows (normalized : Relation) :
    ∃ group, (p.slots.windowed.eval e normalized).rows =
      (normalized.rows.filter fun row => row (text "event_date") ≠ .null).map fun row =>
        p.slots.windowed.output e normalized.columns group row := by
  refine ⟨_, Select.eval_rows normalized rfl rfl ?_⟩
  refine List.filter_congr fun row _ => ?_
  change _ = ((row (text "event_date") = .null) != true)
  simp

theorem explodedOf_rows (normalized : Relation) :
    ∃ columns group, (explodedOf e p normalized).rows =
      ((unnest e (p.slots.windowed.eval e normalized) p.slots.pairs (text "param_pair")).rows.filter
        compared).map fun row => p.slots.exploded.output e columns group row :=
  ⟨_, _, Select.eval_rows _ rfl rfl rfl⟩

theorem LandingGroup.urls_dated (g : LandingGroup) (rows : List Row) :
    g.urls e p (rows.filter fun row => row (text "event_date") ≠ .null) = g.urls e p rows := by
  rw [urls, urls, List.filter_filter]
  refine congrArg _ (List.filter_congr fun row _ => ?_)
  rw [Bool.and_eq_left_iff_imp]
  intro hholds
  rw [decide_eq_true_iff]
  intro hnull
  simp [holds, LandingWindow.landsIn, hnull] at hholds

/-- **A group of the report** counts the pairs of `codePairs`. -/
theorem LandingGroup.numberIn_scoredOf (g : LandingGroup) {key value : Text}
    (hvalue : counts value = true) (normalized : Relation) :
    numberIn (scoredOf e p normalized) (g.keys key value) g.window.column =
      .number (((g.urls e p normalized.rows).flatMap (codePairs e.lower)).count (key, value)) := by
  obtain ⟨columns, group, hexploded⟩ := explodedOf_rows (e := e) (p := p) normalized
  obtain ⟨windowedGroup, hwindowed⟩ := windowed_rows (e := e) (p := p) normalized
  have hunnest := unnest_rows (text "param_pair") hwindowed fun row =>
    pairs_eval e p [] _ (windowedRow e p normalized.columns windowedGroup row).queryString
  have hcount : (explodedOf e p normalized).rows.countP (g.counted key value) =
      ((g.urls e p normalized.rows).flatMap (codePairs e.lower)).count (key, value) := by
    rw [hexploded, List.countP_map, List.countP_filter, hunnest, List.countP_flatMap,
      ← g.urls_dated, ← g.sum_rows]
    refine congrArg List.sum (List.map_congr_left fun row _ => ?_)
    rw [← g.countP_items hvalue (windowedRow e p normalized.columns windowedGroup row)
      columns group]
    exact List.countP_map
  rw [scoredOf, numberIn_scored]
  exact congrArg (fun n : Nat => Value.number n) hcount

end

end Ga4Mcp.Tools
