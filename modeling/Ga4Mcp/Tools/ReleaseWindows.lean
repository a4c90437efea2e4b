/-
  The windows of the two release reports.

  * `ReleaseRegressionParams.period_eval`, `LandingParamShiftParams.period_eval`: the period
    of a day.
  * `windowsAsDocumented_iff`: when both are the documented one.
-/
import Ga4Mcp.Lib.Sql.Queries
import Ga4Mcp.Tools.ReleaseQueries

namespace Ga4Mcp.Tools

open Ga4Mcp.Lib.Sql

/-! ## Windows -/

/-- `event_date` of a row that is asked for nothing else. -/
def dayRow (day : Int) : Row := fun name => if name = text "event_date" then .date day else .null

theorem intervalOf_days (n : Nat) : intervalOf (Text.decimal n ++ text " day") = .interval n := by
  have hdigits : (Text.decimal n ++ text " day").takeWhile Char.isDigit = Text.decimal n := by
    rw [List.takeWhile_append_of_pos fun c hc => Text.isDigit_of_mem_decimal hc]
    have hstop : (text " day").takeWhile Char.isDigit = [] := by decide
    rw [hstop, List.append_nil]
  have hn : Nat.ofDigitChars 10 (Text.decimal n) 0 = n := Nat.ofDigitChars_ten_toDigits
  unfold intervalOf
  dsimp only
  rw [hdigits, List.drop_left]
  change (if text " day" = text " day" then Value.interval _ else _) = _
  rw [if_pos rfl, hn]

/-- A day between two bounds. -/
theorem within_eval {e : Engine} {group : List Row} {row : Row} {first last : Expr Text}
    {day a b : Int} (hrow : row (text "event_date") = .date day)
    (hfirst : first.eval e group row = .date a) (hlast : last.eval e group row = .date b) :
    ((within first last).eval e group row).isTrue = decide (a ≤ day ∧ day < b) := by
  have hcol : (col "event_date" : Expr Text).eval e group row = .date day := hrow
  simp only [within, Expr.eval, hcol, hfirst, hlast, Value.binary, Value.test, Value.compare?,
    Value.isGE_compare, Value.isLT_compare]
  by_cases ha : a ≤ day <;> by_cases hb : day < b <;> simp [ha, hb, Value.and, Value.isTrue]

theorem plusDays_eval (e : Engine) (group : List Row) (row : Row) (release : Text) (n : Nat) :
    (Expr.binary .plus (.date release) (.interval (Text.decimal n ++ text " day"))).eval e group
      row = .date (e.date release + n) := by
  simp only [Expr.eval, intervalOf_days]
  rfl

theorem minusDays_eval (e : Engine) (group : List Row) (row : Row) (release : Text) (n : Nat) :
    (Expr.binary .minus (.date release) (.interval (Text.decimal n ++ text " day"))).eval e group
      row = .date (e.date release - n) := by
  simp only [Expr.eval, intervalOf_days]
  rfl

theorem release_eval (e : Engine) (group : List Row) (row : Row) (release : Text) :
    (Expr.date release).eval e group row = .date (e.date release) := rfl

/-- The period of a day, in the regression report. -/
theorem ReleaseRegressionParams.period_eval (p : ReleaseRegressionParams) (e : Engine)
    (group : List Row) {row : Row} {day : Int} (hrow : row (text "event_date") = .date day) :
    p.slots.period.eval e group row =
      let r := e.date p.releaseDate
      if r - p.preDays ≤ day ∧ day < r then .text (text "pre")
      else if r ≤ day ∧ day < r + p.transitionDays then .text (text "transition")
      else if r + p.transitionDays ≤ day ∧ day < r + p.postDays then .text (text "post")
      else .null := by
  have hplus := plusDays_eval e group row p.releaseDate
  have hminus := minusDays_eval e group row p.releaseDate
  simp only [ReleaseSlots.period, Expr.eval, slots,
    within_eval hrow (hminus p.preDays) (release_eval e group row p.releaseDate),
    within_eval hrow (release_eval e group row p.releaseDate) (hplus p.transitionDays),
    within_eval hrow (hplus p.transitionDays) (hplus p.postDays), decide_eq_true_iff]

/-- The period of a day, in the landing report. -/
theorem LandingParamShiftParams.period_eval (p : LandingParamShiftParams) (e : Engine)
    (group : List Row) {row : Row} {day : Int} (hrow : row (text "event_date") = .date day) :
    p.slots.period.eval e group row =
      let r := e.date p.releaseDate
      if r - p.preDays ≤ day ∧ day < r then .text (text "pre")
      else if r + p.transitionDays ≤ day ∧ day < r + p.postWindowDays then .text (text "post")
      else .null := by
  have hplus := plusDays_eval e group row p.releaseDate
  have hminus := minusDays_eval e group row p.releaseDate
  simp only [LandingSlots.period, Expr.eval, slots,
    within_eval hrow (hminus p.preDays) (release_eval e group row p.releaseDate),
    within_eval hrow (hplus p.transitionDays) (hplus p.postWindowDays), decide_eq_true_iff]

/-! ## What the texts say of a day -/

/-- How a text classifies a day: the item `period` of its `windowed` rows. -/
def periodOf (e : Engine) (sql : Text) (day : Int) : Option Value := do
  let q ← readQuery sql
  let windowed ← q.ctes.lookup (text "windowed")
  windowed.items.findSome? (Item.eval e [] [] (dayRow day) (text "period"))

theorem periodOf_release (e : Engine) (p : ReleaseRegressionParams) (day : Int) :
    periodOf e (buildReleaseRegressionSql p) day =
      some (p.slots.period.eval e [] (dayRow day)) := by
  obtain ⟨ctes, body, hread⟩ := p.readQuery_eq
  have hlookup : (p.slots.ctes ++ ctes).lookup (text "windowed") = some p.slots.windowed := rfl
  rw [periodOf, hread, Option.bind_eq_bind, Option.bind_some, hlookup]
  rfl

theorem periodOf_landing (e : Engine) (p : LandingParamShiftParams) (day : Int) :
    periodOf e (buildLandingParamShiftSql p) day =
      some (p.slots.period.eval e [] (dayRow day)) := by
  have hlookup : p.slots.ctes.lookup (text "windowed") = some p.slots.windowed := rfl
  rw [periodOf, p.readQuery_eq, Option.bind_eq_bind, Option.bind_some, hlookup]
  rfl

/-- Days from one day on, before another one. -/
def Classifies (period : Option Value) (name : String) (first day last : Int) : Prop :=
  period = some (.text (text name)) ↔ first ≤ day ∧ day < last

/-- Both texts classify a day as the documentation of the arguments says: the post window has
    `postDays` days, after the transition window. -/
structure WindowsAsDocumented (e : Engine) (p : ReleaseRegressionParams)
    (p' : LandingParamShiftParams) (day : Int) : Prop where
  releasePre : Classifies (periodOf e (buildReleaseRegressionSql p) day) "pre"
    (e.date p.releaseDate - p.preDays) day (e.date p.releaseDate)
  releaseTransition : Classifies (periodOf e (buildReleaseRegressionSql p) day) "transition"
    (e.date p.releaseDate) day (e.date p.releaseDate + p.transitionDays)
  releasePost : Classifies (periodOf e (buildReleaseRegressionSql p) day) "post"
    (e.date p.releaseDate + p.transitionDays) day
    (e.date p.releaseDate + p.transitionDays + p.postDays)
  landingPre : Classifies (periodOf e (buildLandingParamShiftSql p') day) "pre"
    (e.date p'.releaseDate - p'.preDays) day (e.date p'.releaseDate)
  landingPost : Classifies (periodOf e (buildLandingParamShiftSql p') day) "post"
    (e.date p'.releaseDate + p'.transitionDays) day
    (e.date p'.releaseDate + p'.transitionDays + p'.postDays)
  agree : p.releaseDate = p'.releaseDate → p.preDays = p'.preDays →
    p.transitionDays = p'.transitionDays → p.postDays = p'.postDays →
    ∀ name ∈ ["pre", "post"],
      periodOf e (buildReleaseRegressionSql p) day = some (.text (text name)) ↔
        periodOf e (buildLandingParamShiftSql p') day = some (.text (text name))

theorem periods_ne : text "pre" ≠ text "transition" ∧ text "pre" ≠ text "post" ∧
    text "transition" ≠ text "post" := by
  decide +kernel

/-- **The windows** are the documented ones, up to the days that the regression report cuts
    off: it counts `postDays` from the release on. -/
theorem windowsAsDocumented_iff (e : Engine) (p : ReleaseRegressionParams)
    (p' : LandingParamShiftParams) (day : Int) :
    WindowsAsDocumented e p p' day ↔
      ¬ (e.date p.releaseDate + max p.transitionDays p.postDays ≤ day ∧
        day < e.date p.releaseDate + p.transitionDays + p.postDays) := by
  obtain ⟨hpt, hpp, htp⟩ := periods_ne
  have hrow : dayRow day (text "event_date") = .date day := if_pos rfl
  have hrelease := p.period_eval e [] hrow
  have hlanding := p'.period_eval e [] hrow
  have hwindow : (p'.postWindowDays : Int) = p'.transitionDays + p'.postDays :=
    Nat.cast_add _ _
  dsimp only at hrelease hlanding
  constructor
  · rintro ⟨-, -, hpost, -, -, -⟩ ⟨hfirst, hlast⟩
    have hsays := hpost.mpr ⟨by omega, hlast⟩
    rw [periodOf_release, hrelease, if_neg (by omega), if_neg (by omega),
      if_neg (by omega)] at hsays
    cases hsays
  · intro hcut
    have hreport := periodOf_release e p day
    have hshift := periodOf_landing e p' day
    rw [hrelease] at hreport
    rw [hlanding] at hshift
    constructor
    case agree =>
      intro hdate hpre htransition hpost name hname
      rw [← hdate, ← hpre, ← htransition] at hshift
      rw [List.mem_pair] at hname
      rw [hreport, hshift]
      obtain rfl | rfl := hname
      · grind
      · grind
    all_goals
      simp only [Classifies, hreport, hshift]
    · grind
    · grind
    · grind
    · grind
    · grind

/-! ## A sample -/

/-- An engine that knows one date. -/
def sampleEngine : Engine where
  date t := if t = text "2026-01-01" then 20454 else 0
  cast _ value := value
  lower := Text.toAsciiLowercase
  scalar _ _ := .null
  aggregate _ _ := .null
  window _ _ _ _ := .null

/-- A release report with its defaults. -/
def sampleReleaseArgs : ScratchpadReleaseRegressionArgs :=
  ⟨text "events", text "2026-01-01", text "begin_checkout", text "purchase", none, none, none,
    none, none, none⟩

/-- What they resolve to. -/
def sampleReleaseParams : ReleaseRegressionParams :=
  ⟨text "events", text "2026-01-01", text "begin_checkout", text "purchase", text "date",
    text "event_name", none, 7, 1, 7⟩

/-- A landing report with its defaults. -/
def sampleLandingArgs : ScratchpadLandingParamShiftArgs :=
  ⟨text "events", text "2026-01-01", none, none, none, none, none, none, none, none⟩

/-- What they resolve to. -/
def sampleLandingParams : LandingParamShiftParams :=
  ⟨text "events", text "2026-01-01", text "date_parsed", text "landingpageplusquerystring", none,
    none, 7, 1, 7, 100⟩

/-- With the default lengths, the seventh day after the release is in one post window only. -/
theorem not_windowsAsDocumented :
    (releaseRegressionParams sampleReleaseArgs).toOption = some sampleReleaseParams ∧
      (landingParamShiftParams sampleLandingArgs).toOption = some sampleLandingParams ∧
      ¬ WindowsAsDocumented sampleEngine sampleReleaseParams sampleLandingParams 20461 := by
  have hdate : sampleEngine.date sampleReleaseParams.releaseDate = 20454 := by
    change (if text "2026-01-01" = text "2026-01-01" then (20454 : Int) else 0) = 20454
    rw [if_pos rfl]
  have hrow : dayRow 20461 (text "event_date") = .date 20461 := if_pos rfl
  refine ⟨?_, ?_, fun h => ?_⟩
  · decide +kernel
  · decide +kernel
  · have hpost := h.releasePost.mpr (by rw [hdate]; decide)
    have heval := sampleReleaseParams.period_eval sampleEngine [] hrow
    rw [hdate] at heval
    rw [periodOf_release, heval] at hpost
    cases hpost

end Ga4Mcp.Tools
