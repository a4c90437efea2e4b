/-
  `scratchpad_set_runtime_limits` of `src/tools.rs`: both limits in one call.

  The session limit is stored before the table limit is checked, so a call that is refused for
  the second has changed the first.

  * `setRuntimeLimits_run`: a call is a run of the system.
  * `setRuntimeLimits_cases`: what a call can do.
  * `allOrNothing_iff`: when a call changes all that is asked for, or nothing.
-/
import Ga4Mcp.Scratchpad.System

namespace Ga4Mcp.Scratchpad

open Ga4Mcp.Lib

/-! ## The call -/

/-- The arguments of `scratchpad_set_runtime_limits`. -/
structure ScratchpadSetRuntimeLimitsArgs where
  maxSessions : Option Nat
  maxTablesPerSession : Option Nat
deriving DecidableEq, Repr

/-- A limit before and after. -/
structure LimitChange where
  previous : Nat
  updated : Nat
deriving DecidableEq, Repr

/-- What the tool answers. -/
structure RuntimeLimits where
  maxSessions : LimitChange
  maxTablesPerSession : LimitChange
  activeSessions : Nat
  note : Option Text
deriving DecidableEq, Repr

/-- A limit that is asked for is set. -/
def setRequested (set : Nat → Manager → Except AnalyticsError Manager) (requested : Option Nat)
    (m : Manager) : Except AnalyticsError Manager :=
  requested.elim (.ok m) fun limit => set limit m

/-- What is said when there are more sessions than the new limit. -/
def exceededNote : Text :=
  text ("active sessions currently exceed the new limit; existing sessions remain active but " ++
    "new sessions are blocked until usage drops")

section

variable (config : ScratchpadSessionConfig) (clock : Clock)

/-- The answer after both limits are set, with the limits before. -/
def reportRuntimeLimits (previous m : Manager) : Outcome RuntimeLimits :=
  (activeSessionCount config clock m).map fun activeSessions =>
    { maxSessions := ⟨previous.runtimeMaxSessions, m.runtimeMaxSessions⟩
      maxTablesPerSession := ⟨previous.runtimeMaxTablesPerSession, m.runtimeMaxTablesPerSession⟩
      activeSessions := activeSessions
      note := if activeSessions > m.runtimeMaxSessions then some exceededNote else none }

def scratchpadSetRuntimeLimits (args : ScratchpadSetRuntimeLimitsArgs) (m : Manager) :
    Outcome RuntimeLimits :=
  if args.maxSessions = none ∧ args.maxTablesPerSession = none then
    ⟨m, [], .error (.invalidArgument (text "runtime_limits")
      (text "provide at least one of max_sessions or max_tables_per_session"))⟩
  else
    match setRequested setMaxSessionsLimit args.maxSessions m with
    | .error err => ⟨m, [], .error err⟩
    | .ok m₁ =>
        match setRequested setMaxTablesPerSessionLimit args.maxTablesPerSession m₁ with
        -- the session limit is set by now
        | .error err => ⟨m₁, [], .error err⟩
        | .ok m₂ => reportRuntimeLimits config clock m m₂

/-! ## What a call does -/

variable {config clock}

/-- A limit that is asked for is set unless it is zero. -/
theorem setRequested_eq_ok {set : Nat → Manager → Except AnalyticsError Manager}
    {store : Nat → Manager → Manager} {err : AnalyticsError}
    (hset : ∀ limit m, set limit m = if limit = 0 then .error err else .ok (store limit m))
    {requested : Option Nat} {m m' : Manager} :
    setRequested set requested m = .ok m' ↔
      requested ≠ some 0 ∧ m' = requested.elim m fun limit => store limit m := by
  cases requested with
  | none =>
      exact ⟨fun h => ⟨by simp, (Except.ok.inj h).symm⟩, fun h => congrArg Except.ok h.2.symm⟩
  | some limit =>
      rw [setRequested, Option.elim_some, hset]
      by_cases hzero : limit = 0
      · simp [hzero]
      · simp [hzero, eq_comm]

theorem setMaxSessions_eq_ok {requested : Option Nat} {m m' : Manager} :
    setRequested setMaxSessionsLimit requested m = .ok m' ↔ requested ≠ some 0 ∧
      m' = { m with runtimeMaxSessions := requested.getD m.runtimeMaxSessions } := by
  rw [@setRequested_eq_ok setMaxSessionsLimit
    (fun limit m => { m with runtimeMaxSessions := limit }) _ fun _ _ => rfl]
  cases requested with
  | none => rfl
  | some limit => rfl

theorem setMaxTables_eq_ok {requested : Option Nat} {m m' : Manager} :
    setRequested setMaxTablesPerSessionLimit requested m = .ok m' ↔ requested ≠ some 0 ∧
      m' = { m with
        runtimeMaxTablesPerSession := requested.getD m.runtimeMaxTablesPerSession } := by
  rw [@setRequested_eq_ok setMaxTablesPerSessionLimit
    (fun limit m => { m with runtimeMaxTablesPerSession := limit }) _ fun _ _ => rfl]
  cases requested with
  | none => rfl
  | some limit => rfl

/-- What a call asks for. -/
def requestedLimits (args : ScratchpadSetRuntimeLimitsArgs) (m : Manager) : Manager :=
  { m with
    runtimeMaxSessions := args.maxSessions.getD m.runtimeMaxSessions
    runtimeMaxTablesPerSession :=
      args.maxTablesPerSession.getD m.runtimeMaxTablesPerSession }

/-- What a call can do. -/
inductive SetRuntimeLimits (config : ScratchpadSessionConfig) (clock : Clock)
    (args : ScratchpadSetRuntimeLimitsArgs) (m : Manager) : Outcome RuntimeLimits → Prop where
  | nothingAsked (err : AnalyticsError)
      (none : args.maxSessions = none ∧ args.maxTablesPerSession = none) :
      SetRuntimeLimits config clock args m ⟨m, [], .error err⟩
  | sessionsRefused (err : AnalyticsError) (zero : args.maxSessions = some 0) :
      SetRuntimeLimits config clock args m ⟨m, [], .error err⟩
  | tablesRefused (err : AnalyticsError) (sessions : args.maxSessions ≠ some 0)
      (zero : args.maxTablesPerSession = some 0) :
      SetRuntimeLimits config clock args m
        ⟨{ m with runtimeMaxSessions := args.maxSessions.getD m.runtimeMaxSessions }, [],
          .error err⟩
  | changed (sessions : args.maxSessions ≠ some 0) (tables : args.maxTablesPerSession ≠ some 0) :
      SetRuntimeLimits config clock args m
        (reportRuntimeLimits config clock m (requestedLimits args m))

theorem setRuntimeLimits_cases (args : ScratchpadSetRuntimeLimitsArgs) (m : Manager) :
    SetRuntimeLimits config clock args m (scratchpadSetRuntimeLimits config clock args m) := by
  unfold scratchpadSetRuntimeLimits
  split
  case isTrue hnone => exact .nothingAsked _ hnone
  case isFalse =>
    split
    case h_1 err hsessions =>
      refine .sessionsRefused err ?_
      by_contra hzero
      rw [setMaxSessions_eq_ok.mpr ⟨hzero, rfl⟩] at hsessions
      cases hsessions
    case h_2 m₁ hsessions =>
      obtain ⟨hzero, rfl⟩ := setMaxSessions_eq_ok.mp hsessions
      split
      case h_1 err htables =>
        refine .tablesRefused err hzero ?_
        by_contra htablesZero
        rw [setMaxTables_eq_ok.mpr ⟨htablesZero, rfl⟩] at htables
        cases htables
      case h_2 m₂ htables =>
        obtain ⟨htablesZero, rfl⟩ := setMaxTables_eq_ok.mp htables
        exact .changed hzero htablesZero

/-! ## In the system -/

section Runs

variable {n : Nat} {ρ : Type} [DecidableEq ρ]

/-- The change of the first limit, as steps of the system. -/
def sessionLabels (args : ScratchpadSetRuntimeLimitsArgs) : List (Label n ρ) :=
  args.maxSessions.toList.map .setMaxSessions

/-- The change of the second. -/
def tableLabels (args : ScratchpadSetRuntimeLimitsArgs) : List (Label n ρ) :=
  args.maxTablesPerSession.toList.map .setMaxTables

theorem runFrom_sessionLabels {args : ScratchpadSetRuntimeLimitsArgs}
    (h : args.maxSessions ≠ some 0) (s : Sys n ρ) (rest : List (Label n ρ)) :
    (system config n).runFrom s (sessionLabels args ++ rest) = (system config n).runFrom
      { s with manager := { s.manager with
        runtimeMaxSessions := args.maxSessions.getD s.manager.runtimeMaxSessions } } rest := by
  cases hrequested : args.maxSessions with
  | none => simp [sessionLabels, hrequested]
  | some limit =>
      have hne : limit ≠ 0 := fun hzero => h (by rw [hrequested, hzero])
      simp [sessionLabels, hrequested, Machine.runFrom, system, step, setMaxSessionsLimit, hne,
        Sys.withManager]

theorem runFrom_tableLabels {args : ScratchpadSetRuntimeLimitsArgs}
    (h : args.maxTablesPerSession ≠ some 0) (s : Sys n ρ) (rest : List (Label n ρ)) :
    (system config n).runFrom s (tableLabels args ++ rest) = (system config n).runFrom
      { s with manager := { s.manager with
        runtimeMaxTablesPerSession :=
          args.maxTablesPerSession.getD s.manager.runtimeMaxTablesPerSession } } rest := by
  cases hrequested : args.maxTablesPerSession with
  | none => simp [tableLabels, hrequested]
  | some limit =>
      have hne : limit ≠ 0 := fun hzero => h (by rw [hrequested, hzero])
      simp [tableLabels, hrequested, Machine.runFrom, system, step, setMaxTablesPerSessionLimit,
        hne, Sys.withManager]

/-- **A call is a run** of the system, by a client that has nothing else to do. -/
theorem setRuntimeLimits_run {s : Sys n ρ} {c : Fin n} (hidle : s.clients c = .idle)
    (clock : Clock) (args : ScratchpadSetRuntimeLimitsArgs) :
    ∃ labels s', (system config n).runFrom s labels = some s' ∧
      s'.manager = (scratchpadSetRuntimeLimits config clock args s.manager).manager := by
  have hcases := @setRuntimeLimits_cases config clock args s.manager
  generalize scratchpadSetRuntimeLimits config clock args s.manager = o at hcases ⊢
  cases hcases with
  | nothingAsked => exact ⟨[], s, rfl, rfl⟩
  | sessionsRefused => exact ⟨[], s, rfl, rfl⟩
  | tablesRefused err hsessions => exact ⟨_, _, runFrom_sessionLabels hsessions s [], rfl⟩
  | changed hsessions htables =>
      let asked : Sys n ρ := { s with manager := requestedLimits args s.manager }
      have hset : ∀ rest, (system config n).runFrom s
          (sessionLabels args ++ (tableLabels args ++ rest)) =
            (system config n).runFrom asked rest := by
        intro rest
        exact (runFrom_sessionLabels hsessions s _).trans (runFrom_tableLabels htables _ rest)
      have hcount : (system config n).runFrom asked [.start c .activeSessionCount clock] =
          some (asked.locked config clock c (.single .activeSessionCount)) := by
        simp [Machine.runFrom, system, step, asked, hidle, Client.idle, Op.plan]
      exact ⟨_, _, (hset _).trans hcount, rfl⟩

end Runs

/-! ## All or nothing -/

/-- The two limits. -/
def limits (m : Manager) : Nat × Nat := (m.runtimeMaxSessions, m.runtimeMaxTablesPerSession)

/-- A refused call changes no limit; an answered one sets what is asked for and nothing else,
    and reports the limits before and after. -/
structure AllOrNothing (args : ScratchpadSetRuntimeLimitsArgs) (m : Manager)
    (o : Outcome RuntimeLimits) : Prop where
  refused : ∀ err, o.result = .error err → limits o.manager = limits m
  changed : ∀ report, o.result = .ok report →
    limits o.manager = limits (requestedLimits args m) ∧
      report.maxSessions = ⟨m.runtimeMaxSessions, o.manager.runtimeMaxSessions⟩ ∧
      report.maxTablesPerSession =
        ⟨m.runtimeMaxTablesPerSession, o.manager.runtimeMaxTablesPerSession⟩

/-- Another session limit is asked for together with no tables at all. -/
def HalfRefused (args : ScratchpadSetRuntimeLimitsArgs) (m : Manager) : Prop :=
  args.maxTablesPerSession = some 0 ∧
    ∃ limit, args.maxSessions = some limit ∧ limit ≠ 0 ∧ limit ≠ m.runtimeMaxSessions

/-- **A call changes all or nothing** unless another session limit is asked for together with
    a table limit of zero. -/
theorem allOrNothing_iff (config : ScratchpadSessionConfig) (clock : Clock)
    (args : ScratchpadSetRuntimeLimitsArgs) (m : Manager) :
    AllOrNothing args m (scratchpadSetRuntimeLimits config clock args m) ↔
      ¬ HalfRefused args m := by
  have hcases := @setRuntimeLimits_cases config clock args m
  generalize scratchpadSetRuntimeLimits config clock args m = o at hcases ⊢
  cases hcases with
  | nothingAsked err hnone =>
      refine iff_of_true ⟨fun _ _ => rfl, fun _ h => (by cases h)⟩ ?_
      rintro ⟨hzero, -⟩
      rw [hnone.2] at hzero
      cases hzero
  | sessionsRefused err hzero =>
      refine iff_of_true ⟨fun _ _ => rfl, fun _ h => (by cases h)⟩ ?_
      rintro ⟨-, limit, hlimit, hne, -⟩
      exact hne (Option.some.inj (hlimit.symm.trans hzero))
  | tablesRefused err hsessions hzero =>
      -- the session limit is set, and it was the same before if nothing is to be noticed
      have hsame : limits { m with
            runtimeMaxSessions := args.maxSessions.getD m.runtimeMaxSessions } = limits m ↔
          ¬ HalfRefused args m := by
        cases hrequested : args.maxSessions with
        | none => simp [limits, HalfRefused, hrequested]
        | some limit =>
            have hne : limit ≠ 0 := fun h => hsessions (by rw [hrequested, h])
            simp [limits, HalfRefused, hrequested, hzero, hne]
      exact ⟨fun h => hsame.mp (h.refused err rfl),
        fun h => ⟨fun _ _ => hsame.mpr h, fun _ hok => (by cases hok)⟩⟩
  | changed hsessions htables =>
      refine iff_of_true ⟨fun _ h => (by cases h), ?_⟩ fun hhalf => htables hhalf.1
      intro report hreport
      obtain rfl := Except.ok.inj hreport
      exact ⟨rfl, rfl, rfl⟩

/-- A call that asks for 8 sessions and no tables is refused, and leaves 8 sessions behind. -/
theorem not_allOrNothing :
    let args : ScratchpadSetRuntimeLimitsArgs := ⟨some 8, some 0⟩
    let m := Manager.new defaultConfig
    let o := scratchpadSetRuntimeLimits defaultConfig (.at 0) args m
    limits m = (64, 32) ∧ o.result = .error (.invalidArgument (text "max_tables_per_session")
      (text "must be greater than zero")) ∧ limits o.manager = (8, 32) ∧
      ¬ AllOrNothing args m o := by
  refine ⟨rfl, rfl, rfl, fun h => ?_⟩
  exact absurd (h.refused _ rfl) (by decide)

end

end Ga4Mcp.Scratchpad
