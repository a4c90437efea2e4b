/-
  `ingest_rows_with_mode` of `src/scratchpad.rs`, taken as one operation: the checks, the
  reservation, the transaction, and the rollback of the reservation if that fails.

  * `runFrom_ingest`: it is what the steps of one client come to when no other client
    takes a step in between.
  * `ingest_ends`: it is refused, committed, or rolled back, with the counters and the
    files after it.
  * `ingestSettled_iff`: an error leaves counters and data as they were, and a success adds
    the rows and their number, exactly if the row counter does not overflow.

  A row limit of `usize::MAX` is accepted, and `saturating_add` never exceeds it: then rows
  are let in that the counter cannot count.
-/
import Ga4Mcp.Scratchpad.Counters
import Ga4Mcp.Scratchpad.System

namespace Ga4Mcp.Scratchpad

open Ga4Mcp.Lib

/-! ## The operation -/

/-- What the process holds: the manager and the database files. -/
structure Store (ρ : Type) where
  manager : Manager
  disk : Disk ρ

/-- The arguments of `ingest_rows_with_mode`. -/
structure IngestCall (ρ : Type) where
  sessionId : Text
  tableName : Text
  columns : List ScratchpadIngestColumn
  rows : List ρ
  mode : ScratchpadIngestMode

/-- Its result. -/
structure ScratchpadIngestStats where
  rowsInserted : Nat
  columnsInserted : Nat
  sessionSnapshot : ScratchpadSessionSnapshot
deriving DecidableEq, Repr

/-- The checks before the reservation, and the normalized session id. -/
def ingestArguments (raw tableName : Text) (columns : List ScratchpadIngestColumn) :
    Except AnalyticsError Text := do
  refuseIf columns.isEmpty
    (.invalidArgument (text "columns") (text "must include at least one column"))
  let id ← normalizeSessionId raw
  validateSqlIdentifier tableName (text "table_name")
  validateIngestColumns [] columns
  return id

/-- Paths removed one after the other. -/
def cleanupPaths {ρ : Type} (paths : List Path) (disk : Disk ρ) : Disk ρ :=
  paths.foldl Disk.remove disk

section Operation

variable (config : ScratchpadSessionConfig) (reserveClock rollbackClock : Clock) {ρ : Type}
  (answer : EngineAnswer ρ) (incarnation : Text → Nat) (s : Store ρ) (call : IngestCall ρ)

/-- What is written, for the session with this id. -/
def IngestCall.job (id : Text) : IngestJob ρ :=
  ⟨id, incarnation id, call.tableName, call.columns, call.rows, call.mode⟩

/-- The checks before the lock; the id comes back trimmed. -/
def IngestCall.arguments : Except AnalyticsError Text :=
  ingestArguments call.sessionId call.tableName call.columns

/-- The store after the call, and its answer. -/
def ingestRowsWithMode : Store ρ × Except AnalyticsError ScratchpadIngestStats :=
  match call.arguments with
  | .error err => (s, .error err)
  | .ok id =>
      let reserved :=
        reserveIngestCapacity config reserveClock s.manager id call.rows.length call.mode
      let disk := cleanupPaths reserved.cleanup s.disk
      match reserved.result with
      | .error err => (⟨reserved.manager, disk⟩, .error err)
      | .ok (dbPath, reservedSnapshot) =>
          match persistIngestTable answer (disk.tables dbPath) dbPath (call.job incarnation id) with
          | .ok db =>
              (⟨reserved.manager, disk.write (disk.connect dbPath) db⟩,
                .ok ⟨call.rows.length, call.columns.length, reservedSnapshot⟩)
          | .error err =>
              let rolledBack := rollbackIngestCapacity config rollbackClock reserved.manager id
                call.rows.length call.mode
              (⟨rolledBack.manager, cleanupPaths rolledBack.cleanup disk⟩, .error err)

end Operation

/-! ## What a call should do -/

section Settled

variable {ρ : Type}

/-- The path of a session. -/
def pathsIn (sessions : SessionMap) (id : Text) : Option Path :=
  (sessions.lookup id).map SessionEntry.dbPath

/-- The counters of every session and the tables and rows of every database are the same. -/
def SameContents (s s' : Store ρ) : Prop :=
  usedIn s'.manager.sessions = usedIn s.manager.sessions ∧
    ∀ path, s'.disk.tables path = s.disk.tables path

/-- In create mode a new table with the rows, in append mode the rows after those that the
    table has. -/
def Ingested (job : IngestJob ρ) (db db' : Db ρ) : Prop :=
  match job.mode with
  | .create => ¬ db.any (Table.isNamed job.tableName) ∧
      db' = db ++ [{ job.newTable with rows := job.rows }]
  | .append => ∃ before t after, t.isNamed job.tableName ∧ db = before ++ t :: after ∧
      db' = before ++ { t with rows := t.rows ++ job.rows } :: after

/-- The rows are in the table of the session, they are counted, and nothing else but the
    time of the last touch has changed. -/
def IngestDone (s s' : Store ρ) (job : IngestJob ρ) : Prop :=
  ∃ entry, s.manager.sessions.lookup job.sessionId = some entry ∧
    usedIn s'.manager.sessions = Function.update (usedIn s.manager.sessions) job.sessionId
      (some (entry.used + ingestCost job.rows.length job.mode)) ∧
    pathsIn s'.manager.sessions = pathsIn s.manager.sessions ∧
    s'.manager.runtimeMaxSessions = s.manager.runtimeMaxSessions ∧
    s'.manager.runtimeMaxTablesPerSession = s.manager.runtimeMaxTablesPerSession ∧
    Ingested job (s.disk.tables entry.dbPath) (s'.disk.tables entry.dbPath) ∧
    ∀ path, path ≠ entry.dbPath → s'.disk.tables path = s.disk.tables path

/-- A failed call leaves no trace, and a successful one does what it says. -/
def IngestSettled (incarnation : Text → Nat) (s : Store ρ) (call : IngestCall ρ)
    (outcome : Store ρ × Except AnalyticsError ScratchpadIngestStats) : Prop :=
  match outcome.2 with
  | .error _ => SameContents s outcome.1
  | .ok _ => ∃ id, call.arguments = .ok id ∧ IngestDone s outcome.1 (call.job incarnation id)

/-- No session expires while the call runs. -/
def NoneExpires (config : ScratchpadSessionConfig) (reserveClock rollbackClock : Clock)
    (m : Manager) (call : IngestCall ρ) : Prop :=
  LiveAt config reserveClock m ∧ ∀ id, call.arguments = .ok id →
    LiveAt config rollbackClock
      (reserveIngestCapacity config reserveClock m id call.rows.length call.mode).manager

/-- In create mode there is room for one more table. -/
def TableRoom (m : Manager) (mode : ScratchpadIngestMode) (entry : SessionEntry) : Prop :=
  mode = .create → entry.tablesUsed < m.runtimeMaxTablesPerSession

/-- The row limit can be exceeded by a `usize`, or the sum of the rows is one, unless the
    call is refused before the rows are counted. -/
def RowCounterFits (config : ScratchpadSessionConfig) (m : Manager) (call : IngestCall ρ) : Prop :=
  ∀ id entry, call.arguments = .ok id → m.sessions.lookup id = some entry →
    TableRoom m call.mode entry →
    config.maxRowsPerSession < usizeMax ∨ entry.rowsUsed + call.rows.length ≤ usizeMax

end Settled

/-! ## What is ingested -/

section Persisted

variable {ρ : Type} {answer : EngineAnswer ρ} {path : Path} {db db' : Db ρ}
  {job : IngestJob ρ}

theorem insertRow_first {tableName : Text} {before after : Db ρ} {t : Table ρ}
    (hbefore : ∀ u ∈ before, ¬ u.isNamed tableName) (ht : t.isNamed tableName) (row : ρ) :
    insertRow tableName row (before ++ t :: after) =
      before ++ { t with rows := t.rows ++ [row] } :: after := by
  induction before with
  | nil => exact if_pos ht
  | cons u before ih =>
      rw [List.forall_mem_cons] at hbefore
      rw [List.cons_append, insertRow, if_neg hbefore.1, ih hbefore.2, List.cons_append]

/-- The rows go to the first table of the name. -/
theorem insertRows_first {tableName : Text} {before after : Db ρ} {t : Table ρ}
    (hbefore : ∀ u ∈ before, ¬ u.isNamed tableName) (ht : t.isNamed tableName) (rows : List ρ) :
    insertRows tableName rows (before ++ t :: after) =
      before ++ { t with rows := t.rows ++ rows } :: after := by
  unfold insertRows
  induction rows generalizing t with
  | nil => simp
  | cons row rows ih =>
      have hnamed : Table.isNamed tableName { t with rows := t.rows ++ [row] } := ht
      rw [List.foldl_cons, insertRow_first hbefore ht, ih hnamed]
      simp

theorem ingested_of_persist_ok (h : persistIngestTable answer db path job = .ok db') :
    Ingested job db db' := by
  obtain ⟨target, hdb', hexists, htarget⟩ := persist_ok h
  unfold Ingested
  cases hmode : job.mode with
  | create =>
      have hfresh := fresh_of_persist_ok hmode h
      have hbefore : ∀ u ∈ db, ¬ u.isNamed job.tableName := by
        intro u hu hnamed
        exact hfresh (List.any_eq_true.mpr ⟨u, hu, hnamed⟩)
      have hnew : Table.isNamed job.tableName job.newTable := by
        simp [IngestJob.newTable, Table.isNamed, sameIdentifier]
      rw [if_pos hmode] at htarget
      refine ⟨hfresh, ?_⟩
      rw [hdb', htarget, insertRows_first hbefore hnew]
      rfl
  | append =>
      rw [if_neg (by rw [hmode]; decide)] at htarget
      subst htarget
      obtain ⟨t, ht⟩ := Option.isSome_iff_exists.mp (by rwa [List.find?_isSome, ← List.any_eq_true])
      obtain ⟨hnamed, before, after, happend, hbefore⟩ := List.find?_eq_some_iff_append.mp ht
      refine ⟨before, t, after, hnamed, happend, ?_⟩
      rw [hdb', happend]
      exact insertRows_first (fun u hu => by simpa using hbefore u hu) hnamed job.rows

end Persisted

/-! ## Reserving and rolling back -/

section Reserved

variable {config : ScratchpadSessionConfig} {clock : Clock} {m : Manager} {id : Text}
  {entry : SessionEntry} {rows : Nat} {mode : ScratchpadIngestMode}

/-- The entry after a reservation. -/
def SessionEntry.reserve (entry : SessionEntry) (clock : Clock) (rows : Nat)
    (mode : ScratchpadIngestMode) : SessionEntry :=
  { entry with
    tablesUsed := if mode = .create then entry.tablesUsed + 1 else entry.tablesUsed
    rowsUsed := saturatingAdd entry.rowsUsed rows
    lastTouched := clock.touch }

theorem used_reserve : (entry.reserve clock rows mode).used =
    (entry.tablesUsed + (ingestCost rows mode).1, saturatingAdd entry.rowsUsed rows) := by
  cases mode <;> rfl

theorem reserveIngestCapacity_of_room
    (hlookup : (prunedSessions config clock m).lookup id = some entry)
    (htables : TableRoom m mode entry)
    (hrows : saturatingAdd entry.rowsUsed rows ≤ config.maxRowsPerSession) :
    reserveIngestCapacity config clock m id rows mode =
      ⟨{ m with
          sessions := (prunedSessions config clock m).insert id (entry.reserve clock rows mode) },
        removedPaths config clock m,
        .ok (entry.dbPath, snapshotOf config m (entry.reserve clock rows mode))⟩ := by
  unfold reserveIngestCapacity
  have hroom : ¬ (mode = .create ∧ entry.tablesUsed ≥ m.runtimeMaxTablesPerSession) :=
    fun h => absurd (htables h.1) (not_lt.mpr h.2)
  simp only [hlookup, if_neg hroom, if_neg (not_lt.mpr hrows)]
  rfl

/-- Without a session, or without room, nothing is reserved. -/
theorem reserveIngestCapacity_refused
    (h : ∀ entry, (prunedSessions config clock m).lookup id = some entry →
      TableRoom m mode entry → config.maxRowsPerSession < saturatingAdd entry.rowsUsed rows) :
    ∃ cleanup err, (cleanup = [] ∨ cleanup = removedPaths config clock m) ∧
      reserveIngestCapacity config clock m id rows mode =
        ⟨{ m with sessions := prunedSessions config clock m }, cleanup, .error err⟩ := by
  unfold reserveIngestCapacity
  dsimp only
  cases hlookup : (prunedSessions config clock m).lookup id with
  | none => exact ⟨_, _, .inl rfl, rfl⟩
  | some entry =>
      dsimp only
      split
      case isTrue => exact ⟨_, _, .inr rfl, rfl⟩
      case isFalse hroom =>
        have htables : TableRoom m mode entry := fun hmode => not_le.mp fun h => hroom ⟨hmode, h⟩
        rw [if_pos (h entry hlookup htables)]
        exact ⟨_, _, .inr rfl, rfl⟩

theorem pathsIn_insert {sessions : SessionMap} {entry' : SessionEntry}
    (hlookup : sessions.lookup id = some entry) (hpath : entry'.dbPath = entry.dbPath) :
    pathsIn (sessions.insert id entry') = pathsIn sessions := by
  funext j
  unfold pathsIn
  by_cases hj : j = id
  · rw [hj, AList.lookup_insert, hlookup, Option.map_some, Option.map_some, hpath]
  · rw [AList.lookup_insert_ne hj]

theorem pathsIn_prunedSessions (h : LiveAt config clock m) :
    pathsIn (prunedSessions config clock m) = pathsIn m.sessions := by
  funext j
  rw [pathsIn, lookup_prunedSessions_of_liveAt h, pathsIn]

theorem cleanup_reserveIngestCapacity (h : LiveAt config clock m) :
    (reserveIngestCapacity config clock m id rows mode).cleanup = [] := by
  unfold reserveIngestCapacity
  dsimp only
  cases (prunedSessions config clock m).lookup id with
  | none => rfl
  | some entry =>
      dsimp only
      split
      · exact removedPaths_of_liveAt h
      · split <;> exact removedPaths_of_liveAt h

theorem cleanup_rollbackIngestCapacity (h : LiveAt config clock m) :
    (rollbackIngestCapacity config clock m id rows mode).cleanup = [] := by
  unfold rollbackIngestCapacity
  dsimp only
  cases (prunedSessions config clock m).lookup id with
  | none => exact removedPaths_of_liveAt h
  | some entry => exact removedPaths_of_liveAt h

end Reserved

/-! ## How a call ends -/

section Cases

variable {config : ScratchpadSessionConfig} {reserveClock rollbackClock : Clock} {ρ : Type}
  {answer : EngineAnswer ρ} {incarnation : Text → Nat} {s : Store ρ} {call : IngestCall ρ}

/-- The counters of a session after its reservation. -/
def SessionEntry.charged (entry : SessionEntry) (call : IngestCall ρ) : Nat × Nat :=
  (entry.tablesUsed + (ingestCost call.rows.length call.mode).1,
    saturatingAdd entry.rowsUsed call.rows.length)

/-- The call has counted its rows. -/
def Counted (config : ScratchpadSessionConfig) (m : Manager) (call : IngestCall ρ) (id : Text)
    (entry : SessionEntry) : Prop :=
  call.arguments = .ok id ∧ m.sessions.lookup id = some entry ∧ TableRoom m call.mode entry ∧
    saturatingAdd entry.rowsUsed call.rows.length ≤ config.maxRowsPerSession

/-- No session expires before the call has ended; a call that is refused ends with its
    reservation. -/
def StaysLive (config : ScratchpadSessionConfig) (reserveClock rollbackClock : Clock)
    (m : Manager) (call : IngestCall ρ) : Prop :=
  ∀ id, call.arguments = .ok id → LiveAt config reserveClock m ∧
    ∀ entry, Counted config m call id entry → LiveAt config rollbackClock
      (reserveIngestCapacity config reserveClock m id call.rows.length call.mode).manager

theorem NoneExpires.staysLive {m : Manager}
    (h : NoneExpires config reserveClock rollbackClock m call) :
    StaysLive config reserveClock rollbackClock m call :=
  fun id hargs => ⟨h.1, fun _ _ => h.2 id hargs⟩

/-- The ends of a call, with the counters and the files after it. -/
inductive IngestEnd (config : ScratchpadSessionConfig) (answer : EngineAnswer ρ)
    (incarnation : Text → Nat) (s : Store ρ) (call : IngestCall ρ) :
    Store ρ × Except AnalyticsError ScratchpadIngestStats → Prop where
  | refused {s' : Store ρ} (err : AnalyticsError)
      (uncounted : ∀ id entry, ¬ Counted config s.manager call id entry)
      (same : SameContents s s') : IngestEnd config answer incarnation s call (s', .error err)
  | committed {s' : Store ρ} (stats : ScratchpadIngestStats) (id : Text) (entry : SessionEntry)
      (db : Db ρ) (counted : Counted config s.manager call id entry)
      (commit : persistIngestTable answer (s.disk.tables entry.dbPath) entry.dbPath
          (call.job incarnation id) = .ok db)
      (used : usedIn s'.manager.sessions =
        Function.update (usedIn s.manager.sessions) id (some (entry.charged call)))
      (paths : pathsIn s'.manager.sessions = pathsIn s.manager.sessions)
      (maxSessions : s'.manager.runtimeMaxSessions = s.manager.runtimeMaxSessions)
      (maxTables : s'.manager.runtimeMaxTablesPerSession = s.manager.runtimeMaxTablesPerSession)
      (disk : s'.disk = s.disk.write (s.disk.connect entry.dbPath) db) :
      IngestEnd config answer incarnation s call (s', .ok stats)
  | rolledBack {s' : Store ρ} (err : AnalyticsError) (id : Text) (entry : SessionEntry)
      (counted : Counted config s.manager call id entry)
      (used : usedIn s'.manager.sessions = Function.update (usedIn s.manager.sessions) id
        (some (entry.charged call - ingestCost call.rows.length call.mode)))
      (disk : s'.disk = s.disk) : IngestEnd config answer incarnation s call (s', .error err)

theorem ingest_ends (hlive : StaysLive config reserveClock rollbackClock s.manager call) :
    IngestEnd config answer incarnation s call
      (ingestRowsWithMode config reserveClock rollbackClock answer incarnation s call) := by
  unfold ingestRowsWithMode
  cases hargs : call.arguments with
  | error err =>
      refine .refused err (fun id entry hcounted => ?_) ⟨rfl, fun _ => rfl⟩
      have hok := hcounted.1
      rw [hargs] at hok
      cases hok
  | ok id =>
      have hlive₁ : LiveAt config reserveClock s.manager := (hlive id hargs).1
      by_cases hcounted : ∃ entry, Counted config s.manager call id entry
      · obtain ⟨entry, hcounted⟩ := hcounted
        have ⟨_, hentry, htables, hrows⟩ := hcounted
        have hpruned : (prunedSessions config reserveClock s.manager).lookup id = some entry := by
          rw [lookup_prunedSessions_of_liveAt hlive₁, hentry]
        have hreserve := reserveIngestCapacity_of_room hpruned htables hrows
        have hlive₂ := (hlive id hargs).2 entry hcounted
        rw [hreserve] at hlive₂
        simp only [hreserve, removedPaths_of_liveAt hlive₁, cleanupPaths, List.foldl_nil]
        have hused : usedIn ((prunedSessions config reserveClock s.manager).insert id
            (entry.reserve reserveClock call.rows.length call.mode)) =
              Function.update (usedIn s.manager.sessions) id (some (entry.charged call)) := by
          rw [usedIn_insert, usedIn_prunedSessions hlive₁, used_reserve]
          rfl
        have hpaths : pathsIn ((prunedSessions config reserveClock s.manager).insert id
            (entry.reserve reserveClock call.rows.length call.mode)) =
              pathsIn s.manager.sessions := by
          rw [pathsIn_insert hpruned (by rfl), pathsIn_prunedSessions hlive₁]
        cases hpersist : persistIngestTable answer (s.disk.tables entry.dbPath) entry.dbPath
            (call.job incarnation id) with
        | ok db => exact .committed _ id entry db hcounted hpersist hused hpaths rfl rfl rfl
        | error err =>
            refine .rolledBack err id entry hcounted ?_ ?_
            · rw [usedIn_rollbackIngestCapacity hlive₂, hused, Function.update_idem,
                Function.update_self]
              rfl
            · rw [cleanup_rollbackIngestCapacity hlive₂]
              rfl
      · have hfull : ∀ entry,
            (prunedSessions config reserveClock s.manager).lookup id = some entry →
            TableRoom s.manager call.mode entry →
            config.maxRowsPerSession < saturatingAdd entry.rowsUsed call.rows.length :=
          fun entry hentry htables => not_le.mp fun hrows => hcounted
            ⟨entry, hargs, (lookup_prunedSessions_of_liveAt hlive₁ id).symm.trans hentry,
              htables, hrows⟩
        obtain ⟨cleanup, err, hcleanup, hrefused⟩ := reserveIngestCapacity_refused hfull
        have hnone : cleanup = [] := by
          rcases hcleanup with h | h
          · exact h
          · rw [h, removedPaths_of_liveAt hlive₁]
        simp only [hrefused, hnone, cleanupPaths, List.foldl_nil]
        refine .refused err (fun j entry hj => hcounted ?_)
          ⟨usedIn_prunedSessions hlive₁, fun _ => rfl⟩
        obtain rfl : id = j := Except.ok.inj (hargs.symm.trans hj.1)
        exact ⟨entry, hj⟩

end Cases

/-! ## The call in the machine -/

section Machine

variable {config : ScratchpadSessionConfig} {reserveClock rollbackClock : Clock} {n : Nat}
  {ρ : Type} {answer : EngineAnswer ρ} {s : Sys n ρ} {c : Fin n} {call : IngestCall ρ}

/-- The manager and the files, without the clients. -/
def Sys.store (s : Sys n ρ) : Store ρ := ⟨s.manager, s.disk⟩

/-- The call as an operation of the system. -/
def IngestCall.op (call : IngestCall ρ) : Op ρ :=
  .ingestRowsWithMode call.sessionId call.tableName call.columns call.rows call.mode

/-- Its part under the lock, and what follows. -/
def IngestCall.plan (call : IngestCall ρ) (id : Text) : Plan ρ :=
  ⟨.reserveIngestCapacity id call.rows.length call.mode, fun incarnation path =>
    .ingestPersist (call.job incarnation id) path⟩

theorem plan_ingest : call.op.plan config = call.arguments.map call.plan := by
  dsimp only [IngestCall.op, Op.plan, IngestCall.arguments, ingestArguments]
  cases refuseIf (call.columns.isEmpty : Prop) (AnalyticsError.invalidArgument (text "columns")
    (text "must include at least one column")) with
  | error err => rfl
  | ok _ =>
    cases normalizeSessionId call.sessionId with
    | error err => rfl
    | ok id =>
      cases validateSqlIdentifier call.tableName (text "table_name") with
      | error err => rfl
      | ok _ =>
        cases validateIngestColumns [] call.columns with
        | error err => rfl
        | ok _ => rfl

/-- The steps that one client takes for the call. -/
inductive IngestLabels (reserveClock rollbackClock : Clock) (answer : EngineAnswer ρ)
    (c : Fin n) (call : IngestCall ρ) : List (Label n ρ) → Prop where
  | refused : IngestLabels reserveClock rollbackClock answer c call [.start c call.op reserveClock]
  | committed : IngestLabels reserveClock rollbackClock answer c call
      [.start c call.op reserveClock, .engine c answer]
  | rolledBack : IngestLabels reserveClock rollbackClock answer c call
      [.start c call.op reserveClock, .engine c answer, .finish c rollbackClock]

theorem step_start {s : Sys n ρ} [DecidableEq ρ] {plan : Plan ρ} {op : Op ρ}
    (hc : s.clients c = .idle) (hplan : op.plan config = .ok plan) :
    (system config n).step s (.start c op reserveClock) =
      some (s.locked config reserveClock c plan) := by
  change step config s (.start c op reserveClock) = _
  simp only [step, hc, Client.idle, hplan]

theorem step_engine [DecidableEq ρ] {s : Sys n ρ} {next next' : Next ρ} {disk : Disk ρ}
    (hc : s.clients c = ⟨[], next⟩) (hwork : engineStep answer s.disk next = some (disk, next')) :
    (system config n).step s (.engine c answer) = some (s.worked c disk next') := by
  change step config s (.engine c answer) = _
  simp only [step, hc, hwork, Option.map_some]

theorem step_finish [DecidableEq ρ] {s : Sys n ρ} {next : Next ρ} {locked : LockedCall}
    (hc : s.clients c = ⟨[], next⟩) (hlocked : next.locked = some locked) :
    (system config n).step s (.finish c rollbackClock) =
      some (s.locked config rollbackClock c (.single locked)) := by
  change step config s (.finish c rollbackClock) = _
  simp only [step, hc, hlocked, Option.map_some]

theorem runFrom_step [DecidableEq ρ] {s s' : Sys n ρ} {label : Label n ρ}
    {labels : List (Label n ρ)} (h : (system config n).step s label = some s') :
    (system config n).runFrom s (label :: labels) = (system config n).runFrom s' labels := by
  rw [Machine.runFrom, h, Option.bind_some]

/-- A client that has nothing more to do. -/
theorem update_idle {s : Sys n ρ} (hc : s.clients c = .idle) {client : Client ρ}
    (h : client = .idle) : Function.update s.clients c client = s.clients := by
  rw [h, ← hc, Function.update_eq_self]

/-- A locked step that comes last. -/
theorem locked_single_clients {s : Sys n ρ} {clock : Clock} {locked : LockedCall}
    (h : (locked.exec config clock s.manager).cleanup = []) :
    (s.locked config clock c (.single locked)).clients = Function.update s.clients c .idle := by
  have hnext : s.nextAfter config clock (.single locked) = .idle := by
    unfold Sys.nextAfter
    split <;> rfl
  rw [Sys.locked, hnext]
  exact congrArg (fun pending => Function.update s.clients c ⟨pending, .idle⟩) h

theorem incarnationAfter_reserve {s : Sys n ρ} (clock : Clock) (id : Text) (rows : Nat)
    (mode : ScratchpadIngestMode) :
    s.incarnationAfter config clock (.reserveIngestCapacity id rows mode) = s.incarnation := by
  funext j
  exact if_neg (not_opens_of_enters rfl j)

/-- The reserving step as the call of `exec`. -/
theorem exec_ingestPlan (id : Text) : (call.plan id).call.exec config reserveClock s.manager =
    (reserveIngestCapacity config reserveClock s.manager id call.rows.length call.mode).map
      fun a => some a.1 := rfl

/-- After a reservation the client is on its way to the database. -/
theorem locked_ingest_clients {id : Text} {dbPath : Path} {snapshot : ScratchpadSessionSnapshot}
    (hlive : LiveAt config reserveClock s.manager)
    (hresult : (reserveIngestCapacity config reserveClock s.manager id call.rows.length
      call.mode).result = .ok (dbPath, snapshot)) :
    (s.locked config reserveClock c (call.plan id)).clients c =
      ⟨[], .ingestPersist (call.job s.incarnation id) dbPath⟩ := by
  have hcleanup : ((call.plan id).call.exec config reserveClock s.manager).cleanup = [] :=
    cleanup_reserveIngestCapacity hlive
  have hdone : ((call.plan id).call.exec config reserveClock s.manager).result =
      .ok (some dbPath) := by rw [exec_ingestPlan, Outcome.map, hresult]; rfl
  rw [locked_clients_self, hcleanup, nextAfter_of_ok hdone]
  exact congrArg (fun incarnation => Client.mk [] (.ingestPersist (call.job incarnation id) dbPath))
    (incarnationAfter_reserve ..)

theorem update_locked_idle (hc : s.clients c = .idle) (clock : Clock) (plan : Plan ρ) :
    Function.update (s.locked config clock c plan).clients c .idle = s.clients := by
  rw [Sys.locked, Function.update_idem, ← hc, Function.update_eq_self]

/-- **The call is a run of its client.** -/
theorem runFrom_ingest [DecidableEq ρ] (hc : s.clients c = .idle)
    (hlive : NoneExpires config reserveClock rollbackClock s.manager call) :
    ∃ labels s', IngestLabels reserveClock rollbackClock answer c call labels ∧
      (system config n).runFrom s labels = some s' ∧
      s'.store = (ingestRowsWithMode config reserveClock rollbackClock answer s.incarnation
        s.store call).1 ∧
      s'.clients = s.clients := by
  unfold ingestRowsWithMode
  cases hargs : call.arguments with
  | error err =>
      have hplan : call.op.plan config = .error err := by rw [plan_ingest, hargs]; rfl
      have hstep : (system config n).step s (.start c call.op reserveClock) = some s := by
        change step config s (.start c call.op reserveClock) = _
        simp only [step, hc, Client.idle, hplan]
      exact ⟨_, s, .refused, runFrom_step hstep, rfl, rfl⟩
  | ok id =>
      have hplan : call.op.plan config = .ok (call.plan id) := by rw [plan_ingest, hargs]; rfl
      have hstart : (system config n).step s (.start c call.op reserveClock) =
          some (s.locked config reserveClock c (call.plan id)) := step_start hc hplan
      have hlive₂ := hlive.2 id hargs
      have hcleanup : (reserveIngestCapacity config reserveClock s.manager id
          call.rows.length call.mode).cleanup = [] := cleanup_reserveIngestCapacity hlive.1
      dsimp only [Sys.store]
      have hclient := fun dbPath snapshot =>
        @locked_ingest_clients config reserveClock n ρ s c call id dbPath snapshot hlive.1
      have hexec := @exec_ingestPlan config reserveClock n ρ s call id
      generalize hreserved : reserveIngestCapacity config reserveClock s.manager id
        call.rows.length call.mode = reserved at hlive₂ hcleanup hclient hexec
      rw [hcleanup]
      cases hresult : reserved.result with
      | error err =>
          refine ⟨_, _, .refused, runFrom_step hstart, ?_, update_idle hc ?_⟩
          · simp only [Sys.locked, hexec]
            rfl
          · have hfailed : ((call.plan id).call.exec config reserveClock s.manager).result =
                .error err := by rw [hexec, Outcome.map, hresult]; rfl
            rw [nextAfter_of_error hfailed, hexec]
            exact congrArg (Client.mk · .idle) hcleanup
      | ok reservation =>
          obtain ⟨dbPath, snapshot⟩ := reservation
          specialize hclient dbPath snapshot hresult
          have hmanager : (s.locked config reserveClock c (call.plan id)).manager =
              reserved.manager := by rw [Sys.locked, hexec]; rfl
          simp only [cleanupPaths, List.foldl_nil]
          cases hpersist : persistIngestTable answer (s.disk.tables dbPath) dbPath
              (call.job s.incarnation id) with
          | ok db =>
              have hwork : engineStep answer s.disk
                  (.ingestPersist (call.job s.incarnation id) dbPath) =
                    some (s.disk.write (s.disk.connect dbPath) db, .idle) := by
                rw [engineStep, hpersist]
              refine ⟨_, _, .committed, (runFrom_step hstart).trans
                (runFrom_step (step_engine hclient hwork)), ?_, update_locked_idle hc ..⟩
              exact congrArg (Store.mk · _) hmanager
          | error err =>
              have hwork : engineStep answer s.disk
                  (.ingestPersist (call.job s.incarnation id) dbPath) =
                    some (s.disk, .ingestRollback (call.job s.incarnation id)) := by
                rw [engineStep, hpersist]
              have hwaiting : ((s.locked config reserveClock c (call.plan id)).worked c s.disk
                  (.ingestRollback (call.job s.incarnation id))).clients c =
                    ⟨[], .ingestRollback (call.job s.incarnation id)⟩ := worked_clients_self
              have hfinish := @step_finish config rollbackClock n ρ c _ _ _ _ hwaiting rfl
              have hpending : (rollbackIngestCapacity config rollbackClock reserved.manager id
                  call.rows.length call.mode).cleanup = [] :=
                cleanup_rollbackIngestCapacity hlive₂
              refine ⟨_, _, .rolledBack, (runFrom_step hstart).trans ((runFrom_step
                (step_engine hclient hwork)).trans (runFrom_step hfinish)), ?_, ?_⟩
              · dsimp only
                rw [hpending, ← hmanager]
                rfl
              · rw [← hmanager] at hpending
                refine (locked_single_clients ?_).trans ?_
                · exact hpending
                · rw [Sys.worked, Function.update_idem, update_locked_idle hc]

end Machine

/-! ## No trace, or all of it -/

section Exact

variable {config : ScratchpadSessionConfig} {reserveClock rollbackClock : Clock} {ρ : Type}
  {answer : EngineAnswer ρ} {incarnation : Text → Nat} {s : Store ρ} {call : IngestCall ρ}

/-- The sum of the rows is what the counter says. -/
def NoOverflow (call : IngestCall ρ) (entry : SessionEntry) : Prop :=
  entry.rowsUsed + call.rows.length ≤ usizeMax

theorem charged_of_noOverflow {entry : SessionEntry} (h : NoOverflow call entry) :
    entry.charged call = entry.used + ingestCost call.rows.length call.mode := by
  have hsum : saturatingAdd entry.rowsUsed call.rows.length = entry.rowsUsed + call.rows.length :=
    Nat.min_eq_left h
  rw [SessionEntry.charged, hsum]
  rfl

theorem charged_of_overflow {entry : SessionEntry} (h : ¬ NoOverflow call entry) :
    (entry.charged call).2 = usizeMax :=
  Nat.min_eq_right (le_of_lt (not_le.mp h))

theorem rowCounterFits_iff : RowCounterFits config s.manager call ↔
    ∀ id entry, Counted config s.manager call id entry → NoOverflow call entry := by
  constructor
  · intro h id entry ⟨hargs, hlookup, htables, hrows⟩
    rcases h id entry hargs hlookup htables with hlimit | hsum
    · have hbelow : min (entry.rowsUsed + call.rows.length) usizeMax < usizeMax :=
        lt_of_le_of_lt hrows hlimit
      unfold NoOverflow
      omega
    · exact hsum
  · intro h id entry hargs hlookup htables
    by_cases hlimit : config.maxRowsPerSession < usizeMax
    · exact .inl hlimit
    · have hle : saturatingAdd entry.rowsUsed call.rows.length ≤ config.maxRowsPerSession :=
        le_trans (saturatingAdd_le ..) (not_lt.mp hlimit)
      exact .inr (h id entry ⟨hargs, hlookup, htables, hle⟩)

theorem settled_of_noOverflow
    {outcome : Store ρ × Except AnalyticsError ScratchpadIngestStats}
    (hend : IngestEnd config answer incarnation s call outcome)
    (h : ∀ id entry, Counted config s.manager call id entry → NoOverflow call entry) :
    IngestSettled incarnation s call outcome := by
  cases hend with
  | refused err _ same => exact same
  | @committed s' stats id entry db counted commit used paths maxSessions maxTables disk =>
      refine ⟨id, counted.1, entry, counted.2.1, ?_, paths, maxSessions, maxTables, ?_, ?_⟩
      · rw [used, charged_of_noOverflow (h id entry counted)]
        rfl
      · rw [disk, Disk.tables_write_connect]
        exact ingested_of_persist_ok commit
      · intro path hpath
        rw [disk, Disk.tables_write_ne _ hpath]
  | rolledBack err id entry counted used disk =>
      refine ⟨?_, fun path => by rw [disk]⟩
      have hback : entry.used + ingestCost call.rows.length call.mode -
          ingestCost call.rows.length call.mode = entry.used := by
        ext
        · exact Nat.add_sub_cancel ..
        · exact Nat.add_sub_cancel ..
      rw [used, charged_of_noOverflow (h id entry counted), hback,
        ← usedIn_of_lookup counted.2.1, Function.update_eq_self]

theorem noOverflow_of_settled
    {outcome : Store ρ × Except AnalyticsError ScratchpadIngestStats}
    (hend : IngestEnd config answer incarnation s call outcome)
    (hlength : call.rows.length ≤ usizeMax) (h : IngestSettled incarnation s call outcome)
    {id : Text} {entry : SessionEntry} (hcounted : Counted config s.manager call id entry) :
    NoOverflow call entry := by
  have hsame : ∀ {j e}, Counted config s.manager call j e → j = id ∧ e = entry := by
    intro j e hj
    obtain rfl : j = id := Except.ok.inj (hj.1.symm.trans hcounted.1)
    exact ⟨rfl, Option.some.inj (hj.2.1.symm.trans hcounted.2.1)⟩
  by_contra hoverflow
  have hfull := charged_of_overflow hoverflow
  unfold NoOverflow at hoverflow
  cases hend with
  | refused err uncounted _ => exact uncounted id entry hcounted
  | committed stats j e db counted _ used _ _ _ _ =>
      obtain ⟨rfl, rfl⟩ := hsame counted
      obtain ⟨j', hj', e', he', hused, _⟩ := h
      obtain rfl : j = j' := Except.ok.inj (counted.1.symm.trans hj')
      obtain rfl : e = e' := Option.some.inj (counted.2.1.symm.trans he')
      -- the counter stands at its end, and should stand beyond it
      have hcharged : e.charged call = e.used + ingestCost call.rows.length call.mode := by
        have hat := congrFun (used.symm.trans hused) j
        simpa [IngestCall.job] using hat
      have hrows : usizeMax = e.rowsUsed + call.rows.length := by
        rw [← hfull, hcharged]
        rfl
      omega
  | rolledBack err j e counted used _ =>
      obtain ⟨rfl, rfl⟩ := hsame counted
      have hback : e.charged call - ingestCost call.rows.length call.mode = e.used := by
        have hat := congrFun (used.symm.trans h.1) j
        rw [Function.update_self, usedIn_of_lookup counted.2.1] at hat
        exact Option.some.inj hat
      have hrows : usizeMax - call.rows.length = e.rowsUsed := by
        rw [← hfull]
        exact congrArg Prod.snd hback
      omega

/-- **A failed ingest leaves no trace** and a successful one adds its rows and their number,
    exactly if the row counter does not overflow. -/
theorem ingestSettled_iff
    (hlive : NoneExpires config reserveClock rollbackClock s.manager call)
    (hlength : call.rows.length ≤ usizeMax) :
    IngestSettled incarnation s call
      (ingestRowsWithMode config reserveClock rollbackClock answer incarnation s call) ↔
    RowCounterFits config s.manager call := by
  rw [rowCounterFits_iff]
  have hend : IngestEnd config answer incarnation s call
      (ingestRowsWithMode config reserveClock rollbackClock answer incarnation s call) :=
    ingest_ends hlive.staysLive
  exact ⟨fun h _ _ hcounted => noOverflow_of_settled hend hlength h hcounted,
    settled_of_noOverflow hend⟩

end Exact

/-! ## A full counter -/

/-- A run that opens a session. -/
def openOnly : List (Label 1 Nat) :=
  [.start 0 (.openSession (text "s")) (.at 0), .engine 0 .fine, .finish 0 (.at 0)]

/-- An ingest of rows into the table `t`. -/
def rowsToT (rows : List Nat) : IngestCall Nat :=
  ⟨text "s", text "t", [⟨text "a", text "integer"⟩], rows, .create⟩

/-- The state behind that run. -/
def opened : Sys 1 Nat :=
  ((system defaultConfig 1).runFrom (Sys.start defaultConfig) openOnly).get (by decide +kernel)

theorem ingestSettled_opened :
    IngestSettled opened.incarnation opened.store (rowsToT [1, 2])
      (ingestRowsWithMode defaultConfig (.at 1) (.at 2) .fine opened.incarnation opened.store
        (rowsToT [1, 2])) := by
  have hlive : NoneExpires defaultConfig (.at 1) (.at 2) opened.store.manager (rowsToT [1, 2]) := by
    refine ⟨by decide +kernel, fun id hid => ?_⟩
    obtain rfl : text "s" = id := Except.ok.inj hid
    decide +kernel
  exact (ingestSettled_iff hlive (by decide)).mpr fun _ _ _ _ _ => .inl (by decide)

/-- No number of rows is too many. -/
def unlimitedConfig : ScratchpadSessionConfig :=
  { defaultConfig with maxRowsPerSession := usizeMax }

/-- A session whose row counter is at its greatest. -/
def full : Sys 1 Nat :=
  ((system unlimitedConfig 1).runFrom (Sys.start unlimitedConfig)
    (openOnly ++ [.start 0 (.noteRowsIngested (text "s") usizeMax) (.at 1)])).get
    (by decide +kernel)

theorem not_ingestSettled :
    ¬ ∀ (config : ScratchpadSessionConfig) (reserveClock rollbackClock : Clock)
        (answer : EngineAnswer Nat) (s : Sys 1 Nat) (call : IngestCall Nat),
        (system config 1).Reachable Machine.anyStep s → s.Quiet →
        NoneExpires config reserveClock rollbackClock s.manager call →
        IngestSettled s.incarnation s.store call (ingestRowsWithMode config reserveClock
          rollbackClock answer s.incarnation s.store call) := by
  intro h
  have hargs : (rowsToT [1]).arguments = .ok (text "s") := rfl
  have hlive : NoneExpires unlimitedConfig (.at 2) (.at 3) full.manager (rowsToT [1]) := by
    refine ⟨by decide +kernel, fun id hid => ?_⟩
    obtain rfl : text "s" = id := Except.ok.inj (hargs.symm.trans hid)
    decide +kernel
  have hsettled := h unlimitedConfig (.at 2) (.at 3) .fine full (rowsToT [1])
    (Machine.reachable_anyStep_get _) (by decide +kernel) hlive
  have hcounted : Counted unlimitedConfig full.store.manager (rowsToT [1]) (text "s")
      ⟨text "session-s.duckdb", 1, 0, usizeMax⟩ :=
    ⟨hargs, by decide +kernel, fun _ => by decide +kernel, by decide +kernel⟩
  -- one row on top of the largest number
  have hsum := noOverflow_of_settled (ingest_ends hlive.staysLive) (by decide) hsettled hcounted
  exact absurd hsum (by unfold NoOverflow; decide)

end Ga4Mcp.Scratchpad
