/-
  `ScratchpadSessionManager` of `src/scratchpad.rs`: the session map and every step taken
  on it while the lock is held.

  A method of the source is one locked step, then the removal of the paths the step
  collected (`cleanup_paths`, `cleanup_path`), then work on the database. This module has
  the locked steps. Each gives an `Outcome`: the manager after it, the paths it hands to
  the cleanup, and the answer. A step that returns early with `?` after pruning hands
  over nothing, as in the source.

  Times are nanoseconds of the monotonic clock; `Clock` holds the readings one step makes.
-/
import Ga4Mcp.Error
import Ga4Mcp.Numbers
import Mathlib.Data.Char
import Mathlib.Data.List.AList
import Mathlib.Data.List.Lex

namespace Ga4Mcp.Scratchpad

/-! ## Data -/

/-- A path of a database file. -/
abbrev Path := Text

/-- What the manager keeps about a session. -/
structure SessionEntry where
  dbPath : Path
  lastTouched : Nat
  tablesUsed : Nat
  rowsUsed : Nat
deriving DecidableEq, Repr

/-- The sessions, by their ids. -/
abbrev SessionMap := AList fun _ : Text => SessionEntry

/-- The settings the session manager reads. `sessionDbPath` is `session_db_path` with the
    root directory, the hasher and the process id of one process. -/
structure ScratchpadSessionConfig where
  sessionTtl : Nat
  maxSessions : Nat
  maxTablesPerSession : Nat
  maxRowsPerSession : Nat
  maxSqlBytes : Nat
  sessionDbPath : Text → Path

/-- The fields behind the lock, and the two limits that may change. -/
structure Manager where
  runtimeMaxSessions : Nat
  runtimeMaxTablesPerSession : Nat
  sessions : SessionMap

/-- A manager without sessions. -/
def Manager.new (config : ScratchpadSessionConfig) : Manager :=
  ⟨config.maxSessions, config.maxTablesPerSession, ∅⟩

/-- The readings of `Instant::now` in one locked step: in `prune_expired_locked`, in
    `session_entry_mut`, and where the entry is touched. -/
structure Clock where
  prune : Nat
  enter : Nat
  touch : Nat
deriving DecidableEq, Repr

/-- What a method leaves: the manager, the paths to remove, and its result. -/
structure Outcome (α : Type) where
  manager : Manager
  cleanup : List Path
  result : Except AnalyticsError α

/-- Whether an ingest creates its table or appends to it. -/
inductive ScratchpadIngestMode where
  | create
  | append
deriving DecidableEq, Repr

/-- The quotas of a session, used and left. -/
structure ScratchpadSessionSnapshot where
  tablesUsed : Nat
  tablesRemaining : Nat
  rowsUsed : Nat
  rowsRemaining : Nat
deriving DecidableEq, Repr

/-- What `list_sessions` and `session_info` show of a session. -/
structure ScratchpadSessionInfo where
  sessionId : Text
  tablesUsed : Nat
  tablesRemaining : Nat
  rowsUsed : Nat
  rowsRemaining : Nat
  ttlSecondsRemaining : Nat
deriving DecidableEq, Repr

/-! ## Helpers -/

def maxSessionIdLen : Nat := 128

/-- A trimmed id of letters, digits, hyphens and underscores. -/
def normalizeSessionId (raw : Text) : Except AnalyticsError Text :=
  let sessionId := Text.trim raw
  if sessionId.isEmpty then .error (.invalidArgument (text "session_id") (text "must not be empty"))
  else if Text.len sessionId > maxSessionIdLen then
    .error (.invalidArgument (text "session_id")
      (text "must be <= " ++ Text.decimal maxSessionIdLen ++ text " characters"))
  else if ¬ sessionId.all fun ch => ch.isAlphanum || ch = '-' || ch = '_' then
    .error (.invalidArgument (text "session_id") (text "must use [A-Za-z0-9_-] characters only"))
  else .ok sessionId

/-- Untouched for the whole TTL. -/
def isExpired (ttl now : Nat) (entry : SessionEntry) : Bool := ttl ≤ now - entry.lastTouched

/-- The ids of the expired sessions. -/
def expiredIds (ttl now : Nat) (sessions : SessionMap) : List Text :=
  (sessions.entries.filter fun x => isExpired ttl now x.2).map Sigma.fst

/-- The removals of `prune_expired_locked`, with the paths of what was there. -/
def removeAll : List Text → SessionMap → SessionMap × List Path
  | [], sessions => (sessions, [])
  | id :: ids, sessions =>
      let rest := removeAll ids (sessions.erase id)
      match sessions.lookup id with
      | some entry => (rest.1, entry.dbPath :: rest.2)
      | none => rest

/-- The sessions without the expired ones, and the paths of these. -/
def pruneExpiredLocked (sessions : SessionMap) (now ttl : Nat) : SessionMap × List Path :=
  removeAll (expiredIds ttl now sessions) sessions

/-- A snapshot under these limits. -/
def snapshotFromEntry (entry : SessionEntry) (maxTables maxRows : Nat) :
    ScratchpadSessionSnapshot where
  tablesUsed := entry.tablesUsed
  tablesRemaining := maxTables - entry.tablesUsed
  rowsUsed := entry.rowsUsed
  rowsRemaining := maxRows - entry.rowsUsed

/-- The same with the seconds that are left. -/
def sessionInfoFromEntry (sessionId : Text) (entry : SessionEntry)
    (maxTables maxRows ttl now : Nat) : ScratchpadSessionInfo :=
  let ttlRemaining := ttl - (now - entry.lastTouched)
  let snapshot := snapshotFromEntry entry maxTables maxRows
  ⟨sessionId, snapshot.tablesUsed, snapshot.tablesRemaining, snapshot.rowsUsed,
    snapshot.rowsRemaining, ttlRemaining / 1000000000⟩

/-- An error about a limit. -/
def scratchpadLimit (field message : Text) : AnalyticsError :=
  .scratchpadLimitExceeded field message

/-- The table limit would be exceeded. -/
def tablesExceeded (limit : Nat) : AnalyticsError :=
  scratchpadLimit (text "tables")
    (text "max tables per session exceeded (" ++ Text.decimal limit ++ text ")")

/-- The row limit would be exceeded. -/
def rowsExceeded (limit : Nat) : AnalyticsError :=
  scratchpadLimit (text "rows")
    (text "max rows per session exceeded (" ++ Text.decimal limit ++ text ")")

/-! ## Runtime limits -/

def setMaxSessionsLimit (maxSessions : Nat) (m : Manager) : Except AnalyticsError Manager :=
  if maxSessions = 0 then
    .error (.invalidArgument (text "max_sessions") (text "must be greater than zero"))
  else .ok { m with runtimeMaxSessions := maxSessions }

def setMaxTablesPerSessionLimit (maxTables : Nat) (m : Manager) : Except AnalyticsError Manager :=
  if maxTables = 0 then
    .error (.invalidArgument (text "max_tables_per_session") (text "must be greater than zero"))
  else .ok { m with runtimeMaxTablesPerSession := maxTables }

/-! ## Locked steps -/

section Locked

variable (config : ScratchpadSessionConfig) (clock : Clock) (m : Manager)

/-- What the lock guards after `prune_expired_locked`. -/
def prunedSessions : SessionMap :=
  (pruneExpiredLocked m.sessions clock.prune config.sessionTtl).1

/-- The paths of the sessions that pruning removes. -/
def removedPaths : List Path :=
  (pruneExpiredLocked m.sessions clock.prune config.sessionTtl).2

/-- The map and the entry in it. -/
def sessionEntryMut (sessionId : Text) (sessions : SessionMap) :
    Except AnalyticsError (SessionMap × SessionEntry) :=
  match sessions.lookup sessionId with
  | some entry => .ok (sessions, entry)
  | none =>
      if sessions.keys.length ≥ m.runtimeMaxSessions then
        .error (scratchpadLimit (text "sessions") (text "max active sessions exceeded (" ++
          Text.decimal m.runtimeMaxSessions ++ text ")"))
      else
        let entry := ⟨config.sessionDbPath sessionId, clock.enter, 0, 0⟩
        .ok (sessions.insert sessionId entry, entry)

/-- The common part of `note_table_created`, `note_rows_ingested`, `note_table_dropped`
    and `ensure_session`: prune, get or make the entry, and update it, or refuse to. -/
def withEntry {α : Type} (sessionId : Text)
    (update : SessionEntry → Except AnalyticsError (SessionEntry × α)) : Outcome α :=
  match sessionEntryMut config clock m sessionId (prunedSessions config clock m) with
  -- `?`: the removed paths are dropped
  | .error err => ⟨{ m with sessions := prunedSessions config clock m }, [], .error err⟩
  | .ok (sessions, entry) =>
      match update entry with
      | .error err => ⟨{ m with sessions := sessions }, removedPaths config clock m, .error err⟩
      | .ok (entry, answer) =>
          ⟨{ m with sessions := sessions.insert sessionId entry }, removedPaths config clock m,
            .ok answer⟩

/-- The common part of `session_info`, `session_snapshot` and `existing_session_db_path`:
    prune, and touch the entry if there is one. -/
def touchExisting {α : Type} (sessionId : Text) (answer : SessionEntry → α)
    (missing : Except AnalyticsError α) : Outcome α :=
  match (prunedSessions config clock m).lookup sessionId with
  | some entry =>
      let entry := { entry with lastTouched := clock.touch }
      ⟨{ m with sessions := (prunedSessions config clock m).insert sessionId entry },
        removedPaths config clock m, .ok (answer entry)⟩
  | none =>
      ⟨{ m with sessions := prunedSessions config clock m }, removedPaths config clock m, missing⟩

/-- A snapshot under the limits of now. -/
def snapshotOf (entry : SessionEntry) : ScratchpadSessionSnapshot :=
  snapshotFromEntry entry m.runtimeMaxTablesPerSession config.maxRowsPerSession

def activeSessionCount : Outcome Nat :=
  ⟨{ m with sessions := prunedSessions config clock m }, removedPaths config clock m,
    .ok (prunedSessions config clock m).keys.length⟩

/-- The locked part of `session_info`, after `normalize_session_id`. -/
def sessionInfoLocked (sessionId : Text) : Outcome ScratchpadSessionInfo :=
  touchExisting config clock m sessionId
    (fun entry => sessionInfoFromEntry sessionId entry m.runtimeMaxTablesPerSession
      config.maxRowsPerSession config.sessionTtl clock.touch)
    (.error (.scratchpadSessionNotFound sessionId))

/-- Every entry touched. -/
def touchAll (sessions : SessionMap) : SessionMap :=
  ⟨sessions.entries.map fun x => ⟨x.1, { x.2 with lastTouched := clock.touch }⟩, by
    simpa [List.NodupKeys, List.keys, Function.comp_def] using sessions.nodupKeys⟩

/-- `list_sessions` for a positive limit. -/
def listSessionsLocked (limit : Nat) : Outcome (List ScratchpadSessionInfo) :=
  let sessions := touchAll clock (prunedSessions config clock m)
  let infos := sessions.entries.map fun x =>
    sessionInfoFromEntry x.1 x.2 m.runtimeMaxTablesPerSession config.maxRowsPerSession
      config.sessionTtl clock.touch
  ⟨{ m with sessions := sessions }, removedPaths config clock m,
    .ok ((infos.mergeSort fun a b => a.sessionId ≤ b.sessionId).take limit)⟩

/-- One table more, within the limit. -/
def noteTableCreatedLocked (sessionId : Text) : Outcome ScratchpadSessionSnapshot :=
  withEntry config clock m sessionId fun entry =>
    if entry.tablesUsed ≥ m.runtimeMaxTablesPerSession then
      .error (tablesExceeded m.runtimeMaxTablesPerSession)
    else
      let entry := { entry with tablesUsed := entry.tablesUsed + 1, lastTouched := clock.touch }
      .ok (entry, snapshotOf config m entry)

/-- So many rows more, within the limit. -/
def noteRowsIngestedLocked (sessionId : Text) (additionalRows : Nat) :
    Outcome ScratchpadSessionSnapshot :=
  withEntry config clock m sessionId fun entry =>
    let nextRows := saturatingAdd entry.rowsUsed additionalRows
    if nextRows > config.maxRowsPerSession then .error (rowsExceeded config.maxRowsPerSession)
    else
      let entry := { entry with rowsUsed := nextRows, lastTouched := clock.touch }
      .ok (entry, snapshotOf config m entry)

/-- One table less, and so many rows. -/
def noteTableDroppedLocked (sessionId : Text) (rowsRemoved : Nat) :
    Outcome ScratchpadSessionSnapshot :=
  withEntry config clock m sessionId fun entry =>
    let entry := { entry with
      tablesUsed := entry.tablesUsed - 1
      rowsUsed := entry.rowsUsed - rowsRemoved
      lastTouched := clock.touch }
    .ok (entry, snapshotOf config m entry)

/-- The snapshot of a session, if it is there. -/
def sessionSnapshotLocked (sessionId : Text) : Outcome (Option ScratchpadSessionSnapshot) :=
  touchExisting config clock m sessionId (fun entry => some (snapshotOf config m entry)) (.ok none)

/-- The removed session's path comes after the pruned ones. -/
def releaseSessionLocked (sessionId : Text) : Outcome Bool :=
  match (prunedSessions config clock m).lookup sessionId with
  | some entry =>
      ⟨{ m with sessions := (prunedSessions config clock m).erase sessionId },
        removedPaths config clock m ++ [entry.dbPath], .ok true⟩
  | none =>
      ⟨{ m with sessions := prunedSessions config clock m }, removedPaths config clock m, .ok false⟩

def cleanupExpired : Outcome Nat :=
  ⟨{ m with sessions := prunedSessions config clock m }, removedPaths config clock m,
    .ok (removedPaths config clock m).length⟩

/-- Rows, and a table in create mode, are counted before they are written. -/
def reserveIngestCapacity (sessionId : Text) (incomingRows : Nat) (mode : ScratchpadIngestMode) :
    Outcome (Path × ScratchpadSessionSnapshot) :=
  let sessions := prunedSessions config clock m
  match sessions.lookup sessionId with
  -- `?`: the removed paths are dropped
  | none => ⟨{ m with sessions := sessions }, [], .error (.scratchpadSessionNotFound sessionId)⟩
  | some entry =>
      if mode = .create ∧ entry.tablesUsed ≥ m.runtimeMaxTablesPerSession then
        ⟨{ m with sessions := sessions }, removedPaths config clock m,
          .error (tablesExceeded m.runtimeMaxTablesPerSession)⟩
      else
        let nextRows := saturatingAdd entry.rowsUsed incomingRows
        if nextRows > config.maxRowsPerSession then
          ⟨{ m with sessions := sessions }, removedPaths config clock m,
            .error (rowsExceeded config.maxRowsPerSession)⟩
        else
          let entry := { entry with
            tablesUsed := if mode = .create then entry.tablesUsed + 1 else entry.tablesUsed
            rowsUsed := nextRows
            lastTouched := clock.touch }
          ⟨{ m with sessions := sessions.insert sessionId entry }, removedPaths config clock m,
            .ok (entry.dbPath, snapshotOf config m entry)⟩

/-- And taken back. -/
def rollbackIngestCapacity (sessionId : Text) (incomingRows : Nat) (mode : ScratchpadIngestMode) :
    Outcome Unit :=
  let sessions := prunedSessions config clock m
  match sessions.lookup sessionId with
  | none => ⟨{ m with sessions := sessions }, removedPaths config clock m, .ok ()⟩
  | some entry =>
      let entry := { entry with
        tablesUsed := if mode = .create then entry.tablesUsed - 1 else entry.tablesUsed
        rowsUsed := entry.rowsUsed - incomingRows
        lastTouched := clock.touch }
      ⟨{ m with sessions := sessions.insert sessionId entry }, removedPaths config clock m, .ok ()⟩

/-- The path of a session, touched or made. -/
def ensureSession (sessionId : Text) : Outcome Path :=
  withEntry config clock m sessionId fun entry =>
    .ok ({ entry with lastTouched := clock.touch }, entry.dbPath)

/-- The path of a session that is there. -/
def existingSessionDbPath (sessionId : Text) : Outcome Path :=
  touchExisting config clock m sessionId (fun entry => entry.dbPath)
    (.error (.scratchpadSessionNotFound sessionId))

end Locked

/-! ## All locked steps -/

/-- The same outcome with another result. -/
def Outcome.map {α β : Type} (f : α → β) (o : Outcome α) : Outcome β :=
  ⟨o.manager, o.cleanup, o.result.map f⟩

/-- The locked steps, with arguments that have passed `normalize_session_id` and the
    check of the limit. -/
inductive LockedCall where
  | activeSessionCount
  | sessionInfo (sessionId : Text)
  | listSessions (limit : Nat)
  | noteTableCreated (sessionId : Text)
  | noteRowsIngested (sessionId : Text) (additionalRows : Nat)
  | noteTableDropped (sessionId : Text) (rowsRemoved : Nat)
  | sessionSnapshot (sessionId : Text)
  | releaseSession (sessionId : Text)
  | cleanupExpired
  | reserveIngestCapacity (sessionId : Text) (incomingRows : Nat) (mode : ScratchpadIngestMode)
  | rollbackIngestCapacity (sessionId : Text) (incomingRows : Nat) (mode : ScratchpadIngestMode)
  | ensureSession (sessionId : Text)
  | existingSessionDbPath (sessionId : Text)
deriving DecidableEq, Repr

namespace LockedCall

/-- A step and the database path it answers, where it answers one. -/
def exec (config : ScratchpadSessionConfig) (clock : Clock) (m : Manager) :
    LockedCall → Outcome (Option Path)
  | activeSessionCount => (Scratchpad.activeSessionCount config clock m).map fun _ => none
  | sessionInfo id => (sessionInfoLocked config clock m id).map fun _ => none
  | listSessions limit => (listSessionsLocked config clock m limit).map fun _ => none
  | noteTableCreated id => (noteTableCreatedLocked config clock m id).map fun _ => none
  | noteRowsIngested id rows => (noteRowsIngestedLocked config clock m id rows).map fun _ => none
  | noteTableDropped id rows => (noteTableDroppedLocked config clock m id rows).map fun _ => none
  | sessionSnapshot id => (sessionSnapshotLocked config clock m id).map fun _ => none
  | releaseSession id => (releaseSessionLocked config clock m id).map fun _ => none
  | cleanupExpired => (Scratchpad.cleanupExpired config clock m).map fun _ => none
  | reserveIngestCapacity id rows mode =>
      (Scratchpad.reserveIngestCapacity config clock m id rows mode).map fun a => some a.1
  | rollbackIngestCapacity id rows mode =>
      (Scratchpad.rollbackIngestCapacity config clock m id rows mode).map fun _ => none
  | ensureSession id => (Scratchpad.ensureSession config clock m id).map some
  | existingSessionDbPath id => (Scratchpad.existingSessionDbPath config clock m id).map some

/-- The session whose entry the step gets through `session_entry_mut`. -/
def enters : LockedCall → Option Text
  | noteTableCreated id => some id
  | noteRowsIngested id _ => some id
  | noteTableDropped id _ => some id
  | ensureSession id => some id
  | _ => none

/-- The session that the step reserves capacity in, and for how many rows. -/
def reserves : LockedCall → Option (Text × Nat)
  | reserveIngestCapacity id rows _ => some (id, rows)
  | _ => none

end LockedCall

end Ga4Mcp.Scratchpad
