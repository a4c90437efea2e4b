/-
  The databases of the scratchpad, of `src/scratchpad.rs`: the statements the source runs
  on a session's DuckDB file, and the files.

  DuckDB is outside the repository. What a statement does when it succeeds is modelled
  (`CREATE TABLE`, `INSERT`, `DROP TABLE`, a count); whether it fails, at which stage, and
  with which text is the answer of the engine (`EngineAnswer`). A transaction commits or
  leaves the file as it was: `persistIngestTable` gives the new content, or an error and no
  content.

  `ρ` is a row. `madeBy` is not data of the source: it records the session, and which
  incarnation of it, that a table was made for.
-/
import Ga4Mcp.Lib.Checks
import Ga4Mcp.Scratchpad.Sessions
import Mathlib.Logic.Function.Basic

namespace Ga4Mcp.Scratchpad

open Ga4Mcp.Lib

/-! ## Tables -/

/-- A column that an ingest brings, with the type that its values are cast to. -/
structure ScratchpadIngestColumn where
  name : Text
  logicalType : Text
deriving DecidableEq, Repr

/-- A table of a session's database. -/
structure Table (ρ : Type) where
  name : Text
  /-- Names and types as `PRAGMA table_info` reports them. -/
  columns : List (Text × Text)
  rows : List ρ
  madeBy : Text × Nat
deriving DecidableEq, Repr

/-- What one file holds. -/
abbrev Db (ρ : Type) := List (Table ρ)

/-- DuckDB compares identifiers without regard to case. -/
def sameIdentifier (a b : Text) : Bool := Text.toAsciiUppercase a = Text.toAsciiUppercase b

/-- A table that a statement finds under this name. -/
def Table.isNamed {ρ : Type} (name : Text) (t : Table ρ) : Bool := sameIdentifier t.name name

/-- Where a statement fails: the source has a text for each of these calls. -/
inductive Stage where
  | prepare
  | execute
  | fetch
  | decode (column : Nat)
deriving DecidableEq, Repr

/-- What the engine answers in one step: where its `n`-th statement fails, if it does, and
    what it says then; what it says of a table that is missing or a name that is taken; and
    what the closure of `run_guarded` makes of the database. -/
structure EngineAnswer (ρ : Type) where
  fails : Nat → Option (Stage × Text)
  catalogError : Text
  execute : Db ρ → Db ρ

/-- An engine that carries everything out. -/
def EngineAnswer.fine {ρ : Type} : EngineAnswer ρ := ⟨fun _ => none, [], id⟩

section Statements

variable {ρ : Type} (answer : EngineAnswer ρ) (db : Db ρ)

/-- The `n`-th statement of a step; `what` is what the source says where it fails. -/
def statement (n : Nat) (what : Stage → Text) : Except AnalyticsError Unit :=
  match answer.fails n with
  | some (stage, err) => .error (.scratchpadEngine (what stage ++ err))
  | none => .ok ()

/-- The memory limit is positive in every configuration that passes its check. -/
def openSessionConnection (path : Path) : Except AnalyticsError Unit :=
  statement answer 0 fun
    | .prepare => text "failed to open duckdb database " ++ path ++ text ": "
    | _ => text "failed to apply duckdb memory limit pragma: "

/-- The query of `table_exists` compares names as they are. -/
def tableExists (tableName : Text) : Except AnalyticsError Bool := do
  statement answer 0 fun
    | .prepare => text "failed to prepare scratchpad table existence query: "
    | .execute => text "failed to execute scratchpad table existence query: "
    | _ => text "failed to read scratchpad table existence row: "
  return db.any fun t => t.name = tableName

/-- What `table_row_count` says where its statement fails. -/
def rowCountFailed (tableName : Text) : Stage → Text
  | .prepare =>
      text "failed to prepare scratchpad row count query for '" ++ tableName ++ text "': "
  | _ => text "failed to query row count for scratchpad table '" ++ tableName ++ text "': "

/-- A count is a natural number, so `usize::try_from` does not fail. -/
def tableRowCount (tableName : Text) : Except AnalyticsError Nat := do
  statement answer 0 (rowCountFailed tableName)
  match db.find? (Table.isNamed tableName) with
  | some t => return t.rows.length
  | none =>
      .error (.scratchpadEngine (rowCountFailed tableName .prepare ++ answer.catalogError))

/-- The `DROP TABLE` of `drop_table`. -/
def dropTableStatement (tableName : Text) : Except AnalyticsError (Db ρ) := do
  let what := text "failed to drop scratchpad table '" ++ tableName ++ text "': "
  statement answer 0 fun _ => what
  refuseIf (¬ db.any (Table.isNamed tableName)) (.scratchpadEngine (what ++ answer.catalogError))
  return db.eraseP (Table.isNamed tableName)

/-- One row, into the table of that name. -/
def insertRow (tableName : Text) (row : ρ) : Db ρ → Db ρ
  | [] => []
  | t :: rest =>
      if t.isNamed tableName then { t with rows := t.rows ++ [row] } :: rest
      else t :: insertRow tableName row rest

end Statements

/-! ## Column types -/

/-- `str::contains`. -/
def contains (t pat : Text) : Bool := t.tails.any pat.isPrefixOf

/-- The type that a column of this logical type is created with. -/
def logicalTypeToDuckdbType (logicalType : Text) : Text :=
  if logicalType = text "integer" then text "BIGINT"
  else if logicalType ∈ ["number", "currency", "distance", "duration_minutes"].map text then
    text "DOUBLE"
  else if logicalType = text "boolean" then text "BOOLEAN"
  else if logicalType = text "date" then text "DATE"
  else if logicalType ∈ ["datetime", "timestamp"].map text then text "TIMESTAMP"
  else text "TEXT"

/-- The family of a type that DuckDB reports. -/
def canonicalDuckdbStorageType (dataType : Text) : Text :=
  let upper := Text.toAsciiUppercase (Text.trim dataType)
  if contains upper (text "TIMESTAMP") then text "TIMESTAMP"
  else if (["DOUBLE", "FLOAT", "REAL", "DECIMAL", "NUMERIC"].map text).any (contains upper) then
    text "DOUBLE"
  else if upper ∈ ["BIGINT", "INTEGER", "INT8", "INT4", "INT2", "SMALLINT", "TINYINT", "HUGEINT",
      "UBIGINT", "UINTEGER", "USMALLINT", "UTINYINT"].map text then text "BIGINT"
  else if upper ∈ ["BOOLEAN", "BOOL"].map text then text "BOOLEAN"
  else if upper = text "DATE" then text "DATE"
  else text "TEXT"

/-- The logical type that a report on a table gives for a type of DuckDB. -/
def duckdbTypeToLogicalType (dataType : Text) : Text :=
  let family := canonicalDuckdbStorageType dataType
  if family = text "TIMESTAMP" then text "timestamp"
  else if family = text "BIGINT" then text "integer"
  else if family = text "DOUBLE" then text "number"
  else if family = text "BOOLEAN" then text "boolean"
  else if family = text "DATE" then text "date"
  else text "string"

/-- DuckDB reports a column made as `TEXT` under the name `VARCHAR`. -/
def reportedType (storage : Text) : Text :=
  if storage = text "TEXT" then text "VARCHAR" else storage

/-! ## Ingest -/

/-- What an ingest wants to write, once its capacity is reserved. -/
structure IngestJob (ρ : Type) where
  sessionId : Text
  /-- Not in the source: the incarnation of the session that the capacity was reserved in. -/
  incarnation : Nat
  tableName : Text
  columns : List ScratchpadIngestColumn
  rows : List ρ
  mode : ScratchpadIngestMode
deriving DecidableEq

/-- `{:?}` of a list of column names. -/
def quoteNames (names : List Text) : Text :=
  text "[" ++ (text ", ").intercalate (names.map fun n => text "\"" ++ n ++ text "\"") ++ text "]"

/-- What is said of a column whose type is of another family than that of the table. -/
def typeMismatch (existing : Text × Text) (incoming : ScratchpadIngestColumn) : Option Text :=
  let incomingFamily := logicalTypeToDuckdbType incoming.logicalType
  if canonicalDuckdbStorageType existing.2 = incomingFamily then none
  else some (existing.1 ++ text ": existing=" ++ existing.2 ++ text " (logical=" ++
    duckdbTypeToLogicalType existing.2 ++ text "), incoming=" ++ incoming.logicalType ++
    text " (storage=" ++ incomingFamily ++ text ")")

section Ingest

variable {ρ : Type} (answer : EngineAnswer ρ) (db : Db ρ)

/-- What `validate_append_target_columns` says where its `PRAGMA table_info` fails. -/
def tableInfoFailed (tableName : Text) (stage : Stage) : Text :=
  (match stage with
    | .prepare => text "failed to inspect existing table '"
    | .execute => text "failed to read table schema for '"
    | .fetch => text "failed to fetch table schema row for '"
    | .decode 1 => text "failed to decode table column metadata for '"
    | .decode _ => text "failed to decode table column type metadata for '") ++
    tableName ++ text "': "

/-- The table must be there, with the same columns in the same order and types of the same
    families. -/
def validateAppendTargetColumns (tableName : Text) (columns : List ScratchpadIngestColumn) :
    Except AnalyticsError Unit := do
  statement answer 2 (tableInfoFailed tableName)
  let existingColumns := ((db.find? (Table.isNamed tableName)).map Table.columns).getD []
  refuseIf existingColumns.isEmpty
    (.invalidArgument (text "table_name") (text "append mode requires an existing table '" ++
      tableName ++ text "'; ingest once with append=false first"))
  refuseIf (existingColumns.map Prod.fst ≠ columns.map (·.name))
    (.invalidArgument (text "columns")
      (text "append mode requires identical column order; existing=" ++
        quoteNames (existingColumns.map Prod.fst) ++ text ", incoming=" ++
        quoteNames (columns.map (·.name))))
  let typeMismatches := (existingColumns.zip columns).filterMap fun x => typeMismatch x.1 x.2
  refuseIf (¬ typeMismatches.isEmpty)
    (.invalidArgument (text "columns")
      (text "append mode requires type-compatible columns; mismatches: " ++
        (text "; ").intercalate typeMismatches))

/-- The table that `CREATE TABLE` makes. -/
def IngestJob.newTable (job : IngestJob ρ) : Table ρ where
  name := job.tableName
  columns := job.columns.map fun c => (c.name, reportedType (logicalTypeToDuckdbType c.logicalType))
  rows := []
  madeBy := (job.sessionId, job.incarnation)

/-- The `match` on the mode: the database that the rows go to. -/
def ingestTarget (job : IngestJob ρ) : Except AnalyticsError (Db ρ) :=
  match job.mode with
  | .create => do
      let what := text "failed to create scratchpad table '" ++ job.tableName ++ text "': "
      statement answer 2 fun _ => what
      refuseIf (db.any (Table.isNamed job.tableName))
        (.scratchpadEngine (what ++ answer.catalogError))
      return db ++ [job.newTable]
  | .append => do
      validateAppendTargetColumns answer db job.tableName job.columns
      return db

/-- The loop over the rows; `n` is the number of the next statement. -/
def insertAll (tableName : Text) : Nat → List ρ → Db ρ → Except AnalyticsError (Db ρ)
  | _, [], working => .ok working
  | n, row :: rows, working => do
      statement answer n fun _ =>
        text "failed to insert scratchpad row into '" ++ tableName ++ text "': "
      insertAll tableName (n + 1) rows (insertRow tableName row working)

/-- Nothing is prepared when there are no rows. -/
def prepareInsert (rows : List ρ) : Except AnalyticsError Unit :=
  if rows.isEmpty then .ok ()
  else statement answer 3 fun _ => text "failed to prepare scratchpad insert statement: "

/-- The content to be committed, `db` being that of the file at `path`. After an error the
    transaction has been rolled back, or was never begun. -/
def persistIngestTable (path : Path) (job : IngestJob ρ) : Except AnalyticsError (Db ρ) := do
  openSessionConnection answer path
  statement answer 1 fun _ => text "failed to begin scratchpad ingest transaction: "
  let target ← ingestTarget answer db job
  prepareInsert answer job.rows
  let working ← insertAll answer job.tableName 4 job.rows target
  statement answer (4 + job.rows.length) fun _ =>
    text "failed to commit scratchpad ingest transaction: "
  return working

end Ingest

/-! ## What a committed transaction did -/

section Committed

variable {ρ : Type} {answer : EngineAnswer ρ} {path : Path} {db db' : Db ρ}

/-- All rows, into the table of that name. -/
def insertRows (tableName : Text) (rows : List ρ) (db : Db ρ) : Db ρ :=
  rows.foldl (fun db row => insertRow tableName row db) db

theorem insertAll_ok {tableName : Text} {n : Nat} {rows : List ρ}
    (h : insertAll answer tableName n rows db = .ok db') : db' = insertRows tableName rows db := by
  induction rows generalizing n db with
  | nil => exact (Except.ok.inj h).symm
  | cons row rows ih =>
      obtain ⟨_, _, h⟩ := bind_eq_ok.mp h
      exact ih h

theorem any_of_validateAppendTargetColumns {tableName : Text}
    {columns : List ScratchpadIngestColumn}
    (h : validateAppendTargetColumns answer db tableName columns = .ok ()) :
    db.any (Table.isNamed tableName) := by
  obtain ⟨_, _, h⟩ := bind_eq_ok.mp h
  obtain ⟨_, hexists, _⟩ := bind_eq_ok.mp h
  rw [refuseIf_eq_ok] at hexists
  cases hfind : db.find? (Table.isNamed tableName) with
  | none => simp [hfind] at hexists
  | some t =>
      exact List.any_eq_true.mpr ⟨t, List.mem_of_find?_eq_some hfind, List.find?_some hfind⟩

/-- A committed ingest made the table, in create mode, or found it, and added the rows. -/
theorem persist_ok {job : IngestJob ρ} (h : persistIngestTable answer db path job = .ok db') :
    ∃ target, db' = insertRows job.tableName job.rows target ∧
      target.any (Table.isNamed job.tableName) ∧
      target = if job.mode = .create then db ++ [job.newTable] else db := by
  obtain ⟨_, _, h⟩ := bind_eq_ok.mp h
  obtain ⟨_, _, h⟩ := bind_eq_ok.mp h
  obtain ⟨target, htarget, h⟩ := bind_eq_ok.mp h
  obtain ⟨_, _, h⟩ := bind_eq_ok.mp h
  obtain ⟨working, hworking, h⟩ := bind_eq_ok.mp h
  obtain ⟨_, _, h⟩ := bind_eq_ok.mp h
  obtain rfl := pure_eq_ok.mp h
  refine ⟨target, insertAll_ok hworking, ?_⟩
  unfold ingestTarget at htarget
  cases hmode : job.mode with
  | create =>
      simp only [hmode] at htarget
      obtain ⟨_, _, htarget⟩ := bind_eq_ok.mp htarget
      obtain ⟨_, _, htarget⟩ := bind_eq_ok.mp htarget
      obtain rfl := pure_eq_ok.mp htarget
      simp [IngestJob.newTable, Table.isNamed, sameIdentifier]
  | append =>
      simp only [hmode] at htarget
      obtain ⟨_, hexists, htarget⟩ := bind_eq_ok.mp htarget
      obtain rfl := pure_eq_ok.mp htarget
      exact ⟨any_of_validateAppendTargetColumns hexists, rfl⟩

/-- `CREATE TABLE` fails on a name that is taken. -/
theorem fresh_of_persist_ok {job : IngestJob ρ} (hmode : job.mode = .create)
    (h : persistIngestTable answer db path job = .ok db') :
    ¬ db.any (Table.isNamed job.tableName) := by
  obtain ⟨_, _, h⟩ := bind_eq_ok.mp h
  obtain ⟨_, _, h⟩ := bind_eq_ok.mp h
  obtain ⟨target, htarget, _⟩ := bind_eq_ok.mp h
  unfold ingestTarget at htarget
  simp only [hmode] at htarget
  obtain ⟨_, _, htarget⟩ := bind_eq_ok.mp htarget
  obtain ⟨_, hfresh, _⟩ := bind_eq_ok.mp htarget
  exact refuseIf_eq_ok.mp hfresh

theorem map_madeBy_insertRow (tableName : Text) (row : ρ) (db : Db ρ) :
    (insertRow tableName row db).map Table.madeBy = db.map Table.madeBy := by
  induction db with
  | nil => rfl
  | cons t db ih =>
      rw [insertRow]
      split
      · rfl
      · rw [List.map_cons, ih, List.map_cons]

theorem map_madeBy_insertRows (tableName : Text) (rows : List ρ) (db : Db ρ) :
    (insertRows tableName rows db).map Table.madeBy = db.map Table.madeBy := by
  unfold insertRows
  induction rows generalizing db with
  | nil => rfl
  | cons row rows ih => rw [List.foldl_cons, ih, map_madeBy_insertRow]

/-- A table of a committed ingest was there before, or counts as made by the job. -/
theorem madeBy_of_persist_ok {job : IngestJob ρ} (h : persistIngestTable answer db path job = .ok db')
    {maker : Text × Nat} (hmaker : maker ∈ db'.map Table.madeBy) :
    maker ∈ db.map Table.madeBy ∨ maker = (job.sessionId, job.incarnation) := by
  obtain ⟨target, rfl, _, htarget⟩ := persist_ok h
  rw [map_madeBy_insertRows, htarget] at hmaker
  split at hmaker
  · simpa [IngestJob.newTable] using hmaker
  · exact .inl hmaker

theorem dropTableStatement_ok {tableName : Text}
    (h : dropTableStatement answer db tableName = .ok db') :
    db' = db.eraseP (Table.isNamed tableName) ∧ db.any (Table.isNamed tableName) := by
  obtain ⟨_, _, h⟩ := bind_eq_ok.mp h
  obtain ⟨_, hexists, h⟩ := bind_eq_ok.mp h
  exact ⟨(pure_eq_ok.mp h).symm, not_not.mp (refuseIf_eq_ok.mp hexists)⟩

end Committed

/-! ## Files -/

/-- An open connection: the path it was opened at, and which of the files that have stood
    at that path it belongs to. A connection outlives the removal of its file. -/
structure Handle where
  path : Path
  file : Nat
deriving DecidableEq, Repr

/-- At each path, the number of the file there now, and the content of every file that
    has been there. A file that does not exist has no tables. -/
structure Disk (ρ : Type) where
  current : Path → Nat
  content : Path → Nat → Db ρ

namespace Disk

variable {ρ : Type} (d : Disk ρ)

/-- No files. -/
def empty : Disk ρ := ⟨fun _ => 0, fun _ _ => []⟩

/-- The tables that a connection opened now would see. -/
def tables (p : Path) : Db ρ := d.content p (d.current p)

/-- A connection to the file that is at the path now. -/
def connect (p : Path) : Handle := ⟨p, d.current p⟩

/-- The tables of the file behind a handle. -/
def read (h : Handle) : Db ρ := d.content h.path h.file

/-- The tables of that file replaced; other files stay. -/
def write (h : Handle) (db : Db ρ) : Disk ρ where
  current := d.current
  content := Function.update d.content h.path (Function.update (d.content h.path) h.file db)

/-- `fs::remove_file`; a new file at the path begins empty. -/
def remove (p : Path) : Disk ρ where
  current := Function.update d.current p (d.current p + 1)
  content := Function.update d.content p (Function.update (d.content p) (d.current p + 1) [])

theorem tables_remove_self (p : Path) : (d.remove p).tables p = [] := by
  simp [tables, remove]

theorem tables_remove_ne {p q : Path} (h : q ≠ p) : (d.remove p).tables q = d.tables q := by
  simp [tables, remove, h]

theorem tables_write_connect (p : Path) (db : Db ρ) :
    (d.write (d.connect p) db).tables p = db := by
  simp [tables, write, connect]

theorem tables_write_ne {h : Handle} {q : Path} (hne : q ≠ h.path) (db : Db ρ) :
    (d.write h db).tables q = d.tables q := by
  simp [tables, write, hne]

/-- What is written through a connection is seen at its path, if its file still is there. -/
theorem tables_write_self (h : Handle) (db : Db ρ) :
    (d.write h db).tables h.path = if h.file = d.current h.path then db else d.tables h.path := by
  by_cases hfile : h.file = d.current h.path
  · simp [tables, write, hfile]
  · simp [tables, write, hfile, Ne.symm hfile]

end Disk

end Ga4Mcp.Scratchpad
