/-
  The scratchpad as a machine: `n` clients that call the methods of one
  `ScratchpadSessionManager`, step by step.

  A method is a locked step, the removal of the paths it collected, one path a step, then
  its work on the database, statement by statement, and for some methods one more locked
  step. `Next` says what a client still has to do; between two of its steps any other
  client may take any number. `ingest_rows_with_mode` makes its transaction in one step.

  * `Label`, `system`: the steps and the machine.
  * `Stepped`, `stepped_of_step`: what a step can do, as one case for each kind of step.
-/
import Ga4Mcp.Lib.Machine
import Ga4Mcp.Scratchpad.Effects
import Ga4Mcp.Scratchpad.Engine
import Ga4Mcp.SqlSafety.Policy

namespace Ga4Mcp.Scratchpad

open Ga4Mcp.Lib Ga4Mcp.SqlSafety

/-! ## Arguments -/

def validateSqlIdentifier (identifier field : Text) : Except AnalyticsError Unit :=
  match Text.trim identifier with
  | [] => .error (.invalidArgument field (text "must not be empty"))
  | first :: rest =>
      if ¬ (first.isAlpha || first = '_') then
        .error (.invalidArgument field (text "must start with an ASCII letter or underscore"))
      else if ¬ rest.all fun ch => ch.isAlphanum || ch = '_' then
        .error (.invalidArgument field (text "must use [A-Za-z0-9_] characters only"))
      else .ok ()

/-- The loop over the columns in `ingest_rows_with_mode`. -/
def validateIngestColumns : List Text → List ScratchpadIngestColumn → Except AnalyticsError Unit
  | _, [] => .ok ()
  | seen, column :: columns => do
      validateSqlIdentifier column.name (text "column_name")
      refuseIf (column.name ∈ seen) (.invalidArgument (text "columns")
        (text "duplicate column name '" ++ column.name ++ text "'"))
      validateIngestColumns (column.name :: seen) columns

/-! ## What a client still has to do -/

/-- A table to drop. -/
structure DropJob where
  sessionId : Text
  tableName : Text
  ifExists : Bool
deriving DecidableEq

/-- What a client does next, and with which of its locals. -/
inductive Next (ρ : Type) where
  | idle
  -- `open_session`: the connection, then `session_info`
  | openConnect (sessionId : Text) (path : Path)
  | openInfo (sessionId : Text)
  -- `ingest_rows_with_mode`
  | ingestPersist (job : IngestJob ρ) (path : Path)
  | ingestRollback (job : IngestJob ρ)
  -- `list_tables` only reads
  | listRead (path : Path)
  -- `drop_table`
  | dropConnect (job : DropJob) (path : Path)
  | dropExists (job : DropJob) (handle : Handle)
  | dropMissing (job : DropJob)
  | dropCount (job : DropJob) (handle : Handle)
  | dropStatement (job : DropJob) (handle : Handle) (rowsRemoved : Nat)
  | dropNote (job : DropJob) (handle : Handle) (rowsRemoved : Nat)
  -- `run_guarded`
  | queryConnect (sessionId : Text) (incarnation : Nat) (path : Path)
  | queryExecute (sessionId : Text) (incarnation : Nat) (handle : Handle)
deriving DecidableEq

/-- The locked step a client has to take next, if that is what comes next. -/
def Next.locked {ρ : Type} : Next ρ → Option LockedCall
  | openInfo sessionId => some (.sessionInfo sessionId)
  | ingestRollback job => some (.rollbackIngestCapacity job.sessionId job.rows.length job.mode)
  | dropMissing job => some (.sessionSnapshot job.sessionId)
  | dropNote job _ rowsRemoved => some (.noteTableDropped job.sessionId rowsRemoved)
  | _ => none

section Engine

variable {ρ : Type} [DecidableEq ρ]

/-- Tables that the closure of `run_guarded` made or changed count as made by its session. -/
def retag (maker : Text × Nat) (before after : Db ρ) : Db ρ :=
  after.map fun t => if t ∈ before then t else { t with madeBy := maker }

/-- The next step of a client on the database: the files after it, and what is left to do. -/
def engineStep (answer : EngineAnswer ρ) (disk : Disk ρ) : Next ρ → Option (Disk ρ × Next ρ)
  | .openConnect sessionId _ =>
      some (disk, if (answer.fails 0).isNone then .openInfo sessionId else .idle)
  | .ingestPersist job path =>
      match persistIngestTable answer (disk.tables path) path job with
      | .ok db => some (disk.write (disk.connect path) db, .idle)
      | .error _ => some (disk, .ingestRollback job)
  | .listRead _ => some (disk, .idle)
  | .dropConnect job path =>
      some (disk, if (answer.fails 0).isNone then .dropExists job (disk.connect path) else .idle)
  | .dropExists job handle =>
      match tableExists answer (disk.read handle) job.tableName with
      | .ok true => some (disk, .dropCount job handle)
      | .ok false => some (disk, if job.ifExists then .dropMissing job else .idle)
      | .error _ => some (disk, .idle)
  | .dropCount job handle =>
      match tableRowCount answer (disk.read handle) job.tableName with
      | .ok rowsRemoved => some (disk, .dropStatement job handle rowsRemoved)
      | .error _ => some (disk, .idle)
  | .dropStatement job handle rowsRemoved =>
      match dropTableStatement answer (disk.read handle) job.tableName with
      | .ok db => some (disk.write handle db, .dropNote job handle rowsRemoved)
      | .error _ => some (disk, .idle)
  | .queryConnect sessionId incarnation path =>
      some (disk, if (answer.fails 0).isNone then
        .queryExecute sessionId incarnation (disk.connect path) else .idle)
  | .queryExecute sessionId incarnation handle =>
      let before := disk.read handle
      some (disk.write handle (retag (sessionId, incarnation) before (answer.execute before)),
        .idle)
  | _ => none

/-- What a step on the database can do. -/
inductive Worked (answer : EngineAnswer ρ) (disk : Disk ρ) : Next ρ → Disk ρ → Next ρ → Prop where
  | ended {next : Next ρ} (busy : next ≠ .idle) (unlocked : next.locked = none)
      (free : ∀ job path, next ≠ .ingestPersist job path) :
      Worked answer disk next disk .idle
  | opened (id : Text) (path : Path) : Worked answer disk (.openConnect id path) disk (.openInfo id)
  | persisted (job : IngestJob ρ) (path : Path) (db : Db ρ)
      (commit : persistIngestTable answer (disk.tables path) path job = .ok db) :
      Worked answer disk (.ingestPersist job path) (disk.write (disk.connect path) db) .idle
  | notPersisted (job : IngestJob ρ) (path : Path) :
      Worked answer disk (.ingestPersist job path) disk (.ingestRollback job)
  | dropConnected (job : DropJob) (path : Path) :
      Worked answer disk (.dropConnect job path) disk (.dropExists job (disk.connect path))
  | dropFound (job : DropJob) (handle : Handle) :
      Worked answer disk (.dropExists job handle) disk (.dropCount job handle)
  | dropNotFound (job : DropJob) (handle : Handle) :
      Worked answer disk (.dropExists job handle) disk (.dropMissing job)
  | dropCounted (job : DropJob) (handle : Handle) (rowsRemoved : Nat)
      (count : tableRowCount answer (disk.read handle) job.tableName = .ok rowsRemoved) :
      Worked answer disk (.dropCount job handle) disk (.dropStatement job handle rowsRemoved)
  | dropped (job : DropJob) (handle : Handle) (rowsRemoved : Nat) (db : Db ρ)
      (drop : dropTableStatement answer (disk.read handle) job.tableName = .ok db) :
      Worked answer disk (.dropStatement job handle rowsRemoved) (disk.write handle db)
        (.dropNote job handle rowsRemoved)
  | queryConnected (id : Text) (incarnation : Nat) (path : Path) :
      Worked answer disk (.queryConnect id incarnation path) disk
        (.queryExecute id incarnation (disk.connect path))
  | queried (id : Text) (incarnation : Nat) (handle : Handle) :
      Worked answer disk (.queryExecute id incarnation handle)
        (disk.write handle
          (retag (id, incarnation) (disk.read handle) (answer.execute (disk.read handle)))) .idle

theorem worked_of_engineStep {answer : EngineAnswer ρ} {disk disk' : Disk ρ} {next next' : Next ρ}
    (h : engineStep answer disk next = some (disk', next')) :
    Worked answer disk next disk' next' := by
  unfold engineStep at h
  split at h
  case h_1 id path =>
    cases h
    split
    · exact .opened id path
    · exact .ended (by simp) rfl (by simp)
  case h_2 job path =>
    split at h
    case h_1 db hdb =>
      cases h
      exact .persisted job path db hdb
    case h_2 =>
      cases h
      exact .notPersisted job path
  case h_3 =>
    cases h
    exact .ended (by simp) rfl (by simp)
  case h_4 job path =>
    cases h
    split
    · exact .dropConnected job path
    · exact .ended (by simp) rfl (by simp)
  case h_5 job handle =>
    split at h
    case h_1 =>
      cases h
      exact .dropFound job handle
    case h_2 =>
      cases h
      split
      · exact .dropNotFound job handle
      · exact .ended (by simp) rfl (by simp)
    case h_3 =>
      cases h
      exact .ended (by simp) rfl (by simp)
  case h_6 job handle =>
    split at h
    case h_1 rowsRemoved hcount =>
      cases h
      exact .dropCounted job handle rowsRemoved hcount
    case h_2 =>
      cases h
      exact .ended (by simp) rfl (by simp)
  case h_7 job handle rowsRemoved =>
    split at h
    case h_1 db hdb =>
      cases h
      exact .dropped job handle rowsRemoved db hdb
    case h_2 =>
      cases h
      exact .ended (by simp) rfl (by simp)
  case h_8 id incarnation path =>
    cases h
    split
    · exact .queryConnected id incarnation path
    · exact .ended (by simp) rfl (by simp)
  case h_9 id incarnation handle =>
    cases h
    exact .queried id incarnation handle
  case h_10 => cases h

theorem Worked.busy {answer : EngineAnswer ρ} {disk disk' : Disk ρ} {next next' : Next ρ}
    (h : Worked answer disk next disk' next') : next ≠ .idle := by
  cases h
  case ended busy _ _ => exact busy
  all_goals simp

end Engine

/-! ## Methods -/

/-- The methods that lock the state, with their arguments. -/
inductive Op (ρ : Type) where
  | activeSessionCount
  | sessionInfo (sessionId : Text)
  | listSessions (limit : Nat)
  | noteTableCreated (sessionId : Text)
  | noteRowsIngested (sessionId : Text) (additionalRows : Nat)
  | noteTableDropped (sessionId : Text) (rowsRemoved : Nat)
  | sessionSnapshot (sessionId : Text)
  | releaseSession (sessionId : Text)
  | cleanupExpired
  | openSession (sessionId : Text)
  | ingestRowsWithMode (sessionId tableName : Text) (columns : List ScratchpadIngestColumn)
      (rows : List ρ) (mode : ScratchpadIngestMode)
  | listTables (sessionId : Text) (limit : Nat)
  | dropTable (sessionId tableName : Text) (ifExists : Bool)
  | runGuarded (sessionId : Text) (sql : List UInt8) (toolkit : Toolkit) (cancelled : Bool)

/-- The first locked step of a method, and what comes after it, given the incarnations of
    the sessions and the path that the step answers. -/
structure Plan (ρ : Type) where
  call : LockedCall
  next : (Text → Nat) → Path → Next ρ

/-- A method that is a single locked step. -/
def Plan.single {ρ : Type} (call : LockedCall) : Plan ρ := ⟨call, fun _ _ => .idle⟩

/-- A limit of rows is not zero. -/
def limitPositive (limit : Nat) : Except AnalyticsError Unit :=
  refuseIf (limit = 0) (.invalidArgument (text "limit") (text "must be greater than zero"))

/-- The check of the SQL in `run_guarded`. -/
def guardSql (config : ScratchpadSessionConfig) (sql : List UInt8) (toolkit : Toolkit) :
    Except AnalyticsError Unit :=
  match validateScratchpadSql toolkit sql config.maxSqlBytes with
  | .error err => .error (.scratchpadSqlRejected err.code err.message)
  | .ok () => .ok ()

/-- The checks of the arguments; an error here leaves the state alone. -/
def Op.plan {ρ : Type} (config : ScratchpadSessionConfig) :
    Op ρ → Except AnalyticsError (Plan ρ)
  | .activeSessionCount => .ok (.single .activeSessionCount)
  | .sessionInfo raw => do return .single (.sessionInfo (← normalizeSessionId raw))
  | .listSessions limit => do
      limitPositive limit
      return .single (.listSessions limit)
  | .noteTableCreated raw => do return .single (.noteTableCreated (← normalizeSessionId raw))
  | .noteRowsIngested raw rows => do
      return .single (.noteRowsIngested (← normalizeSessionId raw) rows)
  | .noteTableDropped raw rows => do
      return .single (.noteTableDropped (← normalizeSessionId raw) rows)
  | .sessionSnapshot raw => do return .single (.sessionSnapshot (← normalizeSessionId raw))
  | .releaseSession raw => do return .single (.releaseSession (← normalizeSessionId raw))
  | .cleanupExpired => .ok (.single .cleanupExpired)
  | .openSession raw => do
      let id ← normalizeSessionId raw
      return ⟨.ensureSession id, fun _ path => .openConnect id path⟩
  | .ingestRowsWithMode raw tableName columns rows mode => do
      refuseIf columns.isEmpty
        (.invalidArgument (text "columns") (text "must include at least one column"))
      let id ← normalizeSessionId raw
      validateSqlIdentifier tableName (text "table_name")
      validateIngestColumns [] columns
      return ⟨.reserveIngestCapacity id rows.length mode, fun incarnation path =>
        .ingestPersist ⟨id, incarnation id, tableName, columns, rows, mode⟩ path⟩
  | .listTables raw limit => do
      limitPositive limit
      let id ← normalizeSessionId raw
      return ⟨.existingSessionDbPath id, fun _ path => .listRead path⟩
  | .dropTable raw tableName ifExists => do
      let id ← normalizeSessionId raw
      validateSqlIdentifier tableName (text "table_name")
      return ⟨.existingSessionDbPath id, fun _ path => .dropConnect ⟨id, tableName, ifExists⟩ path⟩
  | .runGuarded raw sql toolkit cancelled => do
      guardSql config sql toolkit
      refuseIf cancelled .scratchpadQueryCancelled
      let id ← normalizeSessionId raw
      return ⟨.ensureSession id, fun incarnation path => .queryConnect id (incarnation id) path⟩

/-! ## The machine -/

/-- A client of the manager, between two of its steps. -/
structure Client (ρ : Type) where
  /-- Paths collected under the lock and not yet removed. -/
  pending : List Path
  next : Next ρ
deriving DecidableEq

/-- A client without a call. -/
def Client.idle {ρ : Type} : Client ρ := ⟨[], .idle⟩

/-- The manager, its files and its clients. -/
structure Sys (n : Nat) (ρ : Type) where
  manager : Manager
  disk : Disk ρ
  /-- Not in the source: how often an entry has been made for each session. -/
  incarnation : Text → Nat
  clients : Fin n → Client ρ

/-- A step of the system. -/
inductive Label (n : Nat) (ρ : Type) where
  | setMaxSessions (limit : Nat)
  | setMaxTables (limit : Nat)
  | start (client : Fin n) (op : Op ρ) (clock : Clock)
  | remove (client : Fin n)
  | engine (client : Fin n) (answer : EngineAnswer ρ)
  | finish (client : Fin n) (clock : Clock)

section System

variable (config : ScratchpadSessionConfig) {n : Nat} {ρ : Type}

/-- Before the first call. -/
def Sys.start : Sys n ρ := ⟨Manager.new config, .empty, fun _ => 0, fun _ => .idle⟩

/-! Runs of one and of two clients number them. -/

instance oneClient : NeZero 1 := Nat.instNeZeroSucc

instance twoClients : NeZero 2 := Nat.instNeZeroSucc

/-- The incarnations after a locked step. -/
def Sys.incarnationAfter (s : Sys n ρ) (clock : Clock) (call : LockedCall) (id : Text) : Nat :=
  if call.Opens config clock s.manager id then s.incarnation id + 1 else s.incarnation id

/-- What is left to do after the locked step of a plan. -/
def Sys.nextAfter (s : Sys n ρ) (clock : Clock) (plan : Plan ρ) : Next ρ :=
  match (plan.call.exec config clock s.manager).result with
  | .ok (some path) => plan.next (s.incarnationAfter config clock plan.call) path
  | _ => .idle

/-- A locked step of a client that has nothing to remove. -/
def Sys.locked (s : Sys n ρ) (clock : Clock) (c : Fin n) (plan : Plan ρ) : Sys n ρ where
  manager := (plan.call.exec config clock s.manager).manager
  disk := s.disk
  incarnation := s.incarnationAfter config clock plan.call
  clients := Function.update s.clients c
    ⟨(plan.call.exec config clock s.manager).cleanup, s.nextAfter config clock plan⟩

/-- A client has removed a path. -/
def Sys.removed (s : Sys n ρ) (c : Fin n) (p : Path) (rest : List Path) : Sys n ρ :=
  { s with
    disk := s.disk.remove p
    clients := Function.update s.clients c { s.clients c with pending := rest } }

/-- A client has used its connection. -/
def Sys.worked (s : Sys n ρ) (c : Fin n) (disk : Disk ρ) (next : Next ρ) : Sys n ρ :=
  { s with disk := disk, clients := Function.update s.clients c ⟨[], next⟩ }

/-- A limit has changed, or was refused. -/
def Sys.withManager (s : Sys n ρ) (result : Except AnalyticsError Manager) : Sys n ρ :=
  match result with
  | .ok m => { s with manager := m }
  | .error _ => s

/-- One step, where it may be taken. -/
def step [DecidableEq ρ] (s : Sys n ρ) : Label n ρ → Option (Sys n ρ)
  | .setMaxSessions limit => some (s.withManager (setMaxSessionsLimit limit s.manager))
  | .setMaxTables limit => some (s.withManager (setMaxTablesPerSessionLimit limit s.manager))
  | .start c op clock =>
      match s.clients c with
      | ⟨[], .idle⟩ =>
          match op.plan config with
          | .ok plan => some (s.locked config clock c plan)
          | .error _ => some s
      | _ => none
  | .remove c =>
      match (s.clients c).pending with
      | p :: rest => some (s.removed c p rest)
      | [] => none
  | .engine c answer =>
      match (s.clients c).pending with
      | [] => (engineStep answer s.disk (s.clients c).next).map fun x => s.worked c x.1 x.2
      | _ :: _ => none
  | .finish c clock =>
      match (s.clients c).pending with
      | [] => (s.clients c).next.locked.map fun call => s.locked config clock c (.single call)
      | _ :: _ => none

/-- The system as a machine. -/
def system [DecidableEq ρ] (n : Nat) : Machine (Sys n ρ) (Label n ρ) :=
  ⟨Sys.start config, step config⟩

/-- No operation is in flight. -/
def Sys.Quiet (s : Sys n ρ) : Prop := ∀ c, s.clients c = .idle

instance [DecidableEq ρ] (s : Sys n ρ) : Decidable s.Quiet :=
  inferInstanceAs (Decidable (∀ _, _))

/-- The locked step that a label stands for, in the state before it. -/
def Sys.lockedCall (s : Sys n ρ) : Label n ρ → Option (Clock × LockedCall)
  | .start _ op clock =>
      match op.plan config with
      | .ok plan => some (clock, plan.call)
      | .error _ => none
  | .finish c clock => (s.clients c).next.locked.map fun call => (clock, call)
  | _ => none

/-! ## The parts of a state after a step -/

section Parts

variable {config} {s : Sys n ρ} {clock : Clock} {c d : Fin n} {plan : Plan ρ}

@[simp] theorem locked_clients_self : (s.locked config clock c plan).clients c =
    ⟨(plan.call.exec config clock s.manager).cleanup, s.nextAfter config clock plan⟩ :=
  Function.update_self ..

@[simp] theorem locked_clients_ne (h : d ≠ c) :
    (s.locked config clock c plan).clients d = s.clients d :=
  Function.update_of_ne h ..

@[simp] theorem removed_clients_self {p : Path} {rest : List Path} :
    (s.removed c p rest).clients c = ⟨rest, (s.clients c).next⟩ :=
  Function.update_self ..

@[simp] theorem removed_clients_ne {p : Path} {rest : List Path} (h : d ≠ c) :
    (s.removed c p rest).clients d = s.clients d :=
  Function.update_of_ne h ..

@[simp] theorem worked_clients_self {disk : Disk ρ} {next : Next ρ} :
    (s.worked c disk next).clients c = ⟨[], next⟩ :=
  Function.update_self ..

@[simp] theorem worked_clients_ne {disk : Disk ρ} {next : Next ρ} (h : d ≠ c) :
    (s.worked c disk next).clients d = s.clients d :=
  Function.update_of_ne h ..

theorem incarnationAfter_of_mem {call : LockedCall} {id : Text}
    (h : id ∈ prunedSessions config clock s.manager) :
    s.incarnationAfter config clock call id = s.incarnation id :=
  if_neg fun hopens => hopens.2.1 h

theorem nextAfter_of_error {err : AnalyticsError}
    (h : (plan.call.exec config clock s.manager).result = .error err) :
    s.nextAfter config clock plan = .idle := by
  rw [Sys.nextAfter, h]

theorem nextAfter_of_ok {path : Path}
    (h : (plan.call.exec config clock s.manager).result = .ok (some path)) :
    s.nextAfter config clock plan =
      plan.next (s.incarnationAfter config clock plan.call) path := by
  rw [Sys.nextAfter, h]

/-- A client that still has something to do after a locked step does it at the path of a
    live session. -/
theorem nextAfter_cases (s : Sys n ρ) (hm : WellPlaced config s.manager) (clock : Clock)
    (plan : Plan ρ) : s.nextAfter config clock plan = .idle ∨
      ∃ id, plan.call.target = some id ∧
        id ∈ (plan.call.exec config clock s.manager).manager.sessions ∧
        s.nextAfter config clock plan =
          plan.next (s.incarnationAfter config clock plan.call) (config.sessionDbPath id) := by
  unfold Sys.nextAfter
  split
  case h_1 path hresult =>
    obtain ⟨id, entry, htarget, hlookup, rfl⟩ := exec_answer hresult
    rw [(exec_hasEffect clock plan.call hm).2 id entry hlookup]
    exact .inr ⟨id, htarget, mem_of_lookup hlookup, rfl⟩
  case h_2 => exact .inl rfl

end Parts

/-! ## What a step can do -/

/-- What a step may do, one case for each kind. -/
inductive Stepped [DecidableEq ρ] (s : Sys n ρ) : Label n ρ → Sys n ρ → Prop where
  | limits {label : Label n ρ} {m : Manager} (same : m.sessions = s.manager.sessions)
      (is : label = .setMaxSessions m.runtimeMaxSessions ∨
        label = .setMaxTables m.runtimeMaxTablesPerSession) :
      Stepped s label { s with manager := m }
  | limitRefused (label : Label n ρ) (is : label = .setMaxSessions 0 ∨ label = .setMaxTables 0) :
      Stepped s label s
  | refused (c : Fin n) (op : Op ρ) (clock : Clock) : Stepped s (.start c op clock) s
  | started (c : Fin n) (op : Op ρ) (clock : Clock) (plan : Plan ρ)
      (idle : s.clients c = .idle) (planned : op.plan config = .ok plan) :
      Stepped s (.start c op clock) (s.locked config clock c plan)
  | removed (c : Fin n) (p : Path) (rest : List Path)
      (pending : (s.clients c).pending = p :: rest) : Stepped s (.remove c) (s.removed c p rest)
  | worked (c : Fin n) (answer : EngineAnswer ρ) (disk : Disk ρ) (next : Next ρ)
      (pending : (s.clients c).pending = [])
      (work : Worked answer s.disk (s.clients c).next disk next) :
      Stepped s (.engine c answer) (s.worked c disk next)
  | finished (c : Fin n) (clock : Clock) (call : LockedCall)
      (pending : (s.clients c).pending = [])
      (todo : (s.clients c).next.locked = some call) :
      Stepped s (.finish c clock) (s.locked config clock c (.single call))

theorem stepped_of_step [DecidableEq ρ] {s s' : Sys n ρ} {label : Label n ρ}
    (h : (system config n).step s label = some s') : Stepped config s label s' := by
  change step config s label = some s' at h
  cases label with
  | setMaxSessions limit =>
      simp only [step, setMaxSessionsLimit, Option.some.injEq] at h
      split at h
      case isTrue h0 =>
        subst h h0
        exact .limitRefused _ (.inl rfl)
      case isFalse =>
        subst h
        exact .limits rfl (.inl rfl)
  | setMaxTables limit =>
      simp only [step, setMaxTablesPerSessionLimit, Option.some.injEq] at h
      split at h
      case isTrue h0 =>
        subst h h0
        exact .limitRefused _ (.inr rfl)
      case isFalse =>
        subst h
        exact .limits rfl (.inr rfl)
  | start c op clock =>
      simp only [step] at h
      split at h
      case h_1 hc =>
        split at h
        case h_1 plan hplan =>
          obtain rfl := Option.some.inj h
          exact .started c op clock plan hc hplan
        case h_2 =>
          obtain rfl := Option.some.inj h
          exact .refused c op clock
      case h_2 => cases h
  | remove c =>
      simp only [step] at h
      split at h
      case h_1 p rest hp =>
        obtain rfl := Option.some.inj h
        exact .removed c p rest hp
      case h_2 => cases h
  | engine c answer =>
      simp only [step] at h
      split at h
      case h_1 hp =>
        obtain ⟨⟨disk, next⟩, hwork, rfl⟩ := Option.map_eq_some_iff.mp h
        exact .worked c answer disk next hp (worked_of_engineStep hwork)
      case h_2 => cases h
  | finish c clock =>
      simp only [step] at h
      split at h
      case h_1 hp =>
        obtain ⟨call, htodo, rfl⟩ := Option.map_eq_some_iff.mp h
        exact .finished c clock call hp htodo
      case h_2 => cases h

end System

/-! ## A configuration -/

/-- The defaults of `src/config.rs`. The id stands for its hash in the file's name. -/
def defaultConfig : ScratchpadSessionConfig where
  sessionTtl := 900 * 1000000000
  maxSessions := 64
  maxTablesPerSession := 32
  maxRowsPerSession := 1000000
  maxSqlBytes := 65536
  sessionDbPath sessionId := text "session-" ++ sessionId ++ text ".duckdb"

/-- All readings of one step at one time. -/
def Clock.at (now : Nat) : Clock := ⟨now, now, now⟩

end Ga4Mcp.Scratchpad
