/-
  What `ingest_rows_with_mode` of `src/scratchpad.rs` answers, when the engine carries out
  every statement.

  * `persistIngestTable_isOk_iff`: the transaction commits exactly if the database takes the
    job: a new name to create a table, or a table with these columns to append to.
  * `counted_of_ok`: a call that succeeds answers with the counters after it.
  * `ingestRowsWithMode_isOk_iff`: it succeeds exactly if it has room and the database takes it.
-/
import Ga4Mcp.Scratchpad.Appends
import Ga4Mcp.Scratchpad.Ingest

namespace Ga4Mcp.Scratchpad

open Ga4Mcp.Lib

/-! ## The transaction -/

section Transaction

variable {ρ : Type} {answer : EngineAnswer ρ}

/-- No statement fails. -/
def EngineAnswer.CarriesOut (answer : EngineAnswer ρ) : Prop := ∀ n, answer.fails n = none

theorem EngineAnswer.CarriesOut.statement (h : answer.CarriesOut) (n : Nat) (what : Stage → Text) :
    statement answer n what = .ok () := by
  rw [Scratchpad.statement, h n]

/-- The database takes what a job wants to write. -/
def Takes (db : Db ρ) (job : IngestJob ρ) : Prop :=
  match job.mode with
  | .create => ¬ db.any (Table.isNamed job.tableName)
  | .append => ∃ existing, columnsOf db job.tableName = some existing ∧ existing ≠ [] ∧
      storageOf existing = storageColumns job.columns

theorem insertAll_of_carriesOut (h : answer.CarriesOut) (tableName : Text) (n : Nat)
    (rows : List ρ) (db : Db ρ) :
    insertAll answer tableName n rows db = .ok (insertRows tableName rows db) := by
  induction rows generalizing n db with
  | nil => rfl
  | cons row rows ih =>
      rw [insertAll, h.statement]
      exact ih (n + 1) (insertRow tableName row db)

theorem ingestTarget_isOk_iff (h : answer.CarriesOut) (db : Db ρ) (job : IngestJob ρ) :
    (∃ target, ingestTarget answer db job = .ok target) ↔ Takes db job := by
  unfold ingestTarget Takes
  cases job.mode with
  | create =>
      dsimp only
      constructor
      · rintro ⟨target, htarget⟩
        obtain ⟨_, -, htarget⟩ := bind_eq_ok.mp htarget
        obtain ⟨_, hfresh, -⟩ := bind_eq_ok.mp htarget
        exact refuseIf_eq_ok.mp hfresh
      · intro hfresh
        refine ⟨db ++ [job.newTable], bind_eq_ok.mpr ⟨(), h.statement .., ?_⟩⟩
        exact bind_eq_ok.mpr ⟨(), refuseIf_eq_ok.mpr hfresh, rfl⟩
  | append =>
      dsimp only
      rw [← validateAppendTargetColumns_eq_ok (h 2)]
      constructor
      · rintro ⟨target, htarget⟩
        obtain ⟨⟨⟩, hvalid, -⟩ := bind_eq_ok.mp htarget
        exact hvalid
      · intro hvalid
        exact ⟨db, by rw [hvalid]; rfl⟩

/-- **A transaction commits** exactly if the database takes the job. -/
theorem persistIngestTable_isOk_iff (h : answer.CarriesOut) (db : Db ρ) (path : Path) (job : IngestJob ρ) :
    (∃ db', persistIngestTable answer db path job = .ok db') ↔ Takes db job := by
  rw [← ingestTarget_isOk_iff h]
  unfold persistIngestTable
  constructor
  · rintro ⟨db', hpersist⟩
    obtain ⟨_, _, hpersist⟩ := bind_eq_ok.mp hpersist
    obtain ⟨_, _, hpersist⟩ := bind_eq_ok.mp hpersist
    obtain ⟨target, htarget, -⟩ := bind_eq_ok.mp hpersist
    exact ⟨target, htarget⟩
  · rintro ⟨target, htarget⟩
    have hprepare : prepareInsert answer job.rows = .ok () := by
      unfold prepareInsert
      split
      · rfl
      · exact h.statement 3 _
    rw [openSessionConnection, h.statement, h.statement, htarget, h.statement]
    refine ⟨insertRows job.tableName job.rows target, ?_⟩
    refine bind_eq_ok.mpr ⟨(), rfl, bind_eq_ok.mpr ⟨(), rfl, bind_eq_ok.mpr ⟨target, rfl, ?_⟩⟩⟩
    refine bind_eq_ok.mpr ⟨(), hprepare, bind_eq_ok.mpr ⟨_, ?_, rfl⟩⟩
    exact insertAll_of_carriesOut h ..

end Transaction

/-! ## The call -/

section Call

variable {config : ScratchpadSessionConfig} {reserveClock rollbackClock : Clock} {ρ : Type}
  {answer : EngineAnswer ρ} {incarnation : Text → Nat} {s : Store ρ} {call : IngestCall ρ}

/-- The session `id` has not expired, and its file is not one of a session that has. -/
structure Lives (config : ScratchpadSessionConfig) (clock : Clock) (m : Manager) (id : Text) :
    Prop where
  live : ¬ Expired config clock m id
  ownFile : ∀ entry, m.sessions.lookup id = some entry →
    entry.dbPath ∉ removedPaths config clock m

theorem lives_of_liveAt {m : Manager} (h : LiveAt config reserveClock m) (id : Text) :
    Lives config reserveClock m id := by
  refine ⟨h.not_expired id, fun entry _ => ?_⟩
  rw [removedPaths_of_liveAt h]
  exact List.not_mem_nil

theorem tables_cleanupPaths {paths : List Path} {path : Path} (h : path ∉ paths) (disk : Disk ρ) :
    (cleanupPaths paths disk).tables path = disk.tables path := by
  unfold cleanupPaths
  induction paths generalizing disk with
  | nil => rfl
  | cons removed paths ih =>
      rw [List.mem_cons, not_or] at h
      rw [List.foldl_cons, ih h.2, Disk.tables_remove_ne _ h.1]

/-- What a call that has counted its rows answers. -/
theorem answer_of_counted {id : Text} (hlive : Lives config reserveClock s.manager id)
    {entry : SessionEntry} (h : Counted config s.manager call id entry) :
    (ingestRowsWithMode config reserveClock rollbackClock answer incarnation s call).2 =
      (persistIngestTable answer (s.disk.tables entry.dbPath) entry.dbPath
        (call.job incarnation id)).map fun _ => ⟨call.rows.length, call.columns.length,
          snapshotOf config s.manager (entry.reserve reserveClock call.rows.length call.mode)⟩ := by
  obtain ⟨hargs, hentry, htables, hrows⟩ := h
  have hpruned : (prunedSessions config reserveClock s.manager).lookup id = some entry := by
    rw [lookup_prunedSessions_of_not_expired hlive.live, hentry]
  unfold ingestRowsWithMode
  simp only [hargs, reserveIngestCapacity_of_room hpruned htables hrows,
    tables_cleanupPaths (hlive.ownFile entry hentry)]
  cases persistIngestTable answer (s.disk.tables entry.dbPath) entry.dbPath
      (call.job incarnation id) with
  | ok db => rfl
  | error err => rfl

/-- A call that succeeds has counted its rows, and answers with the counters after it. -/
theorem counted_of_ok
    (hlive : ∀ id, call.arguments = .ok id → Lives config reserveClock s.manager id)
    {stats : ScratchpadIngestStats}
    (h : (ingestRowsWithMode config reserveClock rollbackClock answer incarnation s call).2 =
      .ok stats) :
    ∃ id entry, Counted config s.manager call id entry ∧
      stats = ⟨call.rows.length, call.columns.length,
        snapshotOf config s.manager (entry.reserve reserveClock call.rows.length call.mode)⟩ ∧
      ∃ db, persistIngestTable answer (s.disk.tables entry.dbPath) entry.dbPath
        (call.job incarnation id) = .ok db := by
  have hcounted : ∃ id entry, Counted config s.manager call id entry := by
    unfold ingestRowsWithMode at h
    cases hargs : call.arguments with
    | error err => simp [hargs] at h
    | ok id =>
        by_contra hnone
        have hfull : ∀ entry,
            (prunedSessions config reserveClock s.manager).lookup id = some entry →
            TableRoom s.manager call.mode entry →
            config.maxRowsPerSession < saturatingAdd entry.rowsUsed call.rows.length := by
          intro entry hentry htables
          rw [lookup_prunedSessions_of_not_expired (hlive id hargs).live] at hentry
          exact not_le.mp fun hrows => hnone ⟨id, entry, hargs, hentry, htables, hrows⟩
        obtain ⟨cleanup, err, -, hrefused⟩ := reserveIngestCapacity_refused hfull
        simp [hargs, hrefused] at h
  obtain ⟨id, entry, hcounted⟩ := hcounted
  rw [answer_of_counted (hlive id hcounted.1) hcounted] at h
  obtain ⟨db, hpersist, hstats⟩ := map_eq_ok.mp h
  exact ⟨id, entry, hcounted, hstats.symm, db, hpersist⟩

/-- **A call succeeds** exactly if its rows are counted and the database takes them. -/
theorem ingestRowsWithMode_isOk_iff
    (hlive : ∀ id, call.arguments = .ok id → Lives config reserveClock s.manager id)
    (hanswer : answer.CarriesOut) :
    (∃ stats, (ingestRowsWithMode config reserveClock rollbackClock answer incarnation s call).2 =
        .ok stats) ↔
      ∃ id entry, Counted config s.manager call id entry ∧
        Takes (s.disk.tables entry.dbPath) (call.job incarnation id) := by
  constructor
  · rintro ⟨stats, hok⟩
    obtain ⟨id, entry, hcounted, -, hpersist⟩ := counted_of_ok hlive hok
    exact ⟨id, entry, hcounted, (persistIngestTable_isOk_iff hanswer _ _ _).mp hpersist⟩
  · rintro ⟨id, entry, hcounted, htakes⟩
    obtain ⟨db, hpersist⟩ := (persistIngestTable_isOk_iff hanswer _ _ _).mpr htakes
    rw [answer_of_counted (hlive id hcounted.1) hcounted, hpersist]
    exact ⟨_, rfl⟩

/-! ## Sessions that live through a call -/

/-- No session expires before a call about the session `id` has ended. The call touches this
    one when it reserves. -/
structure LiveThrough (config : ScratchpadSessionConfig) (reserveClock rollbackClock : Clock)
    (m : Manager) (id : Text) : Prop where
  reserve : LiveAt config reserveClock m
  others : ∀ j, j ≠ id → ¬ Expired config rollbackClock m j
  touched : rollbackClock.prune - reserveClock.touch < config.sessionTtl

/-- A session that the call has touched is young enough at a rollback. -/
theorem staysLive_of_liveThrough {m : Manager}
    (h : ∀ id, call.arguments = .ok id → LiveThrough config reserveClock rollbackClock m id) :
    StaysLive config reserveClock rollbackClock m call := by
  intro id hargs
  have hlive := h id hargs
  refine ⟨hlive.reserve, fun first hcounted j _ hexpired => ?_⟩
  obtain ⟨-, hentry, htables, hrows⟩ := hcounted
  have hpruned := lookup_prunedSessions_of_liveAt hlive.reserve
  obtain ⟨entry, hlookup, hold⟩ := expired_iff.mp hexpired
  rw [reserveIngestCapacity_of_room ((hpruned id).trans hentry) htables hrows] at hlookup
  by_cases hj : j = id
  · rw [hj, AList.lookup_insert] at hlookup
    obtain rfl := Option.some.inj hlookup
    rw [isExpired, decide_eq_true_eq] at hold
    exact absurd hlive.touched (not_lt.mpr hold)
  · rw [AList.lookup_insert_ne hj, hpruned] at hlookup
    exact hlive.others j hj (expired_iff.mpr ⟨entry, hlookup, hold⟩)

end Call

end Ga4Mcp.Scratchpad
