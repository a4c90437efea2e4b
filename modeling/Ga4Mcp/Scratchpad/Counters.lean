/-
  The quota counters: what the locked steps do to them, and the size of a database.

  The steps are taken while no session has expired (`LiveAt`). `used_…`: the counters of
  every session after the step, from those before it. `size_…`: what a committed ingest
  and a `DROP TABLE` do to the number of tables and of rows.
-/
import Ga4Mcp.Scratchpad.Effects
import Ga4Mcp.Scratchpad.Engine
import Mathlib.Algebra.Group.Prod

namespace Ga4Mcp.Scratchpad

/-! ## Counters -/

/-- Tables and rows. -/
def SessionEntry.used (entry : SessionEntry) : Nat × Nat := (entry.tablesUsed, entry.rowsUsed)

/-- The counters of a session. -/
def usedIn (sessions : SessionMap) (id : Text) : Option (Nat × Nat) :=
  (sessions.lookup id).map SessionEntry.used

/-- What an ingest reserves. -/
def ingestCost (rows : Nat) (mode : ScratchpadIngestMode) : Nat × Nat :=
  (if mode = .create then 1 else 0, rows)

section UsedIn

variable {sessions : SessionMap} {id : Text} {entry : SessionEntry}

theorem usedIn_of_lookup (h : sessions.lookup id = some entry) :
    usedIn sessions id = some entry.used := by
  rw [usedIn, h, Option.map_some]

theorem usedIn_eq_none : usedIn sessions id = none ↔ id ∉ sessions := by
  rw [usedIn, Option.map_eq_none_iff, AList.lookup_eq_none]

theorem mem_of_usedIn {u : Nat × Nat} (h : usedIn sessions id = some u) : id ∈ sessions := by
  by_contra hid
  rw [usedIn_eq_none.mpr hid] at h
  cases h

theorem usedIn_insert : usedIn (sessions.insert id entry) =
    Function.update (usedIn sessions) id (some entry.used) := by
  funext j
  by_cases hj : j = id
  · subst hj
    rw [Function.update_self, usedIn_of_lookup (AList.lookup_insert sessions)]
  · rw [Function.update_of_ne hj, usedIn, AList.lookup_insert_ne hj, usedIn]

/-- Writing back an entry with the same counters. -/
theorem usedIn_insert_same (h : usedIn sessions id = some entry.used) :
    usedIn (sessions.insert id entry) = usedIn sessions := by
  rw [usedIn_insert, ← h, Function.update_eq_self]

theorem usedIn_erase : usedIn (sessions.erase id) = Function.update (usedIn sessions) id none := by
  funext j
  by_cases hj : j = id
  · subst hj
    rw [Function.update_self, usedIn, AList.lookup_erase, Option.map_none]
  · rw [Function.update_of_ne hj, usedIn, AList.lookup_erase_ne hj, usedIn]

theorem usedIn_touchAll (clock : Clock) : usedIn (touchAll clock sessions) = usedIn sessions := by
  funext j
  rw [usedIn, lookup_touchAll, Option.map_map]
  rfl

end UsedIn

/-! ## Locked steps -/

section Counters

variable {config : ScratchpadSessionConfig} {clock : Clock} {m : Manager} {id : Text}

/-- No session has expired when the step prunes. -/
def LiveAt (config : ScratchpadSessionConfig) (clock : Clock) (m : Manager) : Prop :=
  ∀ id ∈ m.sessions.keys, ¬ Expired config clock m id

instance : Decidable (LiveAt config clock m) :=
  inferInstanceAs (Decidable (∀ _ ∈ _, _))

theorem LiveAt.not_expired (h : LiveAt config clock m) (id : Text) : ¬ Expired config clock m id :=
  fun hexp => h id (mem_of_expired hexp) hexp

theorem lookup_prunedSessions_of_not_expired {id : Text} (h : ¬ Expired config clock m id) :
    (prunedSessions config clock m).lookup id = m.sessions.lookup id := by
  rw [lookup_prunedSessions]
  cases hlookup : m.sessions.lookup id with
  | none => rfl
  | some entry =>
      have hnot : ¬ isExpired config.sessionTtl clock.prune entry :=
        fun hexp => h (expired_iff.mpr ⟨entry, hlookup, hexp⟩)
      simp [Option.filter, hnot]

theorem lookup_prunedSessions_of_liveAt (h : LiveAt config clock m) (id : Text) :
    (prunedSessions config clock m).lookup id = m.sessions.lookup id :=
  lookup_prunedSessions_of_not_expired (h.not_expired id)

theorem mem_prunedSessions_of_liveAt (h : LiveAt config clock m) :
    id ∈ prunedSessions config clock m ↔ id ∈ m.sessions := by
  rw [mem_prunedSessions, and_iff_left (h.not_expired id)]

theorem removedPaths_of_liveAt (h : LiveAt config clock m) : removedPaths config clock m = [] := by
  refine List.eq_nil_iff_forall_not_mem.mpr fun p hp => ?_
  obtain ⟨id, entry, hlookup, hexp, _⟩ := mem_removedPaths.mp hp
  exact h.not_expired id (expired_iff.mpr ⟨entry, hlookup, hexp⟩)

theorem usedIn_prunedSessions (h : LiveAt config clock m) :
    usedIn (prunedSessions config clock m) = usedIn m.sessions := by
  funext j
  rw [usedIn, lookup_prunedSessions_of_liveAt h, usedIn]

theorem usedIn_touchExisting {α : Type} (h : LiveAt config clock m) (answer : SessionEntry → α)
    (missing : Except AnalyticsError α) :
    usedIn (touchExisting config clock m id answer missing).manager.sessions =
      usedIn m.sessions := by
  unfold touchExisting
  cases hlookup : (prunedSessions config clock m).lookup id with
  | none => exact usedIn_prunedSessions h
  | some entry =>
      have hused : usedIn (prunedSessions config clock m) id =
          some { entry with lastTouched := clock.touch }.used := by
        rw [usedIn_of_lookup hlookup]
        rfl
      exact (usedIn_insert_same hused).trans (usedIn_prunedSessions h)

/-- An entry gone through `session_entry_mut`: made or not, and then updated. -/
theorem usedIn_withEntry {α : Type} {call : LockedCall} (h : LiveAt config clock m)
    (hcall : call.enters = some id) (update : SessionEntry → SessionEntry)
    (answer : SessionEntry → α) :
    usedIn (withEntry config clock m id fun entry =>
        .ok (update entry, answer entry)).manager.sessions =
      if call.Opens config clock m id then
        Function.update (usedIn m.sessions) id
          (some (update ⟨config.sessionDbPath id, clock.enter, 0, 0⟩).used)
      else Function.update (usedIn m.sessions) id
        ((m.sessions.lookup id).map fun entry => (update entry).used) := by
  unfold withEntry
  rcases sessionEntryMut_cases config clock m id (prunedSessions config clock m) with
    ⟨entry, hlookup, hmut⟩ | ⟨hid, hroom, err, hmut⟩ | ⟨hid, hroom, hmut⟩
  · rw [if_neg fun hopens => hopens.2.1 (mem_of_lookup hlookup), hmut]
    dsimp only
    rw [usedIn_insert, usedIn_prunedSessions h, ← lookup_prunedSessions_of_liveAt h, hlookup,
      Option.map_some]
  · rw [if_neg fun hopens => absurd hopens.2.2 (not_lt.mpr hroom), hmut,
      ← lookup_prunedSessions_of_liveAt h, AList.lookup_eq_none.mpr hid, Option.map_none]
    dsimp only
    rw [usedIn_prunedSessions h, eq_comm, Function.update_eq_self_iff, eq_comm, usedIn_eq_none,
      ← mem_prunedSessions_of_liveAt h]
    exact hid
  · rw [if_pos ⟨hcall, hid, hroom⟩, hmut]
    dsimp only
    rw [usedIn_insert, usedIn_insert, usedIn_prunedSessions h, Function.update_idem]

theorem usedIn_ensureSession (h : LiveAt config clock m) (id : Text) :
    usedIn (ensureSession config clock m id).manager.sessions =
      if (LockedCall.ensureSession id).Opens config clock m id then
        Function.update (usedIn m.sessions) id (some 0)
      else usedIn m.sessions := by
  have hcall : (LockedCall.ensureSession id).enters = some id := rfl
  rw [ensureSession, usedIn_withEntry h hcall]
  congr 1
  exact Function.update_eq_self ..

theorem usedIn_noteTableDroppedLocked (h : LiveAt config clock m) (rowsRemoved : Nat) :
    usedIn (noteTableDroppedLocked config clock m id rowsRemoved).manager.sessions =
      if (LockedCall.noteTableDropped id rowsRemoved).Opens config clock m id then
        Function.update (usedIn m.sessions) id (some 0)
      else Function.update (usedIn m.sessions) id
        ((usedIn m.sessions id).map fun u => u - (1, rowsRemoved)) := by
  have hcall : (LockedCall.noteTableDropped id rowsRemoved).enters = some id := rfl
  rw [noteTableDroppedLocked, usedIn_withEntry h hcall]
  congr 1
  · simp [SessionEntry.used]
    rfl
  · rw [usedIn, Option.map_map]
    rfl

theorem usedIn_releaseSessionLocked (h : LiveAt config clock m) :
    usedIn (releaseSessionLocked config clock m id).manager.sessions =
      Function.update (usedIn m.sessions) id none := by
  unfold releaseSessionLocked
  cases hlookup : (prunedSessions config clock m).lookup id with
  | none =>
      rw [lookup_prunedSessions_of_liveAt h] at hlookup
      dsimp only
      rw [usedIn_prunedSessions h, eq_comm, Function.update_eq_self_iff, usedIn, hlookup,
        Option.map_none]
  | some entry =>
      dsimp only
      rw [usedIn_erase, usedIn_prunedSessions h]

theorem usedIn_rollbackIngestCapacity (h : LiveAt config clock m) (rows : Nat)
    (mode : ScratchpadIngestMode) :
    usedIn (rollbackIngestCapacity config clock m id rows mode).manager.sessions =
      Function.update (usedIn m.sessions) id
        ((usedIn m.sessions id).map fun u => u - ingestCost rows mode) := by
  unfold rollbackIngestCapacity
  dsimp only
  cases hlookup : (prunedSessions config clock m).lookup id with
  | none =>
      rw [lookup_prunedSessions_of_liveAt h] at hlookup
      dsimp only
      rw [usedIn_prunedSessions h, eq_comm, Function.update_eq_self_iff, usedIn, hlookup]
      rfl
  | some entry =>
      dsimp only
      rw [usedIn_insert, usedIn_prunedSessions h]
      rw [lookup_prunedSessions_of_liveAt h] at hlookup
      rw [usedIn_of_lookup hlookup, Option.map_some]
      congr 2
      cases mode <;> simp [SessionEntry.used, ingestCost]

/-- A reservation is refused, or adds the cost of the ingest to the counters. -/
theorem usedIn_reserveIngestCapacity (h : LiveAt config clock m) (id : Text) (rows : Nat)
    (mode : ScratchpadIngestMode) :
    (∃ err, (reserveIngestCapacity config clock m id rows mode).result = .error err ∧
      usedIn (reserveIngestCapacity config clock m id rows mode).manager.sessions =
        usedIn m.sessions) ∨
    ∃ u answer, (reserveIngestCapacity config clock m id rows mode).result = .ok answer ∧
      usedIn m.sessions id = some u ∧
      usedIn (reserveIngestCapacity config clock m id rows mode).manager.sessions =
        Function.update (usedIn m.sessions) id
          (some (u.1 + (ingestCost rows mode).1, saturatingAdd u.2 rows)) := by
  unfold reserveIngestCapacity
  dsimp only
  cases hlookup : (prunedSessions config clock m).lookup id with
  | none => exact .inl ⟨_, rfl, usedIn_prunedSessions h⟩
  | some entry =>
      dsimp only
      split
      · exact .inl ⟨_, rfl, usedIn_prunedSessions h⟩
      · split
        · exact .inl ⟨_, rfl, usedIn_prunedSessions h⟩
        · rw [lookup_prunedSessions_of_liveAt h] at hlookup
          refine .inr ⟨entry.used, _, rfl, usedIn_of_lookup hlookup, ?_⟩
          dsimp only
          rw [usedIn_insert, usedIn_prunedSessions h]
          cases mode <;> simp [SessionEntry.used, ingestCost]

/-- The steps that leave the counters alone. -/
def LockedCall.Reads : LockedCall → Prop
  | .activeSessionCount | .sessionInfo _ | .listSessions _ | .sessionSnapshot _ |
      .cleanupExpired | .existingSessionDbPath _ => True
  | _ => False

theorem enters_of_reads {call : LockedCall} (h : call.Reads) : call.enters = none := by
  cases call <;> first | rfl | exact h.elim

theorem usedIn_exec_of_reads (hlive : LiveAt config clock m) {call : LockedCall}
    (h : call.Reads) : usedIn (call.exec config clock m).manager.sessions = usedIn m.sessions := by
  cases call with
  | activeSessionCount => exact usedIn_prunedSessions hlive
  | cleanupExpired => exact usedIn_prunedSessions hlive
  | sessionInfo id => exact usedIn_touchExisting hlive _ _
  | sessionSnapshot id => exact usedIn_touchExisting hlive _ _
  | existingSessionDbPath id => exact usedIn_touchExisting hlive _ _
  | listSessions limit => exact (usedIn_touchAll clock).trans (usedIn_prunedSessions hlive)
  | _ => exact h.elim

end Counters

/-! ## Databases -/

/-- Tables and rows. -/
def Db.size {ρ : Type} (db : Db ρ) : Nat × Nat := (db.length, (db.map fun t => t.rows.length).sum)

section Size

variable {ρ : Type} {answer : EngineAnswer ρ} {path : Path} {db db' : Db ρ} {tableName : Text}

theorem size_cons (t : Table ρ) (db : Db ρ) :
    Db.size (t :: db) = Db.size db + (1, t.rows.length) := by
  simp [Db.size, Nat.add_comm]

theorem size_eq_zero : Db.size db = 0 ↔ db = [] := by
  refine ⟨fun h => List.length_eq_zero_iff.mp (congrArg Prod.fst h), ?_⟩
  rintro rfl
  rfl

theorem size_insertRow (row : ρ) (h : db.any (Table.isNamed tableName)) :
    Db.size (insertRow tableName row db) = Db.size db + (0, 1) := by
  induction db with
  | nil => simp at h
  | cons t db ih =>
      rw [insertRow]
      by_cases ht : t.isNamed tableName
      · rw [if_pos ht, size_cons, size_cons]
        simp [add_assoc]
      · rw [if_neg ht, size_cons, size_cons, ih (by simpa [ht] using h), add_right_comm]

theorem any_insertRow (row : ρ) (h : db.any (Table.isNamed tableName)) :
    (insertRow tableName row db).any (Table.isNamed tableName) := by
  induction db with
  | nil => simp at h
  | cons t db ih =>
      rw [insertRow]
      by_cases ht : t.isNamed tableName
      · rw [if_pos ht]
        exact List.any_eq_true.mpr ⟨_, List.mem_cons_self, ht⟩
      · rw [if_neg ht, List.any_cons, ih (by simpa [ht] using h), Bool.or_true]

theorem size_insertRows (rows : List ρ) (h : db.any (Table.isNamed tableName)) :
    Db.size (insertRows tableName rows db) = Db.size db + (0, rows.length) := by
  unfold insertRows
  induction rows generalizing db with
  | nil => rfl
  | cons row rows ih =>
      rw [List.foldl_cons, ih (any_insertRow row h), size_insertRow row h, add_assoc]
      simp [Nat.add_comm]

/-- A committed ingest adds its cost. -/
theorem size_persist {job : IngestJob ρ} (h : persistIngestTable answer db path job = .ok db') :
    Db.size db' = Db.size db + ingestCost job.rows.length job.mode := by
  obtain ⟨target, rfl, hexists, rfl⟩ := persist_ok h
  rw [size_insertRows _ hexists]
  cases job.mode with
  | create => simp [Db.size, ingestCost, IngestJob.newTable]
  | append => simp [ingestCost]

/-- `DROP TABLE` takes out the table that is found under the name. -/
theorem size_eraseP {t : Table ρ} (h : db.find? (Table.isNamed tableName) = some t) :
    Db.size db = Db.size (db.eraseP (Table.isNamed tableName)) + (1, t.rows.length) := by
  induction db with
  | nil => simp at h
  | cons t' db ih =>
      by_cases ht : t'.isNamed tableName
      · rw [List.find?_cons_of_pos ht] at h
        obtain rfl := Option.some.inj h
        rw [List.eraseP_cons_of_pos ht, size_cons]
      · rw [List.find?_cons_of_neg ht] at h
        rw [List.eraseP_cons_of_neg ht, size_cons, size_cons, ih h, add_right_comm]

end Size

end Ga4Mcp.Scratchpad
