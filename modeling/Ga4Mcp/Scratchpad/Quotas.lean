/-
  The quotas hold in every run, and every snapshot adds up.

  * `entriesWithin_exec`: a locked step keeps every entry within the row limit and within
    any number of tables that is at least the limit of the moment.
  * `length_exec_le`: and the number of sessions within any number that is at least the
    session limit of the moment.
  * `snapshots_balanced`: what is used and what remains is the limit, or what is used when
    that is more.
  * `quotas_hold`: in a state reached by any run, with the largest limits of the run.

  The limits may be set at any time, so that a session may hold more tables than the limit
  that is in force now.
-/
import Ga4Mcp.Scratchpad.System

namespace Ga4Mcp.Scratchpad

open Ga4Mcp.Lib

/-! ## Entries -/

section Entries

variable {config : ScratchpadSessionConfig} {clock : Clock} {m : Manager} {tables : Nat}

/-- A session within both limits. -/
def EntryWithin (config : ScratchpadSessionConfig) (tables : Nat) (entry : SessionEntry) : Prop :=
  entry.rowsUsed ≤ config.maxRowsPerSession ∧ entry.tablesUsed ≤ tables

/-- Every session within both limits. -/
def EntriesWithin (config : ScratchpadSessionConfig) (tables : Nat) (sessions : SessionMap) :
    Prop :=
  ∀ id entry, sessions.lookup id = some entry → EntryWithin config tables entry

theorem EntriesWithin.pruned (h : EntriesWithin config tables m.sessions) :
    EntriesWithin config tables (prunedSessions config clock m) := by
  intro id entry hlookup
  rw [lookup_prunedSessions, Option.filter_eq_some_iff] at hlookup
  exact h id entry hlookup.1

theorem EntriesWithin.insert {sessions : SessionMap} {id : Text} {entry : SessionEntry}
    (h : EntriesWithin config tables sessions) (hentry : EntryWithin config tables entry) :
    EntriesWithin config tables (sessions.insert id entry) := by
  intro j e hlookup
  by_cases hj : j = id
  · rw [hj, AList.lookup_insert] at hlookup
    rwa [← Option.some.inj hlookup]
  · rw [AList.lookup_insert_ne hj] at hlookup
    exact h j e hlookup

theorem EntriesWithin.erase {sessions : SessionMap} {id : Text}
    (h : EntriesWithin config tables sessions) :
    EntriesWithin config tables (sessions.erase id) := by
  intro j e hlookup
  by_cases hj : j = id
  · rw [hj, AList.lookup_erase] at hlookup
    cases hlookup
  · rw [AList.lookup_erase_ne hj] at hlookup
    exact h j e hlookup

theorem EntriesWithin.touchAll {sessions : SessionMap}
    (h : EntriesWithin config tables sessions) :
    EntriesWithin config tables (touchAll clock sessions) := by
  intro j e hlookup
  rw [lookup_touchAll, Option.map_eq_some_iff] at hlookup
  obtain ⟨entry, hentry, rfl⟩ := hlookup
  exact h j entry hentry

theorem entriesWithin_withEntry {α : Type} {id : Text}
    {update : SessionEntry → Except AnalyticsError (SessionEntry × α)}
    (h : EntriesWithin config tables m.sessions)
    (hupdate : ∀ entry x, EntryWithin config tables entry → update entry = .ok x →
      EntryWithin config tables x.1) :
    EntriesWithin config tables (withEntry config clock m id update).manager.sessions := by
  have hp : EntriesWithin config tables (prunedSessions config clock m) := h.pruned
  have hmut : ∀ sessions entry,
      sessionEntryMut config clock m id (prunedSessions config clock m) = .ok (sessions, entry) →
      EntriesWithin config tables sessions ∧ EntryWithin config tables entry := by
    intro sessions entry hok
    rcases sessionEntryMut_cases config clock m id (prunedSessions config clock m) with
      ⟨e, hlookup, heq⟩ | ⟨_, _, err, heq⟩ | ⟨_, _, heq⟩
    · obtain ⟨rfl, rfl⟩ := Prod.mk.inj (Except.ok.inj (heq.symm.trans hok))
      exact ⟨hp, hp id _ hlookup⟩
    · rw [heq] at hok
      cases hok
    · obtain ⟨rfl, rfl⟩ := Prod.mk.inj (Except.ok.inj (heq.symm.trans hok))
      have hfresh : EntryWithin config tables ⟨config.sessionDbPath id, clock.enter, 0, 0⟩ :=
        ⟨Nat.zero_le _, Nat.zero_le _⟩
      exact ⟨hp.insert hfresh, hfresh⟩
  unfold withEntry
  split
  case h_1 => exact hp
  case h_2 sessions entry hok =>
    obtain ⟨hsessions, hentry⟩ := hmut sessions entry hok
    cases hu : update entry with
    | error err => exact hsessions
    | ok x => exact hsessions.insert (hupdate entry x hentry hu)

theorem entriesWithin_touchExisting {α : Type} {id : Text} {answer : SessionEntry → α}
    {missing : Except AnalyticsError α} (h : EntriesWithin config tables m.sessions) :
    EntriesWithin config tables
      (touchExisting config clock m id answer missing).manager.sessions := by
  have hp : EntriesWithin config tables (prunedSessions config clock m) := h.pruned
  unfold touchExisting
  cases hlookup : (prunedSessions config clock m).lookup id with
  | none => exact hp
  | some entry => exact hp.insert (hp id entry hlookup)

theorem entriesWithin_noteTableCreatedLocked {id : Text}
    (h : EntriesWithin config tables m.sessions) (hlimit : m.runtimeMaxTablesPerSession ≤ tables) :
    EntriesWithin config tables (noteTableCreatedLocked config clock m id).manager.sessions := by
  refine entriesWithin_withEntry h fun entry x hentry hx => ?_
  dsimp only at hx
  split at hx
  case isTrue => cases hx
  case isFalse hroom =>
    obtain rfl := Except.ok.inj hx
    exact ⟨hentry.1, le_trans (not_le.mp hroom) hlimit⟩

theorem entriesWithin_noteRowsIngestedLocked {id : Text} {rows : Nat}
    (h : EntriesWithin config tables m.sessions) :
    EntriesWithin config tables
      (noteRowsIngestedLocked config clock m id rows).manager.sessions := by
  refine entriesWithin_withEntry h fun entry x hentry hx => ?_
  dsimp only at hx
  split at hx
  case isTrue => cases hx
  case isFalse hroom =>
    obtain rfl := Except.ok.inj hx
    exact ⟨not_lt.mp hroom, hentry.2⟩

theorem entriesWithin_noteTableDroppedLocked {id : Text} {rows : Nat}
    (h : EntriesWithin config tables m.sessions) :
    EntriesWithin config tables
      (noteTableDroppedLocked config clock m id rows).manager.sessions := by
  refine entriesWithin_withEntry h fun entry x hentry hx => ?_
  obtain rfl := Except.ok.inj hx
  exact ⟨le_trans (Nat.sub_le ..) hentry.1, le_trans (Nat.sub_le ..) hentry.2⟩

theorem entriesWithin_reserveIngestCapacity {id : Text} {rows : Nat} {mode : ScratchpadIngestMode}
    (h : EntriesWithin config tables m.sessions) (hlimit : m.runtimeMaxTablesPerSession ≤ tables) :
    EntriesWithin config tables
      (reserveIngestCapacity config clock m id rows mode).manager.sessions := by
  have hp : EntriesWithin config tables (prunedSessions config clock m) := h.pruned
  unfold reserveIngestCapacity
  dsimp only
  cases hlookup : (prunedSessions config clock m).lookup id with
  | none => exact hp
  | some entry =>
      dsimp only
      split
      case isTrue => exact hp
      case isFalse hroom =>
        split
        case isTrue => exact hp
        case isFalse hrows =>
          refine hp.insert ⟨not_lt.mp hrows, ?_⟩
          change (if mode = .create then entry.tablesUsed + 1 else entry.tablesUsed) ≤ tables
          by_cases hmode : mode = .create
          · have hbelow : entry.tablesUsed < m.runtimeMaxTablesPerSession :=
              not_le.mp fun hfull => hroom ⟨hmode, hfull⟩
            rw [if_pos hmode]
            omega
          · rw [if_neg hmode]
            exact (hp id entry hlookup).2

theorem entriesWithin_rollbackIngestCapacity {id : Text} {rows : Nat}
    {mode : ScratchpadIngestMode} (h : EntriesWithin config tables m.sessions) :
    EntriesWithin config tables
      (rollbackIngestCapacity config clock m id rows mode).manager.sessions := by
  have hp : EntriesWithin config tables (prunedSessions config clock m) := h.pruned
  unfold rollbackIngestCapacity
  dsimp only
  cases hlookup : (prunedSessions config clock m).lookup id with
  | none => exact hp
  | some entry =>
      obtain ⟨hrows, htables⟩ := hp id entry hlookup
      refine hp.insert ⟨le_trans (Nat.sub_le ..) hrows, ?_⟩
      dsimp only
      split
      · exact le_trans (Nat.sub_le ..) htables
      · exact htables

theorem entriesWithin_releaseSessionLocked {id : Text}
    (h : EntriesWithin config tables m.sessions) :
    EntriesWithin config tables (releaseSessionLocked config clock m id).manager.sessions := by
  have hp : EntriesWithin config tables (prunedSessions config clock m) := h.pruned
  unfold releaseSessionLocked
  cases hlookup : (prunedSessions config clock m).lookup id with
  | none => exact hp
  | some entry => exact hp.erase

/-- No locked step takes a session beyond the limits. -/
theorem entriesWithin_exec (call : LockedCall) (h : EntriesWithin config tables m.sessions)
    (hlimit : m.runtimeMaxTablesPerSession ≤ tables) :
    EntriesWithin config tables (call.exec config clock m).manager.sessions := by
  cases call with
  | activeSessionCount => exact h.pruned
  | cleanupExpired => exact h.pruned
  | sessionInfo => exact entriesWithin_touchExisting h
  | sessionSnapshot => exact entriesWithin_touchExisting h
  | existingSessionDbPath => exact entriesWithin_touchExisting h
  | listSessions => exact EntriesWithin.touchAll h.pruned
  | noteTableCreated => exact entriesWithin_noteTableCreatedLocked h hlimit
  | noteRowsIngested => exact entriesWithin_noteRowsIngestedLocked h
  | noteTableDropped => exact entriesWithin_noteTableDroppedLocked h
  | releaseSession => exact entriesWithin_releaseSessionLocked h
  | reserveIngestCapacity => exact entriesWithin_reserveIngestCapacity h hlimit
  | rollbackIngestCapacity => exact entriesWithin_rollbackIngestCapacity h
  | ensureSession =>
      refine entriesWithin_withEntry h fun entry x hentry hx => ?_
      obtain rfl := Except.ok.inj hx
      exact hentry

end Entries

/-! ## The number of sessions -/

section Sessions

variable {config : ScratchpadSessionConfig} {m : Manager}

theorem length_keys_le {s t : SessionMap} (extra : List Text)
    (h : ∀ id, id ∈ s → id ∈ extra ∨ id ∈ t) : s.keys.length ≤ extra.length + t.keys.length := by
  have hsub : s.keys ⊆ extra ++ t.keys := by
    intro id hid
    rw [List.mem_append]
    exact (h id (AList.mem_keys.mpr hid)).imp_right AList.mem_keys.mp
  rw [← List.length_append]
  exact (s.keys_nodup.subperm hsub).length_le

theorem length_prunedSessions_le (clock : Clock) :
    (prunedSessions config clock m).keys.length ≤ m.sessions.keys.length := by
  have h := length_keys_le (s := prunedSessions config clock m) (t := m.sessions) []
    fun _ hid => .inr (mem_prunedSessions.mp hid).1
  simpa using h

/-- A session is only made while there is room for it. -/
theorem length_le_of_effect {clock : Clock} {call : LockedCall} {m' : Manager}
    {cleanup : List Path} {limit : Nat} (heffect : Effect config clock m call m' cleanup)
    (h : m.sessions.keys.length ≤ limit) (hlimit : m.runtimeMaxSessions ≤ limit) :
    m'.sessions.keys.length ≤ limit := by
  have hpruned : (prunedSessions config clock m).keys.length ≤ m.sessions.keys.length :=
    length_prunedSessions_le clock
  cases heffect with
  | lost _ after =>
      have hle := length_keys_le [] fun id hid => .inr ((after id).mp hid)
      simp only [List.length_nil] at hle
      omega
  | kept after =>
      have hle := length_keys_le [] fun id hid => .inr ((after id).mp hid)
      simp only [List.length_nil] at hle
      omega
  | opened id opens after =>
      have hle := length_keys_le [id] fun j hj =>
        ((after j).mp hj).imp_left List.mem_singleton.mpr
      have hroom := opens.2.2
      simp only [List.length_singleton] at hle
      omega
  | closed id _ _ after =>
      have hle := length_keys_le [] fun j hj => .inr ((after j).mp hj).2
      simp only [List.length_nil] at hle
      omega

theorem length_exec_le (clock : Clock) (call : LockedCall) (hm : WellPlaced config m) {limit : Nat}
    (h : m.sessions.keys.length ≤ limit) (hlimit : m.runtimeMaxSessions ≤ limit) :
    (call.exec config clock m).manager.sessions.keys.length ≤ limit :=
  length_le_of_effect (exec_hasEffect clock call hm).1 h hlimit

end Sessions

/-! ## Snapshots -/

section Snapshots

variable (config : ScratchpadSessionConfig) (clock : Clock) (m : Manager)

/-- The quotas of an information. -/
def ScratchpadSessionInfo.snapshot (info : ScratchpadSessionInfo) : ScratchpadSessionSnapshot :=
  ⟨info.tablesUsed, info.tablesRemaining, info.rowsUsed, info.rowsRemaining⟩

/-- What an answer shows, unless it is an error. -/
def shown {α β : Type} (show' : α → List β) (result : Except AnalyticsError α) : List β :=
  match result with
  | .ok a => show' a
  | .error _ => []

/-- The snapshots in the answer of a locked step. -/
def LockedCall.snapshots : LockedCall → List ScratchpadSessionSnapshot
  | sessionInfo id =>
      shown (fun info => [info.snapshot]) (sessionInfoLocked config clock m id).result
  | listSessions limit =>
      shown (fun infos => infos.map ScratchpadSessionInfo.snapshot)
        (listSessionsLocked config clock m limit).result
  | noteTableCreated id =>
      shown (fun snapshot => [snapshot]) (noteTableCreatedLocked config clock m id).result
  | noteRowsIngested id rows =>
      shown (fun snapshot => [snapshot]) (noteRowsIngestedLocked config clock m id rows).result
  | noteTableDropped id rows =>
      shown (fun snapshot => [snapshot]) (noteTableDroppedLocked config clock m id rows).result
  | sessionSnapshot id => shown Option.toList (sessionSnapshotLocked config clock m id).result
  | reserveIngestCapacity id rows mode =>
      shown (fun answer => [answer.2])
        (Scratchpad.reserveIngestCapacity config clock m id rows mode).result
  | _ => []

/-- What is used and what remains make up the limit, or what is used when that is more. -/
def Balanced (snapshot : ScratchpadSessionSnapshot) : Prop :=
  snapshot.tablesUsed + snapshot.tablesRemaining =
      max snapshot.tablesUsed m.runtimeMaxTablesPerSession ∧
    snapshot.rowsUsed + snapshot.rowsRemaining = max snapshot.rowsUsed config.maxRowsPerSession

variable {config clock m}

theorem balanced_snapshotOf (entry : SessionEntry) :
    Balanced config m (snapshotOf config m entry) := by
  constructor <;> simp only [snapshotOf, snapshotFromEntry] <;> omega

theorem balanced_sessionInfoFromEntry (id : Text) (entry : SessionEntry) (ttl now : Nat) :
    Balanced config m (sessionInfoFromEntry id entry m.runtimeMaxTablesPerSession
      config.maxRowsPerSession ttl now).snapshot :=
  balanced_snapshotOf entry

theorem mem_shown {α β : Type} {show' : α → List β} {result : Except AnalyticsError α} {b : β}
    (h : b ∈ shown show' result) : ∃ a, result = .ok a ∧ b ∈ show' a := by
  cases result with
  | error err => cases h
  | ok a => exact ⟨a, rfl, h⟩

theorem withEntry_ok {α : Type} {id : Text} {a : α}
    {update : SessionEntry → Except AnalyticsError (SessionEntry × α)}
    (h : (withEntry config clock m id update).result = .ok a) :
    ∃ entry entry', update entry = .ok (entry', a) := by
  unfold withEntry at h
  split at h
  case h_1 => cases h
  case h_2 sessions entry _ =>
    cases hu : update entry with
    | error err =>
        rw [hu] at h
        cases h
    | ok x =>
        obtain ⟨entry', answer⟩ := x
        rw [hu] at h
        obtain rfl := Except.ok.inj h
        exact ⟨entry, entry', hu⟩

theorem touchExisting_ok {α : Type} {id : Text} {answer : SessionEntry → α} {a : α}
    {missing : Except AnalyticsError α}
    (h : (touchExisting config clock m id answer missing).result = .ok a) :
    (∃ entry, a = answer entry) ∨ missing = .ok a := by
  unfold touchExisting at h
  split at h
  · exact .inl ⟨_, (Except.ok.inj h).symm⟩
  · exact .inr h

/-- Every snapshot that a locked step answers adds up to the limits of the moment. -/
theorem snapshots_balanced (call : LockedCall) :
    ∀ snapshot ∈ call.snapshots config clock m, Balanced config m snapshot := by
  intro snapshot hsnapshot
  cases call with
  | sessionInfo id =>
      obtain ⟨info, hinfo, hmem⟩ := mem_shown hsnapshot
      rw [List.mem_singleton.mp hmem]
      rcases touchExisting_ok hinfo with ⟨entry, rfl⟩ | hmissing
      · exact balanced_sessionInfoFromEntry id entry _ _
      · cases hmissing
  | listSessions limit =>
      unfold LockedCall.snapshots at hsnapshot
      obtain ⟨infos, hinfos, hmem⟩ := mem_shown hsnapshot
      obtain rfl := Except.ok.inj hinfos
      obtain ⟨info, hinfo, rfl⟩ := List.mem_map.mp hmem
      obtain ⟨x, _, rfl⟩ := List.mem_map.mp (List.mem_mergeSort.mp (List.mem_of_mem_take hinfo))
      exact balanced_sessionInfoFromEntry x.1 x.2 _ _
  | noteTableCreated id =>
      obtain ⟨_, hanswer, hmem⟩ := mem_shown hsnapshot
      rw [List.mem_singleton.mp hmem]
      obtain ⟨entry, entry', hupdate⟩ := withEntry_ok hanswer
      split at hupdate
      · cases hupdate
      · obtain ⟨_, rfl⟩ := Prod.mk.inj (Except.ok.inj hupdate)
        exact balanced_snapshotOf _
  | noteRowsIngested id rows =>
      obtain ⟨_, hanswer, hmem⟩ := mem_shown hsnapshot
      rw [List.mem_singleton.mp hmem]
      obtain ⟨entry, entry', hupdate⟩ := withEntry_ok hanswer
      dsimp only at hupdate
      split at hupdate
      · cases hupdate
      · obtain ⟨_, rfl⟩ := Prod.mk.inj (Except.ok.inj hupdate)
        exact balanced_snapshotOf _
  | noteTableDropped id rows =>
      obtain ⟨_, hanswer, hmem⟩ := mem_shown hsnapshot
      rw [List.mem_singleton.mp hmem]
      obtain ⟨entry, entry', hupdate⟩ := withEntry_ok hanswer
      obtain ⟨_, rfl⟩ := Prod.mk.inj (Except.ok.inj hupdate)
      exact balanced_snapshotOf _
  | sessionSnapshot id =>
      obtain ⟨answer, hanswer, hmem⟩ := mem_shown hsnapshot
      rcases touchExisting_ok hanswer with ⟨entry, rfl⟩ | hmissing
      · rw [← Option.some.inj (Option.mem_toList.mp hmem)]
        exact balanced_snapshotOf _
      · obtain rfl := Except.ok.inj hmissing
        cases hmem
  | reserveIngestCapacity id rows mode =>
      obtain ⟨answer, hanswer, hmem⟩ := mem_shown hsnapshot
      rw [List.mem_singleton.mp hmem]
      unfold reserveIngestCapacity at hanswer
      dsimp only at hanswer
      split at hanswer
      · cases hanswer
      · split at hanswer
        · cases hanswer
        · split at hanswer
          · cases hanswer
          · rw [← Except.ok.inj hanswer]
            exact balanced_snapshotOf _
  | _ => cases hsnapshot

end Snapshots

/-! ## Runs -/

section Runs

variable (config : ScratchpadSessionConfig) {n : Nat} {ρ : Type}

/-- The table limit of now. -/
def Sys.tablesLimit (s : Sys n ρ) : Nat := s.manager.runtimeMaxTablesPerSession

/-- The session limit of now. -/
def Sys.sessionsLimit (s : Sys n ρ) : Nat := s.manager.runtimeMaxSessions

/-- Every session is within the row limit and this table limit. -/
def Sys.TablesWithin (tables : Nat) (s : Sys n ρ) : Prop :=
  EntriesWithin config tables s.manager.sessions

/-- There are at most so many sessions. -/
def Sys.SessionsWithin (limit : Nat) (s : Sys n ρ) : Prop :=
  WellPlaced config s.manager ∧ s.manager.sessions.keys.length ≤ limit

variable {config} [DecidableEq ρ] {s s' : Sys n ρ} {label : Label n ρ}

theorem tablesWithin_step {tables : Nat} (hlimit : s.tablesLimit ≤ tables)
    (hs : s.TablesWithin config tables) (h : (system config n).step s label = some s') :
    s'.TablesWithin config tables := by
  cases stepped_of_step config h with
  | limits same _ =>
      rw [Sys.TablesWithin, same]
      exact hs
  | limitRefused => exact hs
  | refused => exact hs
  | started _ _ clock plan _ _ => exact entriesWithin_exec plan.call hs hlimit
  | removed => exact hs
  | worked => exact hs
  | finished _ clock call _ _ => exact entriesWithin_exec call hs hlimit

theorem sessionsWithin_step {limit : Nat} (hlimit : s.sessionsLimit ≤ limit)
    (hs : s.SessionsWithin config limit) (h : (system config n).step s label = some s') :
    s'.SessionsWithin config limit := by
  obtain ⟨hplaced, hlength⟩ := hs
  cases stepped_of_step config h with
  | limits same _ =>
      refine ⟨fun id entry hlookup => hplaced id entry (same ▸ hlookup), ?_⟩
      dsimp only
      rwa [same]
  | limitRefused => exact ⟨hplaced, hlength⟩
  | refused => exact ⟨hplaced, hlength⟩
  | started _ _ clock plan _ _ =>
      exact ⟨(exec_hasEffect clock plan.call hplaced).2,
        length_exec_le clock plan.call hplaced hlength hlimit⟩
  | removed => exact ⟨hplaced, hlength⟩
  | worked => exact ⟨hplaced, hlength⟩
  | finished _ clock call _ _ =>
      exact ⟨(exec_hasEffect clock call hplaced).2,
        length_exec_le clock call hplaced hlength hlimit⟩

/-- **Quotas are never exceeded**, in any run of any number of clients, and every snapshot
    adds up. -/
theorem quotas_hold {past : List (Sys n ρ)}
    (h : (system config n).History Machine.anyStep past s) :
    (∀ id entry, s.manager.sessions.lookup id = some entry →
      entry.rowsUsed ≤ config.maxRowsPerSession ∧
        entry.tablesUsed ≤ Machine.peak Sys.tablesLimit (s :: past)) ∧
    s.manager.sessions.keys.length ≤ Machine.peak Sys.sessionsLimit (s :: past) ∧
    ∀ clock (call : LockedCall), ∀ snapshot ∈ call.snapshots config clock s.manager,
      Balanced config s.manager snapshot := by
  have htables : s.TablesWithin config (Machine.peak Sys.tablesLimit (s :: past)) := by
    refine h.within_peak (fun _ _ _ hle hs id entry hlookup => ?_) (fun id entry hlookup => ?_)
      fun _ _ _ _ hlimit hs _ hstep => tablesWithin_step hlimit hs hstep
    · exact ⟨(hs id entry hlookup).1, le_trans (hs id entry hlookup).2 hle⟩
    · simp [system, Sys.start, Manager.new] at hlookup
  have hsessions : s.SessionsWithin config (Machine.peak Sys.sessionsLimit (s :: past)) := by
    refine h.within_peak (fun _ _ _ hle hs => ⟨hs.1, le_trans hs.2 hle⟩)
      ⟨fun id entry hlookup => ?_, ?_⟩
      fun _ _ _ _ hlimit hs _ hstep => sessionsWithin_step hlimit hs hstep
    · simp [system, Sys.start, Manager.new] at hlookup
    · exact Nat.zero_le _
  exact ⟨htables, hsessions.2, fun clock call => snapshots_balanced call⟩

end Runs

/-- Two tables are ingested, and then the limit is lowered to one. -/
def lowered : List (Sys 2 Nat) × Sys 2 Nat :=
  (system defaultConfig 2).trail [] (Sys.start defaultConfig)
    [.start 0 (.openSession (text "s")) (.at 0), .engine 0 .fine, .finish 0 (.at 0),
      .start 0 (.ingestRowsWithMode (text "s") (text "t") [⟨text "a", text "integer"⟩] [1] .create)
        (.at 1), .engine 0 .fine,
      .start 1 (.ingestRowsWithMode (text "s") (text "u") [⟨text "a", text "integer"⟩] [2] .create)
        (.at 2), .engine 1 .fine, .setMaxTables 1]

theorem quotas_lowered :
    ((lowered.2.manager.sessions.lookup (text "s")).map SessionEntry.tablesUsed = some 2 ∧
      lowered.2.tablesLimit = 1) ∧
    ∀ id entry, lowered.2.manager.sessions.lookup id = some entry →
      entry.rowsUsed ≤ 1000000 ∧
        entry.tablesUsed ≤ Machine.peak Sys.tablesLimit (lowered.2 :: lowered.1) :=
  ⟨by decide +kernel, (quotas_hold (Machine.history_trail .start _)).1⟩

end Ga4Mcp.Scratchpad
