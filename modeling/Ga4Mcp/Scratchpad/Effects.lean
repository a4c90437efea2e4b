/-
  What the locked steps do to the session map.

  * `lookup_prunedSessions`, `mem_removedPaths`: `prune_expired_locked` takes out exactly
    the expired entries and collects exactly their paths.
  * `Effect`: the ways in which a locked step changes the set of sessions, with the paths
    it hands to the cleanup.
  * `exec_hasEffect`: every locked step is one of them.

  In a manager reached by the program the path of an entry is that of its session
  (`WellPlaced`).
-/
import Ga4Mcp.Scratchpad.Sessions

namespace Ga4Mcp.Scratchpad

/-! ## Pruning -/

section Pruning

variable {sessions : SessionMap} {ttl now : Nat}

theorem mem_expiredIds {id : Text} : id ∈ expiredIds ttl now sessions ↔
    ∃ entry, sessions.lookup id = some entry ∧ isExpired ttl now entry := by
  simp only [expiredIds, List.mem_map, List.mem_filter]
  constructor
  · rintro ⟨⟨j, entry⟩, ⟨hmem, hexp⟩, rfl⟩
    exact ⟨entry, AList.mem_lookup_iff.mpr hmem, hexp⟩
  · rintro ⟨entry, hlookup, hexp⟩
    exact ⟨⟨id, entry⟩, ⟨AList.mem_lookup_iff.mp hlookup, hexp⟩, rfl⟩

theorem lookup_removeAll (ids : List Text) (sessions : SessionMap) (id : Text) :
    (removeAll ids sessions).1.lookup id = if id ∈ ids then none else sessions.lookup id := by
  induction ids generalizing sessions with
  | nil => simp [removeAll]
  | cons j ids ih =>
      have hfst : (removeAll (j :: ids) sessions).1 = (removeAll ids (sessions.erase j)).1 := by
        simp only [removeAll]
        split <;> rfl
      rw [hfst, ih]
      by_cases hj : id = j
      · subst hj
        simp
      · simp [hj, AList.lookup_erase_ne hj]

theorem mem_removeAll_paths (ids : List Text) (hnodup : ids.Nodup) (sessions : SessionMap)
    (p : Path) : p ∈ (removeAll ids sessions).2 ↔
      ∃ id ∈ ids, ∃ entry, sessions.lookup id = some entry ∧ entry.dbPath = p := by
  induction ids generalizing sessions with
  | nil => simp [removeAll]
  | cons j ids ih =>
      rw [List.nodup_cons] at hnodup
      have hrest := ih hnodup.2 (sessions.erase j)
      have hsame : (∃ id ∈ ids, ∃ entry, (sessions.erase j).lookup id = some entry ∧
          entry.dbPath = p) ↔ ∃ id ∈ ids, ∃ entry, sessions.lookup id = some entry ∧
            entry.dbPath = p := by
        refine exists_congr fun id => and_congr_right fun hid => ?_
        have hne : id ≠ j := fun h => hnodup.1 (h ▸ hid)
        rw [AList.lookup_erase_ne hne]
      rw [hsame] at hrest
      simp only [removeAll, List.mem_cons, exists_eq_or_imp]
      cases hlookup : sessions.lookup j with
      | some entry => simp [hrest, eq_comm]
      | none => simp [hrest]

theorem nodup_expiredIds : (expiredIds ttl now sessions).Nodup := by
  have hkeys : (sessions.entries.map Sigma.fst).Nodup := sessions.nodupKeys
  exact hkeys.sublist ((List.filter_sublist).map Sigma.fst)

end Pruning

section Effects

variable {config : ScratchpadSessionConfig} {clock : Clock} {m : Manager}

/-- The session has expired when the step prunes. -/
def Expired (config : ScratchpadSessionConfig) (clock : Clock) (m : Manager) (id : Text) : Prop :=
  (m.sessions.lookup id).any (isExpired config.sessionTtl clock.prune)

instance (id : Text) : Decidable (Expired config clock m id) :=
  inferInstanceAs (Decidable (_ = true))

theorem expired_iff {id : Text} : Expired config clock m id ↔
    ∃ entry, m.sessions.lookup id = some entry ∧
      isExpired config.sessionTtl clock.prune entry := by
  simp [Expired, Option.any_eq_true]

theorem mem_of_lookup {sessions : SessionMap} {id : Text} {entry : SessionEntry}
    (h : sessions.lookup id = some entry) : id ∈ sessions := by
  rw [← AList.lookup_isSome, h]
  rfl

theorem mem_of_expired {id : Text} (h : Expired config clock m id) : id ∈ m.sessions.keys := by
  obtain ⟨entry, hlookup, _⟩ := expired_iff.mp h
  exact AList.mem_keys.mp (mem_of_lookup hlookup)

theorem lookup_prunedSessions (id : Text) : (prunedSessions config clock m).lookup id =
    (m.sessions.lookup id).filter fun entry => !isExpired config.sessionTtl clock.prune entry := by
  rw [prunedSessions, pruneExpiredLocked, lookup_removeAll]
  simp only [mem_expiredIds]
  cases h : m.sessions.lookup id with
  | none => simp
  | some entry =>
      cases hexp : isExpired config.sessionTtl clock.prune entry <;> simp [Option.filter, hexp]

theorem mem_prunedSessions {id : Text} : id ∈ prunedSessions config clock m ↔
    id ∈ m.sessions ∧ ¬ Expired config clock m id := by
  rw [← AList.lookup_isSome, ← AList.lookup_isSome, lookup_prunedSessions, Expired]
  cases m.sessions.lookup id <;> simp

theorem mem_removedPaths {p : Path} : p ∈ removedPaths config clock m ↔
    ∃ id entry, m.sessions.lookup id = some entry ∧
      isExpired config.sessionTtl clock.prune entry ∧ entry.dbPath = p := by
  rw [removedPaths, pruneExpiredLocked, mem_removeAll_paths _ nodup_expiredIds]
  simp only [mem_expiredIds]
  constructor
  · rintro ⟨id, ⟨entry, h, hexp⟩, entry', h', hp⟩
    obtain rfl : entry = entry' := Option.some.inj (h.symm.trans h')
    exact ⟨id, entry, h, hexp, hp⟩
  · rintro ⟨id, entry, h, hexp, hp⟩
    exact ⟨id, ⟨entry, h, hexp⟩, entry, h, hp⟩

/-! ## Effects on the set of sessions -/

/-- Every entry stands at the path of its session. -/
def WellPlaced (config : ScratchpadSessionConfig) (m : Manager) : Prop :=
  ∀ id entry, m.sessions.lookup id = some entry → entry.dbPath = config.sessionDbPath id

/-- The step returns with `?` after pruning: no such session in
    `reserve_ingest_capacity`, or no room for it in `session_entry_mut`. -/
def LockedCall.ReturnsEarly (config : ScratchpadSessionConfig) (clock : Clock) (m : Manager)
    (call : LockedCall) : Prop :=
  (∃ x ∈ call.reserves, x.1 ∉ prunedSessions config clock m) ∨
    ∃ id ∈ call.enters, id ∉ prunedSessions config clock m ∧
      m.runtimeMaxSessions ≤ (prunedSessions config clock m).keys.length

instance (call : LockedCall) : Decidable (call.ReturnsEarly config clock m) :=
  inferInstanceAs (Decidable (_ ∨ _))

/-- The locked step makes an entry for the session. -/
def LockedCall.Opens (config : ScratchpadSessionConfig) (clock : Clock) (m : Manager)
    (call : LockedCall) (id : Text) : Prop :=
  call.enters = some id ∧ id ∉ prunedSessions config clock m ∧
    (prunedSessions config clock m).keys.length < m.runtimeMaxSessions

instance (call : LockedCall) (id : Text) : Decidable (call.Opens config clock m id) :=
  inferInstanceAs (Decidable (_ ∧ _))

theorem not_opens_of_enters {call : LockedCall} (h : call.enters = none) (id : Text) :
    ¬ call.Opens config clock m id := by
  intro hopens
  have henters := hopens.1
  rw [h] at henters
  cases henters

/-- The manager after a locked step, and the paths it hands to the cleanup. -/
inductive Effect (config : ScratchpadSessionConfig) (clock : Clock) (m : Manager)
    (call : LockedCall) : Manager → List Path → Prop where
  | lost {m' : Manager} (early : call.ReturnsEarly config clock m)
      (after : ∀ id, id ∈ m'.sessions ↔ id ∈ prunedSessions config clock m) :
      Effect config clock m call m' []
  | kept {m' : Manager} (after : ∀ id, id ∈ m'.sessions ↔ id ∈ prunedSessions config clock m) :
      Effect config clock m call m' (removedPaths config clock m)
  | opened {m' : Manager} (id : Text) (opens : call.Opens config clock m id)
      (after : ∀ j, j ∈ m'.sessions ↔ j = id ∨ j ∈ prunedSessions config clock m) :
      Effect config clock m call m' (removedPaths config clock m)
  | closed {m' : Manager} (id : Text) (release : call = .releaseSession id)
      (was : id ∈ prunedSessions config clock m)
      (after : ∀ j, j ∈ m'.sessions ↔ j ≠ id ∧ j ∈ prunedSessions config clock m) :
      Effect config clock m call m' (removedPaths config clock m ++ [config.sessionDbPath id])

/-- A locked step has an effect, and leaves every entry at the path of its session. -/
def Outcome.HasEffect {α : Type} (config : ScratchpadSessionConfig) (clock : Clock) (m : Manager)
    (call : LockedCall) (o : Outcome α) : Prop :=
  Effect config clock m call o.manager o.cleanup ∧ WellPlaced config o.manager

theorem hasEffect_map {α β : Type} {call : LockedCall} {o : Outcome α} (f : α → β)
    (h : o.HasEffect config clock m call) : (o.map f).HasEffect config clock m call := h

theorem wellPlaced_pruned (clock : Clock) (h : WellPlaced config m) :
    WellPlaced config { m with sessions := prunedSessions config clock m } := by
  intro id entry hlookup
  rw [lookup_prunedSessions, Option.filter_eq_some_iff] at hlookup
  exact h id entry hlookup.1

theorem wellPlaced_insert {sessions : SessionMap} {m' : Manager} {id : Text} {entry : SessionEntry}
    (h : ∀ j e, sessions.lookup j = some e → e.dbPath = config.sessionDbPath j)
    (hm : m'.sessions = sessions.insert id entry)
    (hentry : entry.dbPath = config.sessionDbPath id) : WellPlaced config m' := by
  intro j e hlookup
  rw [hm] at hlookup
  by_cases hj : j = id
  · subst hj
    rw [AList.lookup_insert] at hlookup
    rw [← Option.some.inj hlookup, hentry]
  · rw [AList.lookup_insert_ne hj] at hlookup
    exact h j e hlookup

/-- Writing back an entry that was there changes no membership. -/
theorem mem_insert_of_lookup {sessions : SessionMap} {id : Text} {entry entry' : SessionEntry}
    (h : sessions.lookup id = some entry) (j : Text) :
    j ∈ sessions.insert id entry' ↔ j ∈ sessions := by
  rw [AList.mem_insert]
  exact ⟨fun hj => hj.elim (fun hj => hj ▸ mem_of_lookup h) fun hj => hj, .inr⟩

/-- `session_entry_mut` answers the entry that is there, has no room, or makes one. -/
theorem sessionEntryMut_cases (config : ScratchpadSessionConfig) (clock : Clock) (m : Manager)
    (id : Text) (sessions : SessionMap) :
    (∃ entry, sessions.lookup id = some entry ∧
      sessionEntryMut config clock m id sessions = .ok (sessions, entry)) ∨
    (id ∉ sessions ∧ m.runtimeMaxSessions ≤ sessions.keys.length ∧
      ∃ err, sessionEntryMut config clock m id sessions = .error err) ∨
    (id ∉ sessions ∧ sessions.keys.length < m.runtimeMaxSessions ∧
      sessionEntryMut config clock m id sessions =
        .ok (sessions.insert id ⟨config.sessionDbPath id, clock.enter, 0, 0⟩,
          ⟨config.sessionDbPath id, clock.enter, 0, 0⟩)) := by
  unfold sessionEntryMut
  cases hlookup : sessions.lookup id with
  | some entry => exact .inl ⟨entry, rfl, rfl⟩
  | none =>
      have hid := AList.lookup_eq_none.mp hlookup
      by_cases hroom : sessions.keys.length ≥ m.runtimeMaxSessions
      · exact .inr (.inl ⟨hid, hroom, _, if_pos hroom⟩)
      · exact .inr (.inr ⟨hid, not_le.mp hroom, if_neg hroom⟩)

theorem withEntry_hasEffect {α : Type} {call : LockedCall} {id : Text}
    {update : SessionEntry → Except AnalyticsError (SessionEntry × α)}
    (hcall : call.enters = some id) (hm : WellPlaced config m)
    (hupdate : ∀ e x, update e = .ok x → x.1.dbPath = e.dbPath) :
    (withEntry config clock m id update).HasEffect config clock m call := by
  have hp := wellPlaced_pruned clock hm
  unfold withEntry
  rcases sessionEntryMut_cases config clock m id (prunedSessions config clock m) with
    ⟨entry, hlookup, h⟩ | ⟨hid, hroom, err, h⟩ | ⟨hid, hroom, h⟩
  · rw [h]
    dsimp only
    cases hu : update entry with
    | error err => exact ⟨.kept fun j => Iff.rfl, hp⟩
    | ok a =>
        refine ⟨.kept (mem_insert_of_lookup hlookup), wellPlaced_insert hp rfl ?_⟩
        rw [hupdate entry a hu]
        exact hp id entry hlookup
  · rw [h]
    exact ⟨.lost (.inr ⟨id, hcall, hid, hroom⟩) fun j => Iff.rfl, hp⟩
  · rw [h]
    dsimp only
    have hnew : WellPlaced config { m with
        sessions := (prunedSessions config clock m).insert id
          ⟨config.sessionDbPath id, clock.enter, 0, 0⟩ } := wellPlaced_insert hp rfl rfl
    cases hu : update ⟨config.sessionDbPath id, clock.enter, 0, 0⟩ with
    | error err => exact ⟨.opened id ⟨hcall, hid, hroom⟩ fun j => AList.mem_insert _, hnew⟩
    | ok a =>
        refine ⟨.opened id ⟨hcall, hid, hroom⟩ fun j => ?_, wellPlaced_insert hnew rfl ?_⟩
        · rw [mem_insert_of_lookup (AList.lookup_insert _), AList.mem_insert]
        · rw [hupdate _ a hu]

theorem touchExisting_hasEffect {α : Type} (call : LockedCall) (id : Text)
    (answer : SessionEntry → α) (missing : Except AnalyticsError α) (hm : WellPlaced config m) :
    (touchExisting config clock m id answer missing).HasEffect config clock m call := by
  have hp := wellPlaced_pruned clock hm
  unfold touchExisting
  cases hlookup : (prunedSessions config clock m).lookup id with
  | none => exact ⟨.kept fun j => Iff.rfl, hp⟩
  | some entry =>
      refine ⟨.kept (mem_insert_of_lookup hlookup), wellPlaced_insert hp rfl ?_⟩
      exact hp id entry hlookup

theorem lookup_touchAll (sessions : SessionMap) (id : Text) :
    (touchAll clock sessions).lookup id =
      (sessions.lookup id).map fun entry => { entry with lastTouched := clock.touch } := by
  have key : ∀ entries : List (Sigma fun _ : Text => SessionEntry),
      (entries.map fun x => (⟨x.1, { x.2 with lastTouched := clock.touch }⟩ :
        Sigma fun _ : Text => SessionEntry)).dlookup id =
      (entries.dlookup id).map fun entry => { entry with lastTouched := clock.touch } := by
    intro entries
    induction entries with
    | nil => rfl
    | cons x entries ih =>
        obtain ⟨j, e⟩ := x
        by_cases hj : id = j
        · subst hj
          simp [List.dlookup_cons_eq]
        · rw [List.map_cons, List.dlookup_cons_ne _ _ hj, ih, List.dlookup_cons_ne _ _ hj]
  exact key sessions.entries

theorem listSessionsLocked_hasEffect (limit : Nat) (hm : WellPlaced config m) :
    (listSessionsLocked config clock m limit).HasEffect config clock m (.listSessions limit) := by
  have hp := wellPlaced_pruned clock hm
  refine ⟨.kept fun j => ?_, fun j e hj => ?_⟩
  · change j ∈ touchAll clock (prunedSessions config clock m) ↔ _
    rw [← AList.lookup_isSome, lookup_touchAll, Option.isSome_map, AList.lookup_isSome]
  · change (touchAll clock (prunedSessions config clock m)).lookup j = some e at hj
    rw [lookup_touchAll, Option.map_eq_some_iff] at hj
    obtain ⟨entry, hlookup, rfl⟩ := hj
    exact hp j entry hlookup

theorem releaseSessionLocked_hasEffect (id : Text) (hm : WellPlaced config m) :
    (releaseSessionLocked config clock m id).HasEffect config clock m (.releaseSession id) := by
  have hp := wellPlaced_pruned clock hm
  unfold releaseSessionLocked
  cases hlookup : (prunedSessions config clock m).lookup id with
  | none => exact ⟨.kept fun j => Iff.rfl, hp⟩
  | some entry =>
      dsimp only
      rw [hp id entry hlookup]
      refine ⟨.closed id rfl (mem_of_lookup hlookup) fun j => AList.mem_erase, ?_⟩
      intro j e hj
      by_cases hne : j = id
      · subst hne
        simp [AList.lookup_erase] at hj
      · rw [AList.lookup_erase_ne hne] at hj
        exact hp j e hj

theorem reserveIngestCapacity_hasEffect (id : Text) (rows : Nat) (mode : ScratchpadIngestMode)
    (hm : WellPlaced config m) : (reserveIngestCapacity config clock m id rows mode).HasEffect
      config clock m (.reserveIngestCapacity id rows mode) := by
  have hp := wellPlaced_pruned clock hm
  unfold reserveIngestCapacity
  dsimp only
  cases hlookup : (prunedSessions config clock m).lookup id with
  | none =>
      exact ⟨.lost (.inl ⟨(id, rows), rfl, AList.lookup_eq_none.mp hlookup⟩) fun j => Iff.rfl, hp⟩
  | some entry =>
      dsimp only
      split
      · exact ⟨.kept fun j => Iff.rfl, hp⟩
      · split
        · exact ⟨.kept fun j => Iff.rfl, hp⟩
        · refine ⟨.kept (mem_insert_of_lookup hlookup), wellPlaced_insert hp rfl ?_⟩
          exact hp id entry hlookup

theorem rollbackIngestCapacity_hasEffect (id : Text) (rows : Nat) (mode : ScratchpadIngestMode)
    (hm : WellPlaced config m) : (rollbackIngestCapacity config clock m id rows mode).HasEffect
      config clock m (.rollbackIngestCapacity id rows mode) := by
  have hp := wellPlaced_pruned clock hm
  unfold rollbackIngestCapacity
  dsimp only
  cases hlookup : (prunedSessions config clock m).lookup id with
  | none => exact ⟨.kept fun j => Iff.rfl, hp⟩
  | some entry =>
      refine ⟨.kept (mem_insert_of_lookup hlookup), wellPlaced_insert hp rfl ?_⟩
      exact hp id entry hlookup

/-- Every locked step changes the set of sessions in one of the four ways, and keeps
    every entry at the path of its session. -/
theorem exec_hasEffect (clock : Clock) (call : LockedCall) (hm : WellPlaced config m) :
    (call.exec config clock m).HasEffect config clock m call := by
  have hp := wellPlaced_pruned clock hm
  cases call with
  | activeSessionCount => exact ⟨.kept fun j => Iff.rfl, hp⟩
  | sessionInfo id => exact hasEffect_map _ (touchExisting_hasEffect _ id _ _ hm)
  | listSessions limit => exact hasEffect_map _ (listSessionsLocked_hasEffect limit hm)
  | noteTableCreated id =>
      refine hasEffect_map _ (withEntry_hasEffect rfl hm ?_)
      intro e x h
      split at h
      · cases h
      · cases h
        rfl
  | noteRowsIngested id rows =>
      refine hasEffect_map _ (withEntry_hasEffect rfl hm ?_)
      intro e x h
      dsimp only at h
      split at h
      · cases h
      · cases h
        rfl
  | noteTableDropped id rows =>
      refine hasEffect_map _ (withEntry_hasEffect rfl hm ?_)
      rintro e x ⟨⟩
      rfl
  | sessionSnapshot id => exact hasEffect_map _ (touchExisting_hasEffect _ id _ _ hm)
  | releaseSession id => exact hasEffect_map _ (releaseSessionLocked_hasEffect id hm)
  | cleanupExpired => exact ⟨.kept fun j => Iff.rfl, hp⟩
  | reserveIngestCapacity id rows mode =>
      exact hasEffect_map _ (reserveIngestCapacity_hasEffect id rows mode hm)
  | rollbackIngestCapacity id rows mode =>
      exact hasEffect_map _ (rollbackIngestCapacity_hasEffect id rows mode hm)
  | ensureSession id =>
      refine hasEffect_map _ (withEntry_hasEffect rfl hm ?_)
      rintro e x ⟨⟩
      rfl
  | existingSessionDbPath id => exact hasEffect_map _ (touchExisting_hasEffect _ id _ _ hm)

/-! ## Answered paths -/

/-- The session whose path the step answers. -/
def LockedCall.target : LockedCall → Option Text
  | .reserveIngestCapacity id _ _ => some id
  | .ensureSession id => some id
  | .existingSessionDbPath id => some id
  | _ => none

theorem map_none_ne {α : Type} (o : Outcome α) (path : Path) :
    (o.map fun _ => (none : Option Path)).result ≠ .ok (some path) := by
  unfold Outcome.map
  cases o.result <;> simp [Except.map]

theorem withEntry_answer {id : Text} {path : Path}
    {update : SessionEntry → Except AnalyticsError (SessionEntry × Path)}
    (hupdate : ∀ e x, update e = .ok x → x.1.dbPath = x.2)
    (h : (withEntry config clock m id update).result = .ok path) :
    ∃ entry, (withEntry config clock m id update).manager.sessions.lookup id = some entry ∧
      entry.dbPath = path := by
  unfold withEntry at h ⊢
  cases hmut : sessionEntryMut config clock m id (prunedSessions config clock m) with
  | error err =>
      rw [hmut] at h
      cases h
  | ok x =>
      rw [hmut] at h
      dsimp only at h ⊢
      cases hu : update x.2 with
      | error err =>
          rw [hu] at h
          cases h
      | ok a =>
          rw [hu] at h
          cases h
          exact ⟨a.1, AList.lookup_insert _, hupdate _ a hu⟩

theorem result_map_some {α : Type} {o : Outcome α} {f : α → Path} {path : Path}
    (h : (o.map fun a => some (f a)).result = .ok (some path)) :
    ∃ a, o.result = .ok a ∧ f a = path := by
  unfold Outcome.map at h
  cases hr : o.result with
  | error err =>
      rw [hr] at h
      cases h
  | ok a =>
      rw [hr] at h
      exact ⟨a, rfl, by simpa [Except.map] using h⟩

theorem touchExisting_answer {id : Text} {path : Path} {err : AnalyticsError}
    (h : (touchExisting config clock m id (fun entry => entry.dbPath) (.error err)).result =
      .ok path) :
    ∃ entry, (touchExisting config clock m id (fun entry => entry.dbPath)
      (.error err)).manager.sessions.lookup id = some entry ∧ entry.dbPath = path := by
  unfold touchExisting at h ⊢
  cases hlookup : (prunedSessions config clock m).lookup id with
  | none =>
      rw [hlookup] at h
      cases h
  | some entry =>
      rw [hlookup] at h
      cases h
      exact ⟨_, AList.lookup_insert _, rfl⟩

theorem reserveIngestCapacity_answer {id : Text} {rows : Nat} {mode : ScratchpadIngestMode}
    {answer : Path × ScratchpadSessionSnapshot}
    (h : (reserveIngestCapacity config clock m id rows mode).result = .ok answer) :
    ∃ entry, (reserveIngestCapacity config clock m id rows mode).manager.sessions.lookup id =
      some entry ∧ entry.dbPath = answer.1 := by
  unfold reserveIngestCapacity at h ⊢
  dsimp only at h ⊢
  cases hlookup : (prunedSessions config clock m).lookup id with
  | none =>
      rw [hlookup] at h
      cases h
  | some entry =>
      rw [hlookup] at h
      dsimp only at h ⊢
      split at h
      · cases h
      case isFalse htables =>
        split at h
        · cases h
        case isFalse hrows =>
          cases h
          rw [if_neg htables, if_neg hrows]
          exact ⟨_, AList.lookup_insert _, rfl⟩

/-- An answered path is that of the entry of the target. -/
theorem exec_answer {call : LockedCall} {path : Path}
    (h : (call.exec config clock m).result = .ok (some path)) :
    ∃ id entry, call.target = some id ∧
      (call.exec config clock m).manager.sessions.lookup id = some entry ∧ entry.dbPath = path := by
  cases call with
  | reserveIngestCapacity id rows mode =>
      obtain ⟨a, ha, rfl⟩ := result_map_some (f := Prod.fst) h
      obtain ⟨entry, hlookup, hpath⟩ := reserveIngestCapacity_answer ha
      exact ⟨id, entry, rfl, hlookup, hpath⟩
  | ensureSession id =>
      obtain ⟨a, ha, rfl⟩ := result_map_some (f := fun path => path) h
      obtain ⟨entry, hlookup, hpath⟩ := withEntry_answer (by rintro e x ⟨⟩; rfl) ha
      exact ⟨id, entry, rfl, hlookup, hpath⟩
  | existingSessionDbPath id =>
      obtain ⟨a, ha, rfl⟩ := result_map_some (f := fun path => path) h
      obtain ⟨entry, hlookup, hpath⟩ := touchExisting_answer ha
      exact ⟨id, entry, rfl, hlookup, hpath⟩
  | _ => exact absurd h (map_none_ne _ path)

end Effects

end Ga4Mcp.Scratchpad
