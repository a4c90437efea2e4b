/-
  How long a session lives, for `src/scratchpad.rs`. Every locked step takes out the entries
  that nobody has touched for `session_ttl`, and some steps touch entries.

  * `idle_session`: an entry that no step attends to stays as it is until its time is over, and
    the first locked step after that takes it out, whichever client takes the step.
  * `polled_sessions_stay`: where `list_sessions` is called often enough, nothing expires at
    all; sessions go by `release_session` only, and a full manager lets nobody new in.

  `scratchpad_list_sessions` and the memory probe of the runtime status call `list_sessions`,
  which touches every entry, also those that its limit cuts off.
-/
import Ga4Mcp.Scratchpad.Quotas

namespace Ga4Mcp.Scratchpad

open Ga4Mcp.Lib

/-! ## Which steps touch an entry -/

namespace LockedCall

/-- The session that a locked step names. -/
def session? : LockedCall → Option Text
  | sessionInfo id => some id
  | noteTableCreated id => some id
  | noteRowsIngested id _ => some id
  | noteTableDropped id _ => some id
  | sessionSnapshot id => some id
  | releaseSession id => some id
  | reserveIngestCapacity id _ _ => some id
  | rollbackIngestCapacity id _ _ => some id
  | ensureSession id => some id
  | existingSessionDbPath id => some id
  | activeSessionCount => none
  | listSessions _ => none
  | cleanupExpired => none

/-- The call that touches every session. -/
def listsSessions : LockedCall → Bool
  | listSessions _ => true
  | _ => false

/-- The step lists all sessions, or it names this one and goes through `session_entry_mut` or
    succeeds. What is left are the steps for other sessions, the counts, and the reservations
    and lookups that are refused. -/
def Attends (config : ScratchpadSessionConfig) (clock : Clock) (m : Manager) (call : LockedCall)
    (id : Text) : Prop :=
  call.listsSessions = true ∨
    call.session? = some id ∧
      (call.enters = some id ∨ ∃ answer, (call.exec config clock m).result = .ok answer)

end LockedCall

section Entries

variable {config : ScratchpadSessionConfig} {clock : Clock} {m : Manager} {α : Type}

theorem lookup_withEntry_ne {id j : Text}
    (update : SessionEntry → Except AnalyticsError (SessionEntry × α)) (hne : j ≠ id) :
    (withEntry config clock m id update).manager.sessions.lookup j =
      (prunedSessions config clock m).lookup j := by
  unfold withEntry
  rcases sessionEntryMut_cases config clock m id (prunedSessions config clock m) with
    ⟨entry, -, h⟩ | ⟨-, -, err, h⟩ | ⟨-, -, h⟩
  · rw [h]
    dsimp only
    cases update entry with
    | error err => rfl
    | ok x => exact AList.lookup_insert_ne hne
  · rw [h]
  · rw [h]
    dsimp only
    cases update ⟨config.sessionDbPath id, clock.enter, 0, 0⟩ with
    | error err => exact AList.lookup_insert_ne hne
    | ok x => exact (AList.lookup_insert_ne hne).trans (AList.lookup_insert_ne hne)

theorem lookup_touchExisting_ne {id j : Text} (answer : SessionEntry → α)
    (missing : Except AnalyticsError α) (hne : j ≠ id) :
    (touchExisting config clock m id answer missing).manager.sessions.lookup j =
      (prunedSessions config clock m).lookup j := by
  unfold touchExisting
  cases (prunedSessions config clock m).lookup id with
  | some entry => exact AList.lookup_insert_ne hne
  | none => rfl

/-- `touchExisting` that is refused has found no entry. -/
theorem lookup_touchExisting_error {id : Text} {answer : SessionEntry → α}
    {missing : Except AnalyticsError α} {err : AnalyticsError}
    (h : (touchExisting config clock m id answer missing).result = .error err) (j : Text) :
    (touchExisting config clock m id answer missing).manager.sessions.lookup j =
      (prunedSessions config clock m).lookup j := by
  unfold touchExisting at h ⊢
  cases hlookup : (prunedSessions config clock m).lookup id with
  | some entry =>
      rw [hlookup] at h
      cases h
  | none => rfl

theorem lookup_releaseSessionLocked_ne {id j : Text} (hne : j ≠ id) :
    (releaseSessionLocked config clock m id).manager.sessions.lookup j =
      (prunedSessions config clock m).lookup j := by
  unfold releaseSessionLocked
  cases (prunedSessions config clock m).lookup id with
  | some entry => exact AList.lookup_erase_ne hne
  | none => rfl

/-- A reservation leaves the other entries, and a refused one all of them. -/
theorem lookup_reserveIngestCapacity {id j : Text} {rows : Nat} {mode : ScratchpadIngestMode}
    (h : j ≠ id ∨ ∃ err, (reserveIngestCapacity config clock m id rows mode).result = .error err) :
    (reserveIngestCapacity config clock m id rows mode).manager.sessions.lookup j =
      (prunedSessions config clock m).lookup j := by
  unfold reserveIngestCapacity at h ⊢
  dsimp only at h ⊢
  cases hlookup : (prunedSessions config clock m).lookup id with
  | none => rfl
  | some entry =>
      rw [hlookup] at h
      dsimp only at h ⊢
      split
      · rfl
      · next hroom =>
          rw [if_neg hroom] at h
          split
          · rfl
          · next hrows =>
              rw [if_neg hrows] at h
              rcases h with hne | ⟨err, herr⟩
              · exact AList.lookup_insert_ne hne
              · cases herr

theorem lookup_rollbackIngestCapacity_ne {id j : Text} {rows : Nat} {mode : ScratchpadIngestMode}
    (hne : j ≠ id) :
    (rollbackIngestCapacity config clock m id rows mode).manager.sessions.lookup j =
      (prunedSessions config clock m).lookup j := by
  unfold rollbackIngestCapacity
  dsimp only
  cases (prunedSessions config clock m).lookup id with
  | none => rfl
  | some entry => exact AList.lookup_insert_ne hne

theorem result_of_map_error {β : Type} {o : Outcome α} {f : α → β}
    (h : ¬ ∃ answer, (o.map f).result = .ok answer) : ∃ err, o.result = .error err := by
  unfold Outcome.map at h
  cases hresult : o.result with
  | error err => exact ⟨err, rfl⟩
  | ok answer =>
      rw [hresult] at h
      exact absurd ⟨f answer, rfl⟩ h

/-- A step that does not attend to a session only prunes it. -/
theorem lookup_exec_of_not_attends {call : LockedCall} {id : Text}
    (h : ¬ call.Attends config clock m id) :
    (call.exec config clock m).manager.sessions.lookup id =
      (prunedSessions config clock m).lookup id := by
  have hother : ∀ j, call.session? = some j → call.enters = some j → id ≠ j := by
    rintro j hnames henters rfl
    exact h (.inr ⟨hnames, .inl henters⟩)
  have hrefused : ∀ j, call.session? = some j → id ≠ j ∨
      ¬ ∃ answer, (call.exec config clock m).result = .ok answer := by
    intro j hnames
    by_cases hj : id = j
    · subst hj
      exact .inr fun hok => h (.inr ⟨hnames, .inr hok⟩)
    · exact .inl hj
  cases call with
  | activeSessionCount => rfl
  -- a listing touches every session
  | listSessions limit => exact absurd (.inl rfl) h
  | cleanupExpired => rfl
  | noteTableCreated j => exact lookup_withEntry_ne _ (hother j rfl rfl)
  | noteRowsIngested j rows => exact lookup_withEntry_ne _ (hother j rfl rfl)
  | noteTableDropped j rows => exact lookup_withEntry_ne _ (hother j rfl rfl)
  | ensureSession j => exact lookup_withEntry_ne _ (hother j rfl rfl)
  | sessionInfo j =>
      rcases hrefused j rfl with hne | herror
      · exact lookup_touchExisting_ne _ _ hne
      · obtain ⟨err, herr⟩ := result_of_map_error herror
        exact lookup_touchExisting_error herr id
  | sessionSnapshot j =>
      rcases hrefused j rfl with hne | herror
      · exact lookup_touchExisting_ne _ _ hne
      · obtain ⟨err, herr⟩ := result_of_map_error herror
        exact lookup_touchExisting_error herr id
  | existingSessionDbPath j =>
      rcases hrefused j rfl with hne | herror
      · exact lookup_touchExisting_ne _ _ hne
      · obtain ⟨err, herr⟩ := result_of_map_error herror
        exact lookup_touchExisting_error herr id
  | reserveIngestCapacity j rows mode =>
      exact lookup_reserveIngestCapacity ((hrefused j rfl).imp_right result_of_map_error)
  | releaseSession j =>
      rcases hrefused j rfl with hne | herror
      · exact lookup_releaseSessionLocked_ne hne
      · obtain ⟨err, herr⟩ := result_of_map_error herror
        -- a release has no error of its own
        unfold releaseSessionLocked at herr
        cases hlookup : (prunedSessions config clock m).lookup j with
        | some entry => rw [hlookup] at herr; cases herr
        | none => rw [hlookup] at herr; cases herr
  | rollbackIngestCapacity j rows mode =>
      rcases hrefused j rfl with hne | herror
      · exact lookup_rollbackIngestCapacity_ne hne
      · obtain ⟨err, herr⟩ := result_of_map_error herror
        unfold rollbackIngestCapacity at herr
        dsimp only at herr
        cases hlookup : (prunedSessions config clock m).lookup j with
        | some entry => rw [hlookup] at herr; cases herr
        | none => rw [hlookup] at herr; cases herr

end Entries

/-! ## A session that no step attends to -/

section Idle

variable (config : ScratchpadSessionConfig) {n : Nat} {ρ : Type}

/-- The step does not attend to the session `id` under the lock. -/
def Unattended (id : Text) (s : Sys n ρ) (label : Label n ρ) : Prop :=
  ∀ x ∈ s.lockedCall config label, ¬ x.2.Attends config x.1 s.manager id

/-- The step does not prune the entry: it is no locked step, or the time of the entry is not
    over. -/
def InTtl (entry : SessionEntry) (s : Sys n ρ) (label : Label n ρ) : Prop :=
  ∀ x ∈ s.lockedCall config label, isExpired config.sessionTtl x.1.prune entry = false

instance (entry : SessionEntry) (s : Sys n ρ) (label : Label n ρ) :
    Decidable (InTtl config entry s label) :=
  inferInstanceAs (Decidable (∀ x ∈ s.lockedCall config label, _))

variable {config}

/-- What a locked step leaves of a session that it does not attend to. -/
theorem lookup_of_unattended {s : Sys n ρ} {label : Label n ρ} {id : Text}
    {clock : Clock} {call : LockedCall} (hun : Unattended config id s label)
    (hcall : s.lockedCall config label = some (clock, call)) :
    (call.exec config clock s.manager).manager.sessions.lookup id =
      (s.manager.sessions.lookup id).filter fun entry =>
        !isExpired config.sessionTtl clock.prune entry := by
  rw [lookup_exec_of_not_attends (hun _ hcall), lookup_prunedSessions]

variable [DecidableEq ρ] {s s' : Sys n ρ} {label : Label n ρ} {id : Text} {entry : SessionEntry}

/-- The sessions change with the locked step of a label, and only with it. -/
theorem sessions_of_step (h : (system config n).step s label = some s') :
    (∃ clock call, s.lockedCall config label = some (clock, call) ∧
      s'.manager.sessions = (call.exec config clock s.manager).manager.sessions) ∨
    (s.lockedCall config label = none ∧ s'.manager.sessions = s.manager.sessions) := by
  change step config s label = some s' at h
  cases label with
  | setMaxSessions limit =>
      simp only [step, setMaxSessionsLimit, Option.some.injEq] at h
      split at h
      all_goals exact .inr ⟨rfl, by rw [← h]; rfl⟩
  | setMaxTables limit =>
      simp only [step, setMaxTablesPerSessionLimit, Option.some.injEq] at h
      split at h
      all_goals exact .inr ⟨rfl, by rw [← h]; rfl⟩
  | start c op clock =>
      simp only [step] at h
      split at h
      · split at h
        · next plan hplan =>
            cases h
            exact .inl ⟨clock, plan.call, by simp [Sys.lockedCall, hplan], rfl⟩
        · next err hplan =>
            cases h
            exact .inr ⟨by simp [Sys.lockedCall, hplan], rfl⟩
      · cases h
  | remove c =>
      simp only [step] at h
      split at h
      · cases h
        exact .inr ⟨rfl, rfl⟩
      · cases h
  | engine c answer =>
      simp only [step] at h
      split at h
      · obtain ⟨x, -, rfl⟩ := Option.map_eq_some_iff.mp h
        exact .inr ⟨rfl, rfl⟩
      · cases h
  | finish c clock =>
      simp only [step] at h
      split at h
      · obtain ⟨call, htodo, rfl⟩ := Option.map_eq_some_iff.mp h
        exact .inl ⟨clock, call, by simp [Sys.lockedCall, htodo], rfl⟩
      · cases h

theorem absent_run {labels : List (Label n ρ)} (hnone : s.manager.sessions.lookup id = none)
    (hun : (system config n).GuardedFrom (Unattended config id) s labels)
    (hrun : (system config n).runFrom s labels = some s') :
    s'.manager.sessions.lookup id = none := by
  induction labels generalizing s with
  | nil =>
      cases hrun
      exact hnone
  | cons label labels ih =>
      obtain ⟨next, hstep, hrest⟩ := Option.bind_eq_some_iff.mp hrun
      have hmore := hun.2
      rw [hstep] at hmore
      refine ih ?_ hmore hrest
      rcases sessions_of_step hstep with ⟨clock, call, hcall, hsessions⟩ | ⟨-, hsessions⟩
      · rw [hsessions, lookup_of_unattended hun.1 hcall, hnone]
        rfl
      · rw [hsessions, hnone]

/-- **A session that nobody attends to** stays as it is until its time is over, and goes with
    the first locked step after that. -/
theorem idle_session {labels : List (Label n ρ)}
    (hentry : s.manager.sessions.lookup id = some entry)
    (hun : (system config n).GuardedFrom (Unattended config id) s labels)
    (hrun : (system config n).runFrom s labels = some s') :
    ((system config n).GuardedFrom (InTtl config entry) s labels →
      s'.manager.sessions.lookup id = some entry) ∧
    (¬ (system config n).GuardedFrom (InTtl config entry) s labels →
      s'.manager.sessions.lookup id = none) := by
  induction labels generalizing s with
  | nil =>
      cases hrun
      exact ⟨fun _ => hentry, fun hover => absurd trivial hover⟩
  | cons label labels ih =>
      obtain ⟨next, hstep, hrest⟩ := Option.bind_eq_some_iff.mp hrun
      have hmore := hun.2
      rw [hstep] at hmore
      simp only [Machine.GuardedFrom, hstep]
      rcases sessions_of_step hstep with ⟨clock, call, hcall, hsessions⟩ | ⟨hcall, hsessions⟩
      · have hnext : next.manager.sessions.lookup id =
            (some entry).filter fun entry => !isExpired config.sessionTtl clock.prune entry := by
          rw [hsessions, lookup_of_unattended hun.1 hcall, hentry]
        have hfirst : InTtl config entry s label ↔
            isExpired config.sessionTtl clock.prune entry = false := by
          simp [InTtl, hcall]
        rw [hfirst]
        cases hexpired : isExpired config.sessionTtl clock.prune entry with
        | false =>
            have hstays : next.manager.sessions.lookup id = some entry := by
              simp [hnext, Option.filter, hexpired]
            simpa using ih hstays hmore hrest
        | true =>
            have hgone : next.manager.sessions.lookup id = none := by
              simp [hnext, Option.filter, hexpired]
            simpa using absent_run hgone hmore hrest
      · have hfirst : InTtl config entry s label := by simp [InTtl, hcall]
        simpa [hfirst] using ih (hsessions ▸ hentry) hmore hrest

end Idle

/-- One session, touched when the clock began, and nothing in flight. -/
def oneSession : Sys 1 Unit where
  manager := ⟨64, 32, AList.singleton (text "a") ⟨text "session-a.duckdb", 0, 1, 0⟩⟩
  disk := .empty
  incarnation _ := 1
  clients _ := .idle

/-- Two counts of the sessions, of which the second comes when the time is over. -/
def countedTwice : List (Label 1 Unit) :=
  [.start 0 .activeSessionCount (.at (899 * 1000000000)),
    .start 0 .activeSessionCount (.at (900 * 1000000000))]

theorem oneSession_expires :
    ∃ s, (system defaultConfig 1).runFrom oneSession countedTwice = some s ∧
      s.manager.sessions.lookup (text "a") = none := by
  have hun : (system defaultConfig 1).GuardedFrom (Unattended defaultConfig (text "a")) oneSession
      countedTwice :=
    Machine.guardedFrom_of_forall _ (by
      simp [countedTwice, Unattended, Sys.lockedCall, Op.plan, Plan.single, LockedCall.Attends,
        LockedCall.listsSessions, LockedCall.session?])
  have hover : ¬ (system defaultConfig 1).GuardedFrom
      (InTtl defaultConfig ⟨text "session-a.duckdb", 0, 1, 0⟩) oneSession countedTwice := by
    decide
  obtain ⟨s, hrun⟩ := Option.isSome_iff_exists.mp
    (by decide : ((system defaultConfig 1).runFrom oneSession countedTwice).isSome)
  exact ⟨s, hrun, (idle_session rfl hun hrun).2 hover⟩

/-! ## Sessions that are listed all the time -/

section Touched

variable {config : ScratchpadSessionConfig} {clock : Clock} {m : Manager} {α : Type}

/-- The entries after a step are older ones, or were made or touched by it. -/
def Outcome.Touched (config : ScratchpadSessionConfig) (clock : Clock) (m : Manager)
    (o : Outcome α) : Prop :=
  ∀ id entry, o.manager.sessions.lookup id = some entry →
    (∃ before, (prunedSessions config clock m).lookup id = some before ∧
      entry.lastTouched = before.lastTouched) ∨
    entry.lastTouched = clock.enter ∨ entry.lastTouched = clock.touch

theorem touched_pruned {o : Outcome α}
    (h : o.manager.sessions = prunedSessions config clock m) : o.Touched config clock m := by
  intro id entry hlookup
  exact .inl ⟨entry, h ▸ hlookup, rfl⟩

theorem touched_insert {o : Outcome α} {id : Text} {new : SessionEntry}
    (h : o.manager.sessions = (prunedSessions config clock m).insert id new)
    (hnew : new.lastTouched = clock.enter ∨ new.lastTouched = clock.touch) :
    o.Touched config clock m := by
  intro j entry hlookup
  rw [h] at hlookup
  by_cases hj : j = id
  · subst hj
    rw [AList.lookup_insert] at hlookup
    cases hlookup
    exact .inr hnew
  · rw [AList.lookup_insert_ne hj] at hlookup
    exact .inl ⟨entry, hlookup, rfl⟩

theorem touched_withEntry {id : Text}
    {update : SessionEntry → Except AnalyticsError (SessionEntry × α)}
    (hupdate : ∀ e x, update e = .ok x → x.1.lastTouched = clock.touch) :
    (withEntry config clock m id update).Touched config clock m := by
  unfold withEntry
  rcases sessionEntryMut_cases config clock m id (prunedSessions config clock m) with
    ⟨entry, -, h⟩ | ⟨-, -, err, h⟩ | ⟨-, -, h⟩
  · rw [h]
    dsimp only
    cases hu : update entry with
    | error err => exact touched_pruned rfl
    | ok x => exact touched_insert rfl (.inr (hupdate entry x hu))
  · rw [h]
    exact touched_pruned rfl
  · rw [h]
    dsimp only
    cases hu : update ⟨config.sessionDbPath id, clock.enter, 0, 0⟩ with
    | error err => exact touched_insert rfl (.inl rfl)
    | ok x =>
        have hinsert : ((prunedSessions config clock m).insert id
            ⟨config.sessionDbPath id, clock.enter, 0, 0⟩).insert id x.1 =
              (prunedSessions config clock m).insert id x.1 := AList.insert_insert ..
        exact touched_insert hinsert (.inr (hupdate _ x hu))

theorem touched_touchExisting {id : Text} (answer : SessionEntry → α)
    (missing : Except AnalyticsError α) :
    (touchExisting config clock m id answer missing).Touched config clock m := by
  unfold touchExisting
  cases (prunedSessions config clock m).lookup id with
  | some entry => exact touched_insert rfl (.inr rfl)
  | none => exact touched_pruned rfl

theorem touched_releaseSessionLocked (id : Text) :
    (releaseSessionLocked config clock m id).Touched config clock m := by
  intro j entry hlookup
  by_cases hj : j = id
  · subst hj
    unfold releaseSessionLocked at hlookup
    cases hthere : (prunedSessions config clock m).lookup j with
    | some before =>
        rw [hthere] at hlookup
        simp [AList.lookup_erase] at hlookup
    | none =>
        rw [hthere] at hlookup
        dsimp only at hlookup
        rw [hthere] at hlookup
        cases hlookup
  · rw [lookup_releaseSessionLocked_ne hj] at hlookup
    exact .inl ⟨entry, hlookup, rfl⟩

theorem touched_reserveIngestCapacity (id : Text) (rows : Nat) (mode : ScratchpadIngestMode) :
    (reserveIngestCapacity config clock m id rows mode).Touched config clock m := by
  unfold reserveIngestCapacity
  dsimp only
  cases (prunedSessions config clock m).lookup id with
  | none => exact touched_pruned rfl
  | some entry =>
      dsimp only
      split
      · exact touched_pruned rfl
      · split
        · exact touched_pruned rfl
        · exact touched_insert rfl (.inr rfl)

theorem touched_rollbackIngestCapacity (id : Text) (rows : Nat) (mode : ScratchpadIngestMode) :
    (rollbackIngestCapacity config clock m id rows mode).Touched config clock m := by
  unfold rollbackIngestCapacity
  dsimp only
  cases (prunedSessions config clock m).lookup id with
  | none => exact touched_pruned rfl
  | some entry => exact touched_insert rfl (.inr rfl)

theorem lookup_listSessionsLocked (limit : Nat) {id : Text} {entry : SessionEntry}
    (h : (listSessionsLocked config clock m limit).manager.sessions.lookup id = some entry) :
    entry.lastTouched = clock.touch := by
  change (touchAll clock (prunedSessions config clock m)).lookup id = some entry at h
  rw [lookup_touchAll] at h
  obtain ⟨before, -, rfl⟩ := Option.map_eq_some_iff.mp h
  rfl

theorem touched_exec (call : LockedCall) : (call.exec config clock m).Touched config clock m := by
  cases call with
  | activeSessionCount => exact touched_pruned rfl
  | cleanupExpired => exact touched_pruned rfl
  | sessionInfo id => exact touched_touchExisting _ _
  | sessionSnapshot id => exact touched_touchExisting _ _
  | existingSessionDbPath id => exact touched_touchExisting _ _
  | listSessions limit =>
      intro id entry hlookup
      exact .inr (.inr (lookup_listSessionsLocked limit hlookup))
  | noteTableCreated id =>
      refine touched_withEntry fun e x h => ?_
      split at h
      · cases h
      · cases h
        rfl
  | noteRowsIngested id rows =>
      refine touched_withEntry fun e x h => ?_
      dsimp only at h
      split at h
      · cases h
      · cases h
        rfl
  | noteTableDropped id rows =>
      refine touched_withEntry fun e x h => ?_
      cases h
      rfl
  | ensureSession id =>
      refine touched_withEntry fun e x h => ?_
      cases h
      rfl
  | releaseSession id => exact touched_releaseSessionLocked id
  | reserveIngestCapacity id rows mode => exact touched_reserveIngestCapacity id rows mode
  | rollbackIngestCapacity id rows mode => exact touched_rollbackIngestCapacity id rows mode

theorem runtimeMaxSessions_withEntry (id : Text)
    (update : SessionEntry → Except AnalyticsError (SessionEntry × α)) :
    (withEntry config clock m id update).manager.runtimeMaxSessions = m.runtimeMaxSessions := by
  unfold withEntry
  split
  · rfl
  · split
    all_goals rfl

theorem runtimeMaxSessions_touchExisting (id : Text) (answer : SessionEntry → α)
    (missing : Except AnalyticsError α) :
    (touchExisting config clock m id answer missing).manager.runtimeMaxSessions =
      m.runtimeMaxSessions := by
  unfold touchExisting
  split
  all_goals rfl

theorem runtimeMaxSessions_exec (call : LockedCall) :
    (call.exec config clock m).manager.runtimeMaxSessions = m.runtimeMaxSessions := by
  cases call with
  | activeSessionCount => rfl
  | listSessions limit => rfl
  | cleanupExpired => rfl
  | sessionInfo id => exact runtimeMaxSessions_touchExisting id _ _
  | sessionSnapshot id => exact runtimeMaxSessions_touchExisting id _ _
  | existingSessionDbPath id => exact runtimeMaxSessions_touchExisting id _ _
  | noteTableCreated id => exact runtimeMaxSessions_withEntry id _
  | noteRowsIngested id rows => exact runtimeMaxSessions_withEntry id _
  | noteTableDropped id rows => exact runtimeMaxSessions_withEntry id _
  | ensureSession id => exact runtimeMaxSessions_withEntry id _
  | releaseSession id =>
      change (releaseSessionLocked config clock m id).manager.runtimeMaxSessions = _
      unfold releaseSessionLocked
      split
      all_goals rfl
  | reserveIngestCapacity id rows mode =>
      change (reserveIngestCapacity config clock m id rows mode).manager.runtimeMaxSessions = _
      unfold reserveIngestCapacity
      dsimp only
      repeat' split
      all_goals rfl
  | rollbackIngestCapacity id rows mode =>
      change (rollbackIngestCapacity config clock m id rows mode).manager.runtimeMaxSessions = _
      unfold rollbackIngestCapacity
      dsimp only
      split
      all_goals rfl

/-- Nothing is pruned where every entry has been touched late enough. -/
theorem prunedSessions_eq_self
    (h : ∀ id entry, m.sessions.lookup id = some entry →
      isExpired config.sessionTtl clock.prune entry = false) :
    prunedSessions config clock m = m.sessions := by
  have hnone : expiredIds config.sessionTtl clock.prune m.sessions = [] := by
    rw [List.eq_nil_iff_forall_not_mem]
    intro id hid
    obtain ⟨entry, hlookup, hexpired⟩ := mem_expiredIds.mp hid
    rw [h id entry hlookup] at hexpired
    cases hexpired
  rw [prunedSessions, pruneExpiredLocked, hnone, removeAll]

end Touched

/-! ## The machine with the time of the last list -/

/-- The system with what is known of the clock. -/
structure Polled (n : Nat) (ρ : Type) where
  sys : Sys n ρ
  /-- The last reading of the clock. -/
  now : Nat
  /-- When `list_sessions` last touched the entries, or when the server began. -/
  listed : Nat

section Polled

variable (config : ScratchpadSessionConfig) {n : Nat} {ρ : Type}

/-- What a step makes of that. -/
def Polled.after (s : Polled n ρ) (label : Label n ρ) (sys : Sys n ρ) : Polled n ρ :=
  match s.sys.lockedCall config label with
  | some (clock, call) => ⟨sys, clock.touch, if call.listsSessions then clock.touch else s.listed⟩
  | none => ⟨sys, s.now, s.listed⟩

/-- The system with that, as a machine. -/
def polled [DecidableEq ρ] (n : Nat) (began : Nat) : Machine (Polled n ρ) (Label n ρ) :=
  ⟨⟨Sys.start config, began, began⟩,
    fun s label => (step config s.sys label).map (s.after config label)⟩

/-- The clock does not go back, and no locked step comes `session_ttl` or longer after the last
    list. -/
def OnTime (s : Polled n ρ) (label : Label n ρ) : Prop :=
  ∀ x ∈ s.sys.lockedCall config label,
    (s.now ≤ x.1.prune ∧ x.1.prune ≤ x.1.enter ∧ x.1.enter ≤ x.1.touch) ∧
      x.1.prune < s.listed + config.sessionTtl

instance (s : Polled n ρ) (label : Label n ρ) : Decidable (OnTime config s label) :=
  inferInstanceAs (Decidable (∀ x ∈ s.sys.lockedCall config label, _))

/-- The step does not release the session. -/
def Keeps (id : Text) (s : Polled n ρ) (label : Label n ρ) : Prop :=
  ∀ x ∈ s.sys.lockedCall config label, x.2 ≠ .releaseSession id

/-- Nobody releases a session or raises the limit of sessions. -/
def Shut (s : Polled n ρ) (label : Label n ρ) : Prop :=
  (∀ id, Keeps config id s label) ∧
    ∀ limit, label = .setMaxSessions limit → limit ≤ s.sys.manager.runtimeMaxSessions

/-- Every entry has been touched since the last list. -/
structure Fresh (s : Polled n ρ) : Prop where
  placed : WellPlaced config s.sys.manager
  past : s.listed ≤ s.now
  touched : ∀ id entry, s.sys.manager.sessions.lookup id = some entry →
    s.listed ≤ entry.lastTouched

/-- There is no room for another session. -/
def Full (s : Polled n ρ) : Prop :=
  s.sys.manager.runtimeMaxSessions ≤ s.sys.manager.sessions.keys.length

instance (s : Polled n ρ) : Decidable (Full s) := inferInstanceAs (Decidable (_ ≤ _))

variable {config} {s s' : Polled n ρ} {label : Label n ρ} {clock : Clock} {call : LockedCall}

theorem Fresh.unpruned (hs : Fresh config s) (htime : OnTime config s label)
    (hcall : s.sys.lockedCall config label = some (clock, call)) :
    prunedSessions config clock s.sys.manager = s.sys.manager.sessions := by
  refine prunedSessions_eq_self fun id entry hlookup => ?_
  have hlate := hs.touched id entry hlookup
  have hpast := hs.past
  obtain ⟨⟨hprune, -⟩, hsoon⟩ := htime _ hcall
  dsimp only at hprune hsoon
  simp only [isExpired, decide_eq_false_iff_not]
  omega

/-- The sessions after a locked step that prunes nothing. -/
theorem Fresh.keys (hs : Fresh config s) (htime : OnTime config s label)
    (hcall : s.sys.lockedCall config label = some (clock, call)) (id : Text) :
    (id ∈ s.sys.manager.sessions → call ≠ .releaseSession id →
      id ∈ (call.exec config clock s.sys.manager).manager.sessions) ∧
    (Full s → id ∈ (call.exec config clock s.sys.manager).manager.sessions →
      id ∈ s.sys.manager.sessions) := by
  have hpruned := hs.unpruned htime hcall
  have heffect := (exec_hasEffect clock call hs.placed).1
  generalize (call.exec config clock s.sys.manager).manager = m at heffect ⊢
  generalize (call.exec config clock s.sys.manager).cleanup = cleanup at heffect
  cases heffect with
  | lost _ after => rw [after, hpruned]; exact ⟨fun h _ => h, fun _ h => h⟩
  | kept after => rw [after, hpruned]; exact ⟨fun h _ => h, fun _ h => h⟩
  | opened j opens after =>
      rw [after, hpruned]
      refine ⟨fun h _ => .inr h, fun hfull h => h.resolve_left fun hj => ?_⟩
      have hroom := opens.2.2
      rw [hpruned] at hroom
      exact absurd hfull (not_le.mpr hroom)
  | closed j release was after =>
      rw [after, hpruned]
      refine ⟨fun h hkeep => ⟨?_, h⟩, fun _ h => h.2⟩
      rintro rfl
      exact hkeep release

theorem after_locked (hcall : s.sys.lockedCall config label = some (clock, call))
    (sys : Sys n ρ) : s.after config label sys =
      ⟨sys, clock.touch, if call.listsSessions then clock.touch else s.listed⟩ := by
  rw [Polled.after, hcall]

theorem after_unlocked (hcall : s.sys.lockedCall config label = none) (sys : Sys n ρ) :
    s.after config label sys = ⟨sys, s.now, s.listed⟩ := by
  rw [Polled.after, hcall]

theorem fresh_locked (hs : Fresh config s) (htime : OnTime config s label)
    (hcall : s.sys.lockedCall config label = some (clock, call)) {sys : Sys n ρ}
    (hsessions : sys.manager.sessions = (call.exec config clock s.sys.manager).manager.sessions) :
    Fresh config (s.after config label sys) := by
  obtain ⟨⟨hprune, henter, htouch⟩, -⟩ := htime _ hcall
  have hpast := hs.past
  dsimp only at hprune henter htouch
  rw [after_locked hcall]
  refine ⟨fun id entry hlookup => ?_, ?_, fun id entry hlookup => ?_⟩
  · exact (exec_hasEffect clock call hs.placed).2 id entry (hsessions ▸ hlookup)
  · dsimp only
    split <;> omega
  · dsimp only at hlookup ⊢
    rw [hsessions] at hlookup
    by_cases hlist : call.listsSessions = true
    · rw [if_pos hlist]
      cases call with
      | listSessions limit => exact (lookup_listSessionsLocked limit hlookup).ge
      | _ => cases hlist
    · rw [if_neg hlist]
      rcases touched_exec call id entry hlookup with ⟨before, hbefore, hsame⟩ | hmade | htouched
      · rw [hs.unpruned htime hcall] at hbefore
        rw [hsame]
        exact hs.touched id before hbefore
      · omega
      · omega

variable [DecidableEq ρ] {began : Nat}

theorem fresh_step (hs : Fresh config s) (htime : OnTime config s label)
    (hstep : (polled config n began).step s label = some s') : Fresh config s' := by
  obtain ⟨sys, hsys, rfl⟩ := Option.map_eq_some_iff.mp hstep
  rcases sessions_of_step hsys with ⟨clock, call, hcall, hsessions⟩ | ⟨hcall, hsessions⟩
  · exact fresh_locked hs htime hcall hsessions
  · rw [after_unlocked hcall]
    refine ⟨fun id entry hlookup => ?_, hs.past, fun id entry hlookup => ?_⟩
    · exact hs.placed id entry (hsessions ▸ hlookup)
    · exact hs.touched id entry (hsessions ▸ hlookup)

theorem fresh_of_reachable (h : (polled config n began).Reachable (OnTime config) s) :
    Fresh config s := by
  refine h.inv ⟨fun id entry hlookup => ?_, le_rfl, fun id entry hlookup => ?_⟩
    fun _ _ _ hs htime hstep => fresh_step hs htime hstep
  all_goals simp [polled, Sys.start, Manager.new] at hlookup

theorem stays_of_step (hs : Fresh config s) (htime : OnTime config s label) {id : Text}
    (hkeep : Keeps config id s label) (hid : id ∈ s.sys.manager.sessions)
    (hstep : (polled config n began).step s label = some s') : id ∈ s'.sys.manager.sessions := by
  obtain ⟨sys, hsys, rfl⟩ := Option.map_eq_some_iff.mp hstep
  rcases sessions_of_step hsys with ⟨clock, call, hcall, hsessions⟩ | ⟨hcall, hsessions⟩
  · rw [after_locked hcall, hsessions]
    exact ((hs.keys htime hcall id).1 hid) (hkeep _ hcall)
  · rw [after_unlocked hcall, hsessions]
    exact hid

/-- No step but `set_max_sessions_limit` changes the limit of sessions. -/
theorem limit_of_step {sys sys' : Sys n ρ} (h : (system config n).step sys label = some sys') :
    sys'.manager.runtimeMaxSessions = sys.manager.runtimeMaxSessions ∨
      label = .setMaxSessions sys'.manager.runtimeMaxSessions := by
  cases stepped_of_step config h with
  | limits same is =>
      rcases is with rfl | rfl
      · exact .inr rfl
      · change step config sys (.setMaxTables _) = _ at h
        simp only [step, setMaxTablesPerSessionLimit, Option.some.injEq] at h
        split at h
        all_goals exact .inl (by rw [← h]; rfl)
  | limitRefused => exact .inl rfl
  | refused => exact .inl rfl
  | started c op clock plan => exact .inl (runtimeMaxSessions_exec plan.call)
  | removed => exact .inl rfl
  | worked => exact .inl rfl
  | finished c clock call => exact .inl (runtimeMaxSessions_exec call)

theorem full_step (hs : Fresh config s) (hfull : Full s) (htime : OnTime config s label)
    (hshut : Shut config s label) (hstep : (polled config n began).step s label = some s') :
    Full s' ∧ ∀ id ∈ s'.sys.manager.sessions, id ∈ s.sys.manager.sessions := by
  have hstays : ∀ id ∈ s.sys.manager.sessions, id ∈ s'.sys.manager.sessions := fun id hid =>
    stays_of_step hs htime (hshut.1 id) hid hstep
  obtain ⟨sys, hsys, rfl⟩ := Option.map_eq_some_iff.mp hstep
  have hsame : (s.after config label sys).sys = sys := by
    unfold Polled.after
    split
    all_goals rfl
  rw [hsame] at hstays ⊢
  refine ⟨?_, fun id hid => ?_⟩
  · have hmore := length_keys_le [] fun id hid => .inr (hstays id hid)
    have hlimit : sys.manager.runtimeMaxSessions ≤ s.sys.manager.runtimeMaxSessions := by
      rcases limit_of_step hsys with hkept | hset
      · exact hkept.le
      · exact hshut.2 _ hset
    unfold Full at hfull ⊢
    rw [hsame]
    simp only [List.length_nil] at hmore
    omega
  · rcases sessions_of_step hsys with ⟨clock, call, hcall, hsessions⟩ | ⟨hcall, hsessions⟩
    · exact (hs.keys htime hcall id).2 hfull (hsessions ▸ hid)
    · exact hsessions ▸ hid

theorem stays_of_run {labels : List (Label n ρ)} (hs : Fresh config s) {id : Text}
    (hid : id ∈ s.sys.manager.sessions)
    (htime : (polled config n began).GuardedFrom (OnTime config) s labels)
    (hkeep : (polled config n began).GuardedFrom (Keeps config id) s labels)
    (hrun : (polled config n began).runFrom s labels = some s') :
    id ∈ s'.sys.manager.sessions := by
  induction labels generalizing s with
  | nil =>
      cases hrun
      exact hid
  | cons label labels ih =>
      obtain ⟨next, hstep, hrest⟩ := Option.bind_eq_some_iff.mp hrun
      have htimes := htime.2
      have hkeeps := hkeep.2
      rw [hstep] at htimes hkeeps
      exact ih (fresh_step hs htime.1 hstep) (stays_of_step hs htime.1 hkeep.1 hid hstep) htimes
        hkeeps hrest

theorem shut_run {labels : List (Label n ρ)} (hs : Fresh config s) (hfull : Full s)
    (htime : (polled config n began).GuardedFrom (OnTime config) s labels)
    (hshut : (polled config n began).GuardedFrom (Shut config) s labels)
    (hrun : (polled config n began).runFrom s labels = some s') :
    ∀ id ∈ s'.sys.manager.sessions, id ∈ s.sys.manager.sessions := by
  induction labels generalizing s with
  | nil =>
      cases hrun
      exact fun id hid => hid
  | cons label labels ih =>
      obtain ⟨next, hstep, hrest⟩ := Option.bind_eq_some_iff.mp hrun
      have htimes := htime.2
      have hshuts := hshut.2
      rw [hstep] at htimes hshuts
      obtain ⟨hfull', hno⟩ := full_step hs hfull htime.1 hshut.1 hstep
      exact fun id hid =>
        hno id (ih (fresh_step hs htime.1 hstep) hfull' htimes hshuts hrest id hid)

/-- **Sessions that are listed all the time do not expire**: each stays until it is released,
    and while a full manager releases none, it lets nobody new in. -/
theorem polled_sessions_stay {labels : List (Label n ρ)}
    (h : (polled config n began).Reachable (OnTime config) s)
    (htime : (polled config n began).GuardedFrom (OnTime config) s labels)
    (hrun : (polled config n began).runFrom s labels = some s') :
    (∀ id ∈ s.sys.manager.sessions,
      (polled config n began).GuardedFrom (Keeps config id) s labels →
        id ∈ s'.sys.manager.sessions) ∧
    (Full s → (polled config n began).GuardedFrom (Shut config) s labels →
      ∀ id ∈ s'.sys.manager.sessions, id ∈ s.sys.manager.sessions) := by
  have hs := fresh_of_reachable h
  exact ⟨fun id hid hkeep => stays_of_run hs hid htime hkeep hrun,
    fun hfull hshut => shut_run hs hfull htime hshut hrun⟩

end Polled

/-- Room for one session. -/
def oneRoom : ScratchpadSessionConfig := { defaultConfig with maxSessions := 1 }

/-- A run that opens the session `a`. -/
def openA : List (Label 1 Unit) := [.start 0 (.noteTableCreated (text "a")) (.at 0)]

/-- A list every 600 seconds, and another session that is asked for when the first has been
    idle for 1500. -/
def listsAndB : List (Label 1 Unit) :=
  [.start 0 (.listSessions 1) (.at (600 * 1000000000)),
    .start 0 (.listSessions 1) (.at (1200 * 1000000000)),
    .start 0 (.noteTableCreated (text "b")) (.at (1500 * 1000000000))]

/-- The first session is there, and the manager is full. -/
def openedA : Polled 1 Unit :=
  ((polled oneRoom 1 0).runFrom (polled oneRoom 1 0).start openA).get (by decide)

theorem oneRoom_taken :
    ∃ s, (polled oneRoom 1 0).runFrom openedA listsAndB = some s ∧
      text "a" ∈ s.sys.manager.sessions ∧ text "b" ∉ s.sys.manager.sessions := by
  obtain ⟨s, hrun⟩ := Option.isSome_iff_exists.mp
    (by decide : ((polled oneRoom 1 0).runFrom openedA listsAndB).isSome)
  have hopened : (polled oneRoom 1 0).Reachable (OnTime oneRoom) openedA :=
    Machine.reachable_get (by decide) (by decide)
  have htime : (polled oneRoom 1 0).GuardedFrom (OnTime oneRoom) openedA listsAndB := by decide
  have hshut : ∀ label ∈ listsAndB, ∀ s : Polled 1 Unit, Shut oneRoom s label := by
    have hb : normalizeSessionId (text "b") = .ok (text "b") := by decide
    have hlimit : limitPositive 1 = .ok () := rfl
    simp [listsAndB, Shut, Keeps, Sys.lockedCall, Op.plan, Plan.single, hb, hlimit]
  obtain ⟨hstay, hnew⟩ := polled_sessions_stay hopened htime hrun
  refine ⟨s, hrun, hstay _ (by decide) ?_, fun hin => ?_⟩
  · exact Machine.guardedFrom_of_forall _ fun label hmem s => (hshut label hmem s).1 _
  · have hfull : Full openedA := by decide
    have hbefore := hnew hfull (Machine.guardedFrom_of_forall _ hshut) _ hin
    exact absurd hbefore (by decide)

end Ga4Mcp.Scratchpad
