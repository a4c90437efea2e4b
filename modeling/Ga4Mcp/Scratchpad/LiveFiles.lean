/-
  Removed files and live sessions.

  A path is collected under the lock and removed after it, and a reopened session stands
  at the same path again. So a file can be removed while its session is live
  (`not_liveFilesKept`). The danger is one kind of step: an entry made at a path that is
  still to be removed. `liveFilesKept_of_noReuse`: in a run without such steps (`NoReuse`) no
  file of a live session is ever removed.
-/
import Ga4Mcp.Scratchpad.System

namespace Ga4Mcp.Scratchpad

open Ga4Mcp.Lib

section LiveFiles

variable (config : ScratchpadSessionConfig) {n : Nat} {ρ : Type}

/-- A locked step reuses no path: it makes no entry at a path that some client has yet to
    remove or that it collects itself, and collects no path that another session shares
    which has not expired. -/
structure ReusesNoPath (s : Sys n ρ) (clock : Clock) (call : LockedCall) : Prop where
  opened : ∀ id ∈ call.enters, call.Opens config clock s.manager id →
    (∀ c, config.sessionDbPath id ∉ (s.clients c).pending) ∧
      ∀ j ∈ s.manager.sessions.keys, Expired config clock s.manager j →
        config.sessionDbPath j ≠ config.sessionDbPath id
  collected : ∀ id ∈ s.manager.sessions.keys,
    (Expired config clock s.manager id ∨ call = .releaseSession id) →
      ∀ j ∈ (prunedSessions config clock s.manager).keys, j ≠ id →
        config.sessionDbPath j ≠ config.sessionDbPath id

/-- The step reuses no path under the lock. -/
def NoReuse (s : Sys n ρ) (label : Label n ρ) : Prop :=
  ∀ x ∈ s.lockedCall config label, ReusesNoPath config s x.1 x.2

instance (s : Sys n ρ) (clock : Clock) (call : LockedCall) :
    Decidable (ReusesNoPath config s clock call) :=
  decidable_of_iff (_ ∧ _) ⟨fun h => ⟨h.1, h.2⟩, fun h => ⟨h.1, h.2⟩⟩

instance (s : Sys n ρ) (label : Label n ρ) : Decidable (NoReuse config s label) :=
  inferInstanceAs (Decidable (∀ x ∈ s.lockedCall config label, _))

/-- No path that is still to be removed belongs to a live session. -/
structure PendingApart (s : Sys n ρ) : Prop where
  placed : WellPlaced config s.manager
  apart : ∀ c, ∀ p ∈ (s.clients c).pending, ∀ id ∈ s.manager.sessions,
    config.sessionDbPath id ≠ p

variable {config}

/-- The paths of a locked step's cleanup are those of the sessions it takes out. -/
theorem collected_of_mem_removedPaths {clock : Clock} {m : Manager} (hm : WellPlaced config m)
    {p : Path} (hp : p ∈ removedPaths config clock m) :
    ∃ id, Expired config clock m id ∧ p = config.sessionDbPath id := by
  obtain ⟨id, entry, hlookup, hexp, rfl⟩ := mem_removedPaths.mp hp
  exact ⟨id, expired_iff.mpr ⟨entry, hlookup, hexp⟩, hm id entry hlookup⟩

/-- No session left by a locked step stands at a path of its cleanup. -/
theorem cleanup_apart {s : Sys n ρ} {clock : Clock} {call : LockedCall}
    (hs : PendingApart config s) (hsafe : ReusesNoPath config s clock call) :
    ∀ p ∈ (call.exec config clock s.manager).cleanup,
      ∀ id ∈ (call.exec config clock s.manager).manager.sessions, config.sessionDbPath id ≠ p := by
  -- a session that stays, against the path of an expired one
  have hpruned : ∀ p ∈ removedPaths config clock s.manager,
      ∀ id ∈ prunedSessions config clock s.manager, config.sessionDbPath id ≠ p := by
    intro p hp id hid
    obtain ⟨j, hj, rfl⟩ := collected_of_mem_removedPaths hs.placed hp
    refine hsafe.collected j (mem_of_expired hj) (.inl hj) id (AList.mem_keys.mp hid) ?_
    rintro rfl
    exact (mem_prunedSessions.mp hid).2 hj
  have heffect := (exec_hasEffect clock call hs.placed).1
  generalize (call.exec config clock s.manager).manager = m at heffect ⊢
  generalize (call.exec config clock s.manager).cleanup = cleanup at heffect ⊢
  intro p hp id hid
  cases heffect with
  | lost => simp at hp
  | kept after => exact hpruned p hp id ((after id).mp hid)
  | opened j hopens after =>
      rcases (after id).mp hid with rfl | hid
      · obtain ⟨k, hk, rfl⟩ := collected_of_mem_removedPaths hs.placed hp
        exact ((hsafe.opened id hopens.1 hopens).2 k (mem_of_expired hk) hk).symm
      · exact hpruned p hp id hid
  | closed j release was after =>
      obtain ⟨hne, hid⟩ := (after id).mp hid
      rcases List.mem_append.mp hp with hp | hp
      · exact hpruned p hp id hid
      · rw [List.mem_singleton.mp hp]
        exact hsafe.collected j (AList.mem_keys.mp (mem_prunedSessions.mp was).1) (.inr release)
          id (AList.mem_keys.mp hid) hne

/-- Nor at a path that another client has yet to remove. -/
theorem pending_apart {s : Sys n ρ} {clock : Clock} {call : LockedCall}
    (hs : PendingApart config s) (hsafe : ReusesNoPath config s clock call) (c : Fin n) :
    ∀ p ∈ (s.clients c).pending,
      ∀ id ∈ (call.exec config clock s.manager).manager.sessions, config.sessionDbPath id ≠ p := by
  have hpruned : ∀ p ∈ (s.clients c).pending,
      ∀ id ∈ prunedSessions config clock s.manager, config.sessionDbPath id ≠ p :=
    fun p hp id hid => hs.apart c p hp id (mem_prunedSessions.mp hid).1
  have heffect := (exec_hasEffect clock call hs.placed).1
  generalize (call.exec config clock s.manager).manager = m at heffect ⊢
  generalize (call.exec config clock s.manager).cleanup = cleanup at heffect
  intro p hp id hid
  cases heffect with
  | lost _ after => exact hpruned p hp id ((after id).mp hid)
  | kept after => exact hpruned p hp id ((after id).mp hid)
  | opened j hopens after =>
      rcases (after id).mp hid with rfl | hid
      · rintro rfl
        exact (hsafe.opened id hopens.1 hopens).1 c hp
      · exact hpruned p hp id hid
  | closed j release was after => exact hpruned p hp id ((after id).mp hid).2

theorem pendingApart_locked {s : Sys n ρ} {clock : Clock} {c : Fin n} {plan : Plan ρ}
    (hs : PendingApart config s) (hsafe : ReusesNoPath config s clock plan.call) :
    PendingApart config (s.locked config clock c plan) := by
  refine ⟨(exec_hasEffect clock plan.call hs.placed).2, fun d p hp => ?_⟩
  by_cases hd : d = c
  · subst hd
    rw [locked_clients_self] at hp
    exact cleanup_apart hs hsafe p hp
  · rw [locked_clients_ne hd] at hp
    exact pending_apart hs hsafe d p hp

/-- Every step that reuses no path keeps the pending paths apart from the live sessions. -/
theorem pendingApart_step [DecidableEq ρ] {s s' : Sys n ρ} {label : Label n ρ}
    (hs : PendingApart config s) (hlabel : NoReuse config s label)
    (h : (system config n).step s label = some s') : PendingApart config s' := by
  cases stepped_of_step config h with
  | limits same =>
      refine ⟨fun id entry hid => hs.placed id entry (same ▸ hid), fun c p hp id hid => ?_⟩
      exact hs.apart c p hp id (same ▸ hid)
  | limitRefused => exact hs
  | refused => exact hs
  | started c op clock plan idle planned =>
      refine pendingApart_locked hs (hlabel (clock, plan.call) ?_)
      simp [Sys.lockedCall, planned]
  | removed c p rest pending =>
      refine ⟨hs.placed, fun d q hq => ?_⟩
      by_cases hd : d = c
      · subst hd
        rw [removed_clients_self] at hq
        exact hs.apart d q (pending ▸ List.mem_cons_of_mem p hq)
      · rw [removed_clients_ne hd] at hq
        exact hs.apart d q hq
  | worked c answer disk next pending =>
      refine ⟨hs.placed, fun d q hq => ?_⟩
      by_cases hd : d = c
      · subst hd
        simp at hq
      · rw [worked_clients_ne hd] at hq
        exact hs.apart d q hq
  | finished c clock call pending todo =>
      refine pendingApart_locked hs (hlabel (clock, call) ?_)
      simp [Sys.lockedCall, todo]

theorem pendingApart_start : PendingApart config (Sys.start config : Sys n ρ) := by
  refine ⟨fun id entry h => ?_, fun c p hp => ?_⟩
  · simp [Sys.start, Manager.new] at h
  · simp [Sys.start, Client.idle] at hp

/-- The file that a client removes next is not that of a live session. -/
def LiveFilesKept (s : Sys n ρ) : Prop :=
  ∀ c p rest, (s.clients c).pending = p :: rest →
    ∀ id entry, s.manager.sessions.lookup id = some entry → entry.dbPath ≠ p

/-- **No file of a live session is removed** in a run in which no path is reused. -/
theorem liveFilesKept_of_noReuse [DecidableEq ρ] {s : Sys n ρ}
    (h : (system config n).Reachable (NoReuse config) s) : LiveFilesKept s := by
  have hs : PendingApart config s :=
    h.inv pendingApart_start fun _ _ _ hs hlabel hstep => pendingApart_step hs hlabel hstep
  intro c p rest hp id entry hid
  rw [hs.placed id entry hid]
  exact hs.apart c p (hp ▸ List.mem_cons_self) id (mem_of_lookup hid)

end LiveFiles

/-- One client opens a session and releases it; its file is about to be removed. -/
def openThenRelease : List (Label 2 Unit) :=
  [.start 0 (.openSession (text "s")) (.at 0),
    .engine 0 .fine, .finish 0 (.at 1),
    .start 0 (.releaseSession (text "s")) (.at 2)]

theorem liveFilesKept_openThenRelease :
    LiveFilesKept (((system defaultConfig 2).runFrom (Sys.start defaultConfig)
      openThenRelease).get (by decide +kernel)) :=
  liveFilesKept_of_noReuse (Machine.reachable_get (by decide +kernel) (by decide +kernel))

/-- Before the removal another client opens the session again. -/
def reopened : Sys 2 Unit :=
  ((system defaultConfig 2).runFrom (Sys.start defaultConfig)
    (openThenRelease ++ [.start 1 (.openSession (text "s")) (.at 3)])).get (by decide +kernel)

theorem not_liveFilesKept : ¬ ∀ s : Sys 2 Unit,
    (system defaultConfig 2).Reachable Machine.anyStep s → LiveFilesKept s := by
  intro h
  have hkept : LiveFilesKept reopened := h reopened (Machine.reachable_anyStep_get _)
  exact hkept 0 (text "session-s.duckdb") [] (by decide +kernel) (text "s")
    ⟨text "session-s.duckdb", 3, 0, 0⟩ (by decide +kernel) rfl

end Ga4Mcp.Scratchpad
