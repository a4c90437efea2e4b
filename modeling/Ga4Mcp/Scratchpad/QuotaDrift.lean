/-
  Quota accounting under concurrency.

  The counters are kept under the lock, the tables in the files. Between the two stands
  what each client has in flight: capacity reserved and not yet used, a table dropped and
  not yet noted (`Sys.charge`). The counters of a live session are the size of its
  database and all charges on it (`Exact.balance`), as long as

  * an ingest commits, and rolls back, in the incarnation it reserved in,
  * a `DROP TABLE` removes as many rows as were counted before it, in the file of a live
    session, and is noted in the incarnation it happened in,
  * every session has a path of its own, and no row counter overflows.

  `quotasExact_of_careful`: then the counters are exact whenever no method is in flight.
  `not_quotasExact`: and otherwise they need not be.
-/
import Ga4Mcp.Scratchpad.Counters
import Ga4Mcp.Scratchpad.System
import Mathlib.Algebra.BigOperators.Group.Finset.Basic
import Mathlib.Algebra.BigOperators.Fin

namespace Ga4Mcp.Scratchpad

open Ga4Mcp.Lib

/-! ## Sums over the clients -/

section Sums

variable {ι M : Type} [Fintype ι] [DecidableEq ι] [AddCommMonoid M] {f g : ι → M}

/-- Only the term of `c` changes. -/
theorem sum_move (c : ι) (h : ∀ d, d ≠ c → g d = f d) :
    (∑ d, g d) + f c = (∑ d, f d) + g c := by
  have hrest : ∑ d ∈ Finset.univ.erase c, g d = ∑ d ∈ Finset.univ.erase c, f d :=
    Finset.sum_congr rfl fun d hd => h d (Finset.ne_of_mem_erase hd)
  rw [← Finset.add_sum_erase _ g (Finset.mem_univ c),
    ← Finset.add_sum_erase _ f (Finset.mem_univ c), hrest]
  ac_rfl

end Sums

/-! ## Charges -/

section Quotas

variable (config : ScratchpadSessionConfig) {n : Nat} {ρ : Type}

/-- What an ingest is counted as: tables and rows. -/
def IngestJob.cost (job : IngestJob ρ) : Nat × Nat := ingestCost job.rows.length job.mode

/-- What a client has in flight on the counters of a session. -/
def Sys.charge (s : Sys n ρ) (id : Text) : Next ρ → Nat × Nat
  | .ingestPersist job _ | .ingestRollback job =>
      if job.sessionId = id ∧ job.incarnation = s.incarnation id then job.cost else 0
  | .dropNote job handle rowsRemoved =>
      if job.sessionId = id ∧ handle.file = s.disk.current handle.path then (1, rowsRemoved) else 0
  | _ => 0

/-- What a client has still to do is about the path of its session. -/
def Sys.Fits (s : Sys n ρ) : Next ρ → Prop
  | .ingestPersist job path =>
      path = config.sessionDbPath job.sessionId ∧ job.incarnation ≤ s.incarnation job.sessionId
  | .ingestRollback job => job.incarnation ≤ s.incarnation job.sessionId
  | .dropConnect job path => path = config.sessionDbPath job.sessionId
  | .dropExists job handle | .dropCount job handle | .dropStatement job handle _ =>
      handle.path = config.sessionDbPath job.sessionId ∧ handle.file ≤ s.disk.current handle.path
  | .dropNote job handle _ =>
      handle.path = config.sessionDbPath job.sessionId ∧
        handle.file ≤ s.disk.current handle.path ∧
        (handle.file = s.disk.current handle.path →
          job.sessionId ∈ s.manager.sessions ∨ ∃ c, handle.path ∈ (s.clients c).pending)
  | .queryConnect _ _ _ | .queryExecute _ _ _ => False
  | _ => True

/-- The counters of every live session are the size of its database and what is in flight. -/
structure Exact (s : Sys n ρ) : Prop where
  placed : WellPlaced config s.manager
  apart : ∀ id ∈ s.manager.sessions, ∀ j ∈ s.manager.sessions,
    config.sessionDbPath id = config.sessionDbPath j → id = j
  pendingApart : ∀ c, ∀ p ∈ (s.clients c).pending, ∀ id ∈ s.manager.sessions,
    config.sessionDbPath id ≠ p
  owned : ∀ p, s.disk.tables p ≠ [] →
    (∃ id ∈ s.manager.sessions, config.sessionDbPath id = p) ∨ ∃ c, p ∈ (s.clients c).pending
  fits : ∀ c, s.Fits config (s.clients c).next
  balance : ∀ id u, usedIn s.manager.sessions id = some u →
    u = Db.size (s.disk.tables (config.sessionDbPath id)) + ∑ c, s.charge id (s.clients c).next

/-! ## The runs -/

/-- The methods that the accounting is for: all but those that write to the counters alone
    and the one that runs any statement on the database. -/
def Op.Accounted : Op ρ → Prop
  | .noteTableCreated _ | .noteRowsIngested _ _ | .noteTableDropped _ _ | .runGuarded _ _ _ _ =>
      False
  | _ => True

/-- The step begins no other method. -/
def Label.Accounted : Label n ρ → Prop
  | .start _ op _ => op.Accounted
  | _ => True

/-- The step removes a file. -/
def Label.removes : Label n ρ → Bool
  | .remove _ => true
  | _ => false

/-- No session expires, and a session is released in a single step. -/
structure Orderly (s : Sys n ρ) (label : Label n ρ) : Prop where
  live : ∀ x ∈ s.lockedCall config label, LiveAt config x.1 s.manager
  accounted : label.Accounted
  single : label.removes ∨ ∀ c, (s.clients c).pending = []

/-- A fresh entry has a path of its own, and the row counter does not overflow. -/
structure LockedCareful (s : Sys n ρ) (clock : Clock) (call : LockedCall) : Prop where
  opened : ∀ id ∈ call.enters, call.Opens config clock s.manager id →
    ∀ j ∈ s.manager.sessions.keys, config.sessionDbPath j ≠ config.sessionDbPath id
  reserved : ∀ x ∈ call.reserves, ∀ u ∈ usedIn s.manager.sessions x.1, u.2 + x.2 ≤ usizeMax

/-- An ingest commits in the incarnation it reserved in; a `DROP TABLE` in the present file
    takes the rows that were counted, from a live session. -/
def WorkCareful (s : Sys n ρ) (answer : EngineAnswer ρ) : Next ρ → Prop
  | .ingestPersist job path =>
      (persistIngestTable answer (s.disk.tables path) path job).isOk → job.cost = 0 ∨
        job.sessionId ∈ s.manager.sessions ∧ job.incarnation = s.incarnation job.sessionId
  | .dropStatement job handle rowsRemoved =>
      (dropTableStatement answer (s.disk.read handle) job.tableName).isOk →
        handle.file = s.disk.current handle.path → job.sessionId ∈ s.manager.sessions ∧
          ((s.disk.read handle).find? (Table.isNamed job.tableName)).map
            (fun t => t.rows.length) = some rowsRemoved
  | _ => True

/-- Counters are lowered in the incarnation that was charged, or not at all. -/
def FinishCareful (s : Sys n ρ) : Next ρ → Prop
  | .ingestRollback job => ∀ u ∈ usedIn s.manager.sessions job.sessionId,
      job.incarnation = s.incarnation job.sessionId ∨ u - job.cost = u
  | .dropNote job handle rowsRemoved => ∀ u ∈ usedIn s.manager.sessions job.sessionId,
      handle.file = s.disk.current handle.path ∨ u - (1, rowsRemoved) = u
  | _ => True

/-- The step avoids each of the ways to drift. -/
def Careful (s : Sys n ρ) (label : Label n ρ) : Prop :=
  (∀ x ∈ s.lockedCall config label, LockedCareful config s x.1 x.2) ∧
    match label with
    | .engine c answer => WorkCareful s answer (s.clients c).next
    | .finish c _ => FinishCareful s (s.clients c).next
    | _ => True

/-- The counters of every live session say what is in its database file. -/
def QuotasExact (s : Sys n ρ) : Prop :=
  ∀ id entry, s.manager.sessions.lookup id = some entry →
    entry.tablesUsed = (s.disk.tables entry.dbPath).length ∧
      entry.rowsUsed = ((s.disk.tables entry.dbPath).map fun t => t.rows.length).sum

end Quotas

/-! ## Locked steps -/

section Locked

variable {config : ScratchpadSessionConfig} {n : Nat} {ρ : Type} {s : Sys n ρ} {clock : Clock}
  {c : Fin n} {plan : Plan ρ} {id : Text}

/-- The counters after a locked step are those of a fresh entry, or moved as the charge of
    the client moved. -/
def Lawful (config : ScratchpadSessionConfig) (s : Sys n ρ) (clock : Clock) (c : Fin n)
    (plan : Plan ρ) : Prop :=
  ∀ id u', usedIn (plan.call.exec config clock s.manager).manager.sessions id = some u' →
    (plan.call.Opens config clock s.manager id ∧ u' = 0 ∧
      (s.locked config clock c plan).charge id (s.nextAfter config clock plan) = 0) ∨
    (¬ plan.call.Opens config clock s.manager id ∧ ∃ u, usedIn s.manager.sessions id = some u ∧
      u' + s.charge id (s.clients c).next =
        u + (s.locked config clock c plan).charge id (s.nextAfter config clock plan))

theorem charge_locked (h : ¬ plan.call.Opens config clock s.manager id) (next : Next ρ) :
    (s.locked config clock c plan).charge id next = s.charge id next := by
  have hincarnation : (s.locked config clock c plan).incarnation id = s.incarnation id := if_neg h
  cases next with
  | ingestPersist | ingestRollback => simp only [Sys.charge, hincarnation]
  | _ => rfl

/-- Nothing is in flight on a fresh entry. -/
theorem charge_locked_opens (h : plan.call.Opens config clock s.manager id)
    (habsent : id ∉ s.manager.sessions) (hpending : ∀ d, (s.clients d).pending = []) {next : Next ρ}
    (hfits : s.Fits config next) : (s.locked config clock c plan).charge id next = 0 := by
  have hincarnation : (s.locked config clock c plan).incarnation id = s.incarnation id + 1 :=
    if_pos h
  cases next with
  | ingestPersist job path =>
      refine if_neg ?_
      rintro ⟨rfl, hjob⟩
      have hle := hfits.2
      omega
  | ingestRollback job =>
      refine if_neg ?_
      rintro ⟨rfl, hjob⟩
      have hle : job.incarnation ≤ s.incarnation job.sessionId := hfits
      omega
  | dropNote job handle rowsRemoved =>
      refine if_neg ?_
      rintro ⟨rfl, hfile⟩
      rcases hfits.2.2 hfile with hmem | ⟨d, hd⟩
      · exact habsent hmem
      · rw [hpending d] at hd
        cases hd
  | _ => rfl

/-- What is to be done by the others still fits, once nothing is pending elsewhere. -/
theorem fits_locked {next : Next ρ} (hfits : s.Fits config next)
    (hpending : ∀ d, (s.clients d).pending = [])
    (hsessions : ∀ id ∈ s.manager.sessions,
      id ∈ (plan.call.exec config clock s.manager).manager.sessions ∨
        config.sessionDbPath id ∈ (plan.call.exec config clock s.manager).cleanup) :
    (s.locked config clock c plan).Fits config next := by
  have hincarnation : ∀ id, s.incarnation id ≤ (s.locked config clock c plan).incarnation id := by
    intro id
    simp only [Sys.locked, Sys.incarnationAfter]
    split <;> omega
  cases next with
  | ingestPersist job path => exact ⟨hfits.1, hfits.2.trans (hincarnation _)⟩
  | ingestRollback job => exact Nat.le_trans hfits (hincarnation _)
  | dropNote job handle rowsRemoved =>
      refine ⟨hfits.1, hfits.2.1, fun hfile => ?_⟩
      rcases hfits.2.2 hfile with hmem | ⟨d, hd⟩
      · refine (hsessions _ hmem).imp_right fun hcleanup => ⟨c, ?_⟩
        rw [locked_clients_self, hfits.1]
        exact hcleanup
      · rw [hpending d] at hd
        cases hd
  | _ => exact hfits

/-- While no session has expired only a release has something to remove. -/
theorem cleanup_of_liveAt (hplaced : WellPlaced config s.manager)
    (hlive : LiveAt config clock s.manager) (call : LockedCall) :
    ((call.exec config clock s.manager).cleanup = [] ∧
      ∀ id ∈ s.manager.sessions, id ∈ (call.exec config clock s.manager).manager.sessions) ∨
    ∃ j ∈ s.manager.sessions,
      (call.exec config clock s.manager).cleanup = [config.sessionDbPath j] ∧
      ∀ id, id ∈ (call.exec config clock s.manager).manager.sessions ↔
        id ≠ j ∧ id ∈ s.manager.sessions := by
  have heffect := (exec_hasEffect clock call hplaced).1
  have hpruned : ∀ id, id ∈ prunedSessions config clock s.manager ↔ id ∈ s.manager.sessions :=
    fun id => mem_prunedSessions_of_liveAt hlive
  generalize (call.exec config clock s.manager).manager = m at heffect ⊢
  generalize (call.exec config clock s.manager).cleanup = cleanup at heffect ⊢
  cases heffect with
  | lost _ after => exact .inl ⟨rfl, fun id hid => (after id).mpr ((hpruned id).mpr hid)⟩
  | kept after =>
      exact .inl ⟨removedPaths_of_liveAt hlive,
        fun id hid => (after id).mpr ((hpruned id).mpr hid)⟩
  | opened _ _ after =>
      exact .inl ⟨removedPaths_of_liveAt hlive,
        fun id hid => (after id).mpr (.inr ((hpruned id).mpr hid))⟩
  | closed j _ was after =>
      refine .inr ⟨j, (hpruned j).mp was, ?_, fun id => ?_⟩
      · rw [removedPaths_of_liveAt hlive, List.nil_append]
      · rw [after id, hpruned id]

theorem balance_locked (hs : Exact config s) (hlive : LiveAt config clock s.manager)
    (hpending : ∀ d, (s.clients d).pending = [])
    (hcareful : LockedCareful config s clock plan.call) (hlaw : Lawful config s clock c plan)
    {u' : Nat × Nat}
    (hu' : usedIn (s.locked config clock c plan).manager.sessions id = some u') :
    u' = Db.size (s.disk.tables (config.sessionDbPath id)) +
      ∑ d, (s.locked config clock c plan).charge id
        ((s.locked config clock c plan).clients d).next := by
  rcases hlaw id u' hu' with ⟨hopens, rfl, hown⟩ | ⟨hnot, u, hu, hmove⟩
  · have habsent : id ∉ s.manager.sessions :=
      fun hid => hopens.2.1 ((mem_prunedSessions_of_liveAt hlive).mpr hid)
    -- the file of a fresh entry holds nothing
    have hempty : s.disk.tables (config.sessionDbPath id) = [] := by
      by_contra htables
      rcases hs.owned _ htables with ⟨j, hj, hpath⟩ | ⟨d, hd⟩
      · exact hcareful.opened id hopens.1 hopens j (AList.mem_keys.mp hj) hpath
      · rw [hpending d] at hd
        cases hd
    have hcharges : ∀ d, (s.locked config clock c plan).charge id
        ((s.locked config clock c plan).clients d).next = 0 := by
      intro d
      by_cases hd : d = c
      · rw [hd, locked_clients_self]
        exact hown
      · rw [locked_clients_ne hd]
        exact charge_locked_opens hopens habsent hpending (hs.fits d)
    rw [hempty, Finset.sum_eq_zero fun d _ => hcharges d]
    rfl
  · have hsum := sum_move c (f := fun d => s.charge id (s.clients d).next)
      (g := fun d => (s.locked config clock c plan).charge id
        ((s.locked config clock c plan).clients d).next) fun d hd => by
          rw [locked_clients_ne hd, charge_locked hnot]
    rw [locked_clients_self] at hsum
    have hbalance := hs.balance id u hu
    refine add_right_cancel (b := s.charge id (s.clients c).next) ?_
    rw [hmove, hbalance, add_assoc, add_assoc, hsum]

theorem exact_locked (hs : Exact config s) (hlive : LiveAt config clock s.manager)
    (hpending : ∀ d, (s.clients d).pending = [])
    (hcareful : LockedCareful config s clock plan.call) (hlaw : Lawful config s clock c plan)
    (hfits : (s.locked config clock c plan).Fits config (s.nextAfter config clock plan)) :
    Exact config (s.locked config clock c plan) := by
  have hcleanup := cleanup_of_liveAt hs.placed hlive plan.call
  have hsessions : ∀ id ∈ s.manager.sessions,
      id ∈ (plan.call.exec config clock s.manager).manager.sessions ∨
        config.sessionDbPath id ∈ (plan.call.exec config clock s.manager).cleanup := by
    intro id hid
    rcases hcleanup with ⟨_, hkeep⟩ | ⟨j, _, hpath, hafter⟩
    · exact .inl (hkeep id hid)
    · by_cases hj : id = j
      · rw [hj, hpath]
        exact .inr (List.mem_singleton.mpr rfl)
      · exact .inl ((hafter id).mpr ⟨hj, hid⟩)
  -- a session after the step was there, or has been opened
  have hwas : ∀ id ∈ (s.locked config clock c plan).manager.sessions,
      plan.call.Opens config clock s.manager id ∨ id ∈ s.manager.sessions := by
    intro id hid
    obtain ⟨entry, hlookup⟩ := Option.isSome_iff_exists.mp (AList.lookup_isSome.mpr hid)
    rcases hlaw id _ (usedIn_of_lookup hlookup) with ⟨hopens, _⟩ | ⟨_, u, hu, _⟩
    · exact .inl hopens
    · exact .inr (mem_of_usedIn hu)
  refine ⟨(exec_hasEffect clock plan.call hs.placed).2, ?_, ?_, ?_, ?_, ?_⟩
  · intro id hid j hj hpath
    rcases hwas id hid with hopens | hold
    · rcases hwas j hj with hopens' | hold'
      · exact Option.some.inj (hopens.1.symm.trans hopens'.1)
      · exact absurd hpath.symm (hcareful.opened id hopens.1 hopens j (AList.mem_keys.mp hold'))
    · rcases hwas j hj with hopens' | hold'
      · exact absurd hpath (hcareful.opened j hopens'.1 hopens' id (AList.mem_keys.mp hold))
      · exact hs.apart id hold j hold' hpath
  · intro d p hp id hid
    by_cases hd : d = c
    · rw [hd, locked_clients_self] at hp
      rcases hcleanup with ⟨hnil, _⟩ | ⟨j, hj, hcleaned, hafter⟩
      · rw [hnil] at hp
        cases hp
      · rw [hcleaned, List.mem_singleton] at hp
        obtain ⟨hne, hold⟩ := (hafter id).mp hid
        exact fun hpath => hne (hs.apart id hold j hj (hpath.trans hp))
    · rw [locked_clients_ne hd, hpending d] at hp
      cases hp
  · intro p hp
    rcases hs.owned p hp with ⟨id, hid, rfl⟩ | ⟨d, hd⟩
    · rcases hsessions id hid with hkept | hcleaned
      · exact .inl ⟨id, hkept, rfl⟩
      · exact .inr ⟨c, by rwa [locked_clients_self]⟩
    · rw [hpending d] at hd
      cases hd
  · intro d
    by_cases hd : d = c
    · rw [hd, locked_clients_self]
      exact hfits
    · rw [locked_clients_ne hd]
      exact fits_locked (hs.fits d) hpending hsessions
  · intro id u' hu'
    exact balance_locked hs hlive hpending hcareful hlaw hu'

end Locked

/-! ## The first step of a method -/

section Started

variable {config : ScratchpadSessionConfig} {n : Nat} {ρ : Type} {s : Sys n ρ} {clock : Clock}
  {c : Fin n} {plan : Plan ρ} {id : Text}

/-- Nothing is in flight on any counter. -/
def Next.Free : Next ρ → Prop
  | .ingestPersist _ _ | .ingestRollback _ | .dropNote _ _ _ => False
  | _ => True

theorem charge_of_free {next : Next ρ} (h : next.Free) : s.charge id next = 0 := by
  cases next with
  | ingestPersist | ingestRollback | dropNote => exact h.elim
  | _ => rfl

theorem free_nextAfter (plan : Plan ρ) (h : ∀ incarnation path, (plan.next incarnation path).Free) :
    (s.nextAfter config clock plan).Free := by
  unfold Sys.nextAfter
  split
  · exact h _ _
  · trivial

theorem lawful_of_reads (hlive : LiveAt config clock s.manager) (hreads : plan.call.Reads)
    (hidle : (s.clients c).next.Free)
    (hfree : ∀ incarnation path, (plan.next incarnation path).Free) :
    Lawful config s clock c plan := by
  intro id u' hu'
  rw [usedIn_exec_of_reads hlive hreads] at hu'
  refine .inr ⟨not_opens_of_enters (enters_of_reads hreads) id, u', hu', ?_⟩
  rw [charge_of_free hidle, charge_of_free (free_nextAfter plan hfree)]

theorem lawful_release (hlive : LiveAt config clock s.manager) (hidle : (s.clients c).next.Free) :
    Lawful config s clock c (.single (.releaseSession id)) := by
  intro j u' hu'
  have hused : Function.update (usedIn s.manager.sessions) id none j = some u' := by
    rw [← usedIn_releaseSessionLocked hlive]
    exact hu'
  have hj : j ≠ id := by
    rintro rfl
    rw [Function.update_self] at hused
    cases hused
  rw [Function.update_of_ne hj] at hused
  refine .inr ⟨not_opens_of_enters rfl j, u', hused, ?_⟩
  rw [charge_of_free hidle, charge_of_free (free_nextAfter (.single _) fun _ _ => trivial)]

theorem lawful_ensure (hlive : LiveAt config clock s.manager) (hidle : (s.clients c).next.Free)
    (hcall : plan.call = .ensureSession id)
    (hfree : ∀ incarnation path, (plan.next incarnation path).Free) :
    Lawful config s clock c plan := by
  intro j u' hu'
  rw [charge_of_free hidle, charge_of_free (free_nextAfter plan hfree), hcall]
  have hused := congrFun (usedIn_ensureSession hlive id) j
  rw [hcall] at hu'
  rw [show usedIn (ensureSession config clock s.manager id).manager.sessions j = some u' from hu']
    at hused
  have hself : (LockedCall.ensureSession id).Opens config clock s.manager j → j = id :=
    fun hopens => (Option.some.inj hopens.1).symm
  by_cases hopens : (LockedCall.ensureSession id).Opens config clock s.manager j
  · obtain rfl := hself hopens
    rw [if_pos hopens, Function.update_self] at hused
    exact .inl ⟨hopens, Option.some.inj hused, rfl⟩
  · refine .inr ⟨hopens, u', ?_, rfl⟩
    split at hused
    case isTrue hid =>
      have hj : j ≠ id := fun hj => hopens (hj ▸ hid)
      rw [hused, Function.update_of_ne hj]
    case isFalse => exact hused.symm

theorem lawful_reserve (hlive : LiveAt config clock s.manager) (hidle : (s.clients c).next.Free)
    {rows : List ρ} {mode : ScratchpadIngestMode}
    (hcareful : LockedCareful config s clock (.reserveIngestCapacity id rows.length mode))
    (tableName : Text) (columns : List ScratchpadIngestColumn) :
    Lawful config s clock c ⟨.reserveIngestCapacity id rows.length mode, fun incarnation path =>
      .ingestPersist ⟨id, incarnation id, tableName, columns, rows, mode⟩ path⟩ := by
  intro j u' hu'
  refine .inr ⟨not_opens_of_enters rfl j, ?_⟩
  rw [charge_of_free hidle]
  change
    usedIn (reserveIngestCapacity config clock s.manager id rows.length mode).manager.sessions j
    = some u' at hu'
  rcases usedIn_reserveIngestCapacity hlive id rows.length mode with
    ⟨err, hresult, hsame⟩ | ⟨u, answer, hresult, hu, hupdate⟩
  · -- refused
    have hexec : ((LockedCall.reserveIngestCapacity id rows.length mode).exec config clock
        s.manager).result = .error err := by
      simp [LockedCall.exec, Outcome.map, hresult, Except.map]
    rw [hsame] at hu'
    rw [nextAfter_of_error hexec]
    exact ⟨u', hu', rfl⟩
  · have hexec : ((LockedCall.reserveIngestCapacity id rows.length mode).exec config clock
        s.manager).result = .ok (some answer.1) := by
      simp [LockedCall.exec, Outcome.map, hresult, Except.map]
    rw [hupdate] at hu'
    rw [nextAfter_of_ok hexec]
    by_cases hj : j = id
    · subst hj
      rw [Function.update_self] at hu'
      refine ⟨u, hu, ?_⟩
      have hfits := hcareful.reserved (j, rows.length) rfl u hu
      simp only [Sys.charge, Sys.locked, and_self, if_true, IngestJob.cost, add_zero]
      rw [← Option.some.inj hu', saturatingAdd, Nat.min_eq_left hfits]
      rfl
    · rw [Function.update_of_ne hj] at hu'
      refine ⟨u', hu', ?_⟩
      simp [Sys.charge, Ne.symm hj]

/-- What comes next fits when it fits at the path of the target. -/
theorem fits_nextAfter (hplaced : WellPlaced config s.manager)
    (h : ∀ id, plan.call.target = some id → (s.locked config clock c plan).Fits config
      (plan.next (s.incarnationAfter config clock plan.call) (config.sessionDbPath id))) :
    (s.locked config clock c plan).Fits config (s.nextAfter config clock plan) := by
  rcases nextAfter_cases s hplaced clock plan with hidle | ⟨id, htarget, _, hnext⟩
  · rw [hidle]
    trivial
  · rw [hnext]
    exact h id htarget

/-- The first step of an accounted method. -/
theorem exact_started {op : Op ρ} (hs : Exact config s) (hidle : s.clients c = .idle)
    (hop : op.Accounted) (hplan : op.plan config = .ok plan)
    (hlive : LiveAt config clock s.manager) (hpending : ∀ d, (s.clients d).pending = [])
    (hcareful : LockedCareful config s clock plan.call) :
    Exact config (s.locked config clock c plan) := by
  have hfree : (s.clients c).next.Free := by
    rw [hidle]
    trivial
  suffices h : Lawful config s clock c plan ∧
      (s.locked config clock c plan).Fits config (s.nextAfter config clock plan) from
    exact_locked hs hlive hpending hcareful h.1 h.2
  cases op with
  | noteTableCreated | noteRowsIngested | noteTableDropped | runGuarded => exact hop.elim
  | activeSessionCount | cleanupExpired =>
      obtain rfl := pure_eq_ok.mp hplan
      exact ⟨lawful_of_reads hlive trivial hfree fun _ _ => trivial,
        fits_nextAfter hs.placed fun _ _ => trivial⟩
  | sessionInfo | listSessions | sessionSnapshot =>
      obtain ⟨_, _, hplan⟩ := bind_eq_ok.mp hplan
      obtain rfl := pure_eq_ok.mp hplan
      exact ⟨lawful_of_reads hlive trivial hfree fun _ _ => trivial,
        fits_nextAfter hs.placed fun _ _ => trivial⟩
  | releaseSession raw =>
      obtain ⟨id, _, hplan⟩ := bind_eq_ok.mp hplan
      obtain rfl := pure_eq_ok.mp hplan
      exact ⟨lawful_release hlive hfree, fits_nextAfter hs.placed fun _ _ => trivial⟩
  | openSession raw =>
      obtain ⟨id, _, hplan⟩ := bind_eq_ok.mp hplan
      obtain rfl := pure_eq_ok.mp hplan
      exact ⟨lawful_ensure hlive hfree rfl fun _ _ => trivial,
        fits_nextAfter hs.placed fun _ _ => trivial⟩
  | ingestRowsWithMode raw tableName columns rows mode =>
      obtain ⟨_, _, hplan⟩ := bind_eq_ok.mp hplan
      obtain ⟨id, _, hplan⟩ := bind_eq_ok.mp hplan
      obtain ⟨_, _, hplan⟩ := bind_eq_ok.mp hplan
      obtain ⟨_, _, hplan⟩ := bind_eq_ok.mp hplan
      obtain rfl := pure_eq_ok.mp hplan
      refine ⟨lawful_reserve hlive hfree hcareful tableName columns,
        fits_nextAfter hs.placed fun j hj => ?_⟩
      obtain rfl : id = j := Option.some.inj hj
      exact ⟨rfl, le_rfl⟩
  | listTables raw limit =>
      obtain ⟨_, _, hplan⟩ := bind_eq_ok.mp hplan
      obtain ⟨_, _, hplan⟩ := bind_eq_ok.mp hplan
      obtain rfl := pure_eq_ok.mp hplan
      exact ⟨lawful_of_reads hlive trivial hfree fun _ _ => trivial,
        fits_nextAfter hs.placed fun _ _ => trivial⟩
  | dropTable raw tableName ifExists =>
      obtain ⟨id, _, hplan⟩ := bind_eq_ok.mp hplan
      obtain ⟨_, _, hplan⟩ := bind_eq_ok.mp hplan
      obtain rfl := pure_eq_ok.mp hplan
      refine ⟨lawful_of_reads hlive trivial hfree fun _ _ => trivial,
        fits_nextAfter hs.placed fun j hj => ?_⟩
      obtain rfl : id = j := Option.some.inj hj
      exact rfl

end Started

/-! ## The second locked step of a method -/

section Finished

variable {config : ScratchpadSessionConfig} {n : Nat} {ρ : Type} {s : Sys n ρ} {clock : Clock}
  {c : Fin n} {call : LockedCall} {id : Text}

/-- Lowering a counter by what is in flight on it. -/
theorem sub_charge_add (hs : Exact config s) {u : Nat × Nat}
    (hu : usedIn s.manager.sessions id = some u) (c : Fin n) :
    u - s.charge id (s.clients c).next + s.charge id (s.clients c).next = u := by
  have hbalance := hs.balance id u hu
  rw [← Finset.add_sum_erase _ _ (Finset.mem_univ c)] at hbalance
  generalize s.charge id (s.clients c).next = charge at hbalance ⊢
  generalize ∑ d ∈ Finset.univ.erase c, s.charge id (s.clients d).next = rest at hbalance
  subst hbalance
  ext
  · simp only [Prod.fst_add, Prod.fst_sub]
    omega
  · simp only [Prod.snd_add, Prod.snd_sub]
    omega

/-- A step that lowers the counters of one session, by what the client has in flight on
    them or without effect. -/
theorem lawful_lowered (hs : Exact config s) (id : Text) (amount : Nat × Nat)
    (hself : ∀ j, call.Opens config clock s.manager j → j = id)
    (hused : usedIn (call.exec config clock s.manager).manager.sessions =
      if call.Opens config clock s.manager id then
        Function.update (usedIn s.manager.sessions) id (some 0)
      else Function.update (usedIn s.manager.sessions) id
        ((usedIn s.manager.sessions id).map fun u => u - amount))
    (hother : ∀ j, j ≠ id → s.charge j (s.clients c).next = 0)
    (hcharge : ∀ u, usedIn s.manager.sessions id = some u →
      s.charge id (s.clients c).next = amount ∨
        (s.charge id (s.clients c).next = 0 ∧ u - amount = u)) :
    Lawful config s clock c (.single call) := by
  intro j u' hu'
  rw [charge_of_free (free_nextAfter (.single call) fun _ _ => trivial)]
  change usedIn (call.exec config clock s.manager).manager.sessions j = some u' at hu'
  rw [hused] at hu'
  by_cases hj : j = id
  · subst hj
    by_cases hopens : call.Opens config clock s.manager j
    · rw [if_pos hopens, Function.update_self] at hu'
      exact .inl ⟨hopens, (Option.some.inj hu').symm, rfl⟩
    · rw [if_neg hopens, Function.update_self, Option.map_eq_some_iff] at hu'
      obtain ⟨u, hu, rfl⟩ := hu'
      refine .inr ⟨hopens, u, hu, ?_⟩
      rcases hcharge u hu with hamount | ⟨hzero, hsame⟩
      · rw [← hamount, sub_charge_add hs hu, add_zero]
      · rw [hzero, hsame]
  · have hold : usedIn s.manager.sessions j = some u' := by
      split at hu' <;> rwa [Function.update_of_ne hj] at hu'
    refine .inr ⟨fun hopens => hj (hself j hopens), u', hold, ?_⟩
    rw [hother j hj]

/-- The second locked step of an accounted method. -/
theorem exact_finished (hs : Exact config s) (htodo : (s.clients c).next.locked = some call)
    (hlive : LiveAt config clock s.manager) (hpending : ∀ d, (s.clients d).pending = [])
    (hcareful : LockedCareful config s clock call)
    (hfinish : FinishCareful s (s.clients c).next) :
    Exact config (s.locked config clock c (.single call)) := by
  refine exact_locked hs hlive hpending hcareful ?_ (fits_nextAfter hs.placed fun _ _ => trivial)
  cases hnext : (s.clients c).next with
  | openInfo sessionId =>
      rw [hnext] at htodo
      obtain rfl := Option.some.inj htodo
      exact lawful_of_reads hlive trivial (by rw [hnext]; trivial) fun _ _ => trivial
  | dropMissing job =>
      rw [hnext] at htodo
      obtain rfl := Option.some.inj htodo
      exact lawful_of_reads hlive trivial (by rw [hnext]; trivial) fun _ _ => trivial
  | ingestRollback job =>
      rw [hnext] at htodo hfinish
      obtain rfl := Option.some.inj htodo
      have hnot : ∀ j, ¬ (LockedCall.rollbackIngestCapacity job.sessionId job.rows.length
          job.mode).Opens config clock s.manager j := not_opens_of_enters rfl
      refine lawful_lowered hs job.sessionId job.cost (fun j hopens => absurd hopens (hnot j))
        ?_ ?_ ?_
      · rw [if_neg (hnot job.sessionId)]
        exact usedIn_rollbackIngestCapacity hlive job.rows.length job.mode
      · intro j hj
        rw [hnext]
        exact if_neg fun h => hj h.1.symm
      · intro u hu
        rw [hnext]
        by_cases hjob : job.incarnation = s.incarnation job.sessionId
        · exact .inl (if_pos ⟨rfl, hjob⟩)
        · exact .inr ⟨if_neg fun h => hjob h.2, (hfinish u hu).resolve_left hjob⟩
  | dropNote job handle rowsRemoved =>
      rw [hnext] at htodo hfinish
      obtain rfl := Option.some.inj htodo
      refine lawful_lowered hs job.sessionId (1, rowsRemoved)
        (fun j hopens => (Option.some.inj hopens.1).symm)
        (usedIn_noteTableDroppedLocked hlive rowsRemoved) ?_ ?_
      · intro j hj
        rw [hnext]
        exact if_neg fun h => hj h.1.symm
      · intro u hu
        rw [hnext]
        by_cases hfile : handle.file = s.disk.current handle.path
        · exact .inl (if_pos ⟨rfl, hfile⟩)
        · exact .inr ⟨if_neg fun h => hfile h.2, (hfinish u hu).resolve_left hfile⟩
  | _ =>
      rw [hnext] at htodo
      cases htodo

end Finished

/-! ## Removals and work on the databases -/

section Files

variable {config : ScratchpadSessionConfig} {n : Nat} {ρ : Type} {s : Sys n ρ} {c : Fin n}

/-- A removal is of a file that no live session has. -/
theorem exact_removed {p : Path} {rest : List Path} (hs : Exact config s)
    (hpending : (s.clients c).pending = p :: rest) : Exact config (s.removed c p rest) := by
  have hnext : ∀ d, ((s.removed c p rest).clients d).next = (s.clients d).next := by
    intro d
    by_cases hd : d = c
    · rw [hd, removed_clients_self]
    · rw [removed_clients_ne hd]
  have hpend : ∀ d q, q ≠ p → q ∈ (s.clients d).pending →
      q ∈ ((s.removed c p rest).clients d).pending := by
    intro d q hq hd
    by_cases hdc : d = c
    · rw [hdc, hpending] at hd
      rw [hdc, removed_clients_self]
      exact (List.mem_cons.mp hd).resolve_left hq
    · rwa [removed_clients_ne hdc]
  have hcurrent : ∀ q, q ≠ p → (s.disk.remove p).current q = s.disk.current q :=
    fun q hq => Function.update_of_ne hq ..
  have hgrows : ∀ q, s.disk.current q ≤ (s.disk.remove p).current q := by
    intro q
    by_cases hq : q = p
    · subst hq
      simp [Disk.remove]
    · rw [hcurrent q hq]
  refine ⟨hs.placed, hs.apart, ?_, ?_, ?_, ?_⟩
  · intro d q hq id hid
    by_cases hd : d = c
    · rw [hd, removed_clients_self] at hq
      exact hs.pendingApart c q (hpending ▸ List.mem_cons_of_mem p hq) id hid
    · rw [removed_clients_ne hd] at hq
      exact hs.pendingApart d q hq id hid
  · intro q hq
    have hne : q ≠ p := by
      rintro rfl
      exact hq (Disk.tables_remove_self ..)
    rw [show (s.removed c p rest).disk.tables q = s.disk.tables q from
      Disk.tables_remove_ne _ hne] at hq
    exact (hs.owned q hq).imp_right (Exists.imp fun d hd => hpend d q hne hd)
  · intro d
    have hfits := hs.fits d
    rw [hnext d]
    cases hd : (s.clients d).next with
    | dropExists job handle | dropCount job handle | dropStatement job handle rowsRemoved =>
        rw [hd] at hfits
        exact ⟨hfits.1, hfits.2.trans (hgrows _)⟩
    | dropNote job handle rowsRemoved =>
        rw [hd] at hfits
        refine ⟨hfits.1, hfits.2.1.trans (hgrows _), fun hfile => ?_⟩
        have hne : handle.path ≠ p := by
          rintro rfl
          have hle := hfits.2.1
          simp only [Sys.removed, Disk.remove, Function.update_self] at hfile
          omega
        rw [show (s.removed c p rest).disk.current handle.path = _ from hcurrent _ hne] at hfile
        exact (hfits.2.2 hfile).imp_right (Exists.imp fun e he => hpend e _ hne he)
    | _ =>
        rw [hd] at hfits
        exact hfits
  · intro id u hu
    have hid := mem_of_usedIn hu
    have hne : config.sessionDbPath id ≠ p :=
      hs.pendingApart c p (hpending ▸ List.mem_cons_self) id hid
    have hcharge : ∀ d, (s.removed c p rest).charge id ((s.removed c p rest).clients d).next =
        s.charge id (s.clients d).next := by
      intro d
      have hfits := hs.fits d
      rw [hnext d]
      cases hd : (s.clients d).next with
      | dropNote job handle rowsRemoved =>
          rw [hd] at hfits
          by_cases hjob : job.sessionId = id
          · have hpath : handle.path ≠ p := by rwa [hfits.1, hjob]
            simp only [Sys.charge, Sys.removed, hcurrent _ hpath]
          · simp only [Sys.charge, hjob, false_and, if_false]
      | _ => rfl
    rw [show (s.removed c p rest).disk.tables (config.sessionDbPath id) = _ from
      Disk.tables_remove_ne _ hne, Finset.sum_congr rfl fun d _ => hcharge d]
    exact hs.balance id u hu

/-- Work on a database that moves its size as the charge of the client moves. -/
theorem exact_worked_of {disk : Disk ρ} {next : Next ρ} (hs : Exact config s)
    (hpending : ∀ d, (s.clients d).pending = []) (hcurrent : disk.current = s.disk.current)
    (howned : ∀ p, disk.tables p ≠ [] → s.disk.tables p ≠ [] ∨
      ∃ id ∈ s.manager.sessions, config.sessionDbPath id = p)
    (hfits : s.Fits config next)
    (hmove : ∀ id ∈ s.manager.sessions,
      Db.size (s.disk.tables (config.sessionDbPath id)) + s.charge id (s.clients c).next =
        Db.size (disk.tables (config.sessionDbPath id)) + s.charge id next) :
    Exact config (s.worked c disk next) := by
  have hnone : ∀ d, ((s.worked c disk next).clients d).pending = [] := by
    intro d
    by_cases hd : d = c
    · rw [hd, worked_clients_self]
    · rw [worked_clients_ne hd, hpending d]
  have hcharge : ∀ id x, (s.worked c disk next).charge id x = s.charge id x := by
    intro id x
    cases x with
    | dropNote => simp only [Sys.charge, Sys.worked, hcurrent]
    | _ => rfl
  have hstill : ∀ x, s.Fits config x → (s.worked c disk next).Fits config x := by
    intro x hx
    cases x with
    | dropExists | dropCount | dropStatement => simpa only [Sys.Fits, Sys.worked, hcurrent] using hx
    | dropNote job handle rowsRemoved =>
        refine ⟨hx.1, by simpa only [Sys.worked, hcurrent] using hx.2.1, fun hfile => .inl ?_⟩
        have hfile : handle.file = s.disk.current handle.path := by
          simpa only [Sys.worked, hcurrent] using hfile
        refine (hx.2.2 hfile).resolve_right fun ⟨d, hd⟩ => ?_
        rw [hpending d] at hd
        cases hd
    | _ => exact hx
  refine ⟨hs.placed, hs.apart, ?_, ?_, ?_, ?_⟩
  · intro d p hp
    rw [hnone d] at hp
    cases hp
  · intro p hp
    rcases howned p hp with hold | hlive
    · refine .inl ((hs.owned p hold).resolve_right fun ⟨d, hd⟩ => ?_)
      rw [hpending d] at hd
      cases hd
    · exact .inl hlive
  · intro d
    by_cases hd : d = c
    · rw [hd, worked_clients_self]
      exact hstill next hfits
    · rw [worked_clients_ne hd]
      exact hstill _ (hs.fits d)
  · intro id u hu
    have hsum := sum_move c (f := fun d => s.charge id (s.clients d).next)
      (g := fun d => (s.worked c disk next).charge id ((s.worked c disk next).clients d).next)
      fun d hd => by rw [worked_clients_ne hd, hcharge]
    rw [worked_clients_self, hcharge] at hsum
    refine add_right_cancel (b := s.charge id (s.clients c).next) ?_
    calc u + s.charge id (s.clients c).next
        = Db.size (s.disk.tables (config.sessionDbPath id)) + s.charge id (s.clients c).next +
            ∑ d, s.charge id (s.clients d).next := by
          rw [hs.balance id u hu, add_right_comm]
      _ = Db.size (disk.tables (config.sessionDbPath id)) +
            ((∑ d, s.charge id (s.clients d).next) + s.charge id next) := by
          rw [hmove id (mem_of_usedIn hu), add_assoc, add_comm (s.charge id next)]
      _ = _ := by
          rw [← hsum, ← add_assoc]
          rfl

/-- A step that leaves the databases alone, and what is in flight. -/
theorem exact_moved {next : Next ρ} (hs : Exact config s)
    (hpending : ∀ d, (s.clients d).pending = []) (hfits : s.Fits config next)
    (hcharge : ∀ id, s.charge id next = s.charge id (s.clients c).next) :
    Exact config (s.worked c s.disk next) :=
  exact_worked_of hs hpending rfl (fun _ hp => .inl hp) hfits fun id _ => by rw [hcharge]

theorem exact_persisted {answer : EngineAnswer ρ} {job : IngestJob ρ} {path : Path} {db : Db ρ}
    (hs : Exact config s) (hpending : ∀ d, (s.clients d).pending = [])
    (hnext : (s.clients c).next = .ingestPersist job path)
    (hcommit : persistIngestTable answer (s.disk.tables path) path job = .ok db)
    (hcareful : job.cost = 0 ∨
      job.sessionId ∈ s.manager.sessions ∧ job.incarnation = s.incarnation job.sessionId) :
    Exact config (s.worked c (s.disk.write (s.disk.connect path) db) .idle) := by
  have hpath : path = config.sessionDbPath job.sessionId := by
    have hfits := hs.fits c
    rw [hnext] at hfits
    exact hfits.1
  have hsize : Db.size db = Db.size (s.disk.tables path) + job.cost := size_persist hcommit
  have hother : ∀ p, p ≠ path →
      (s.disk.write (s.disk.connect path) db).tables p = s.disk.tables p :=
    fun p hp => Disk.tables_write_ne _ (by exact hp) _
  have hself : (s.disk.write (s.disk.connect path) db).tables path = db :=
    Disk.tables_write_connect ..
  refine exact_worked_of hs hpending rfl ?_ trivial ?_
  · intro p hp
    by_cases hpp : p = path
    · subst hpp
      rcases hcareful with hcost | ⟨hmem, _⟩
      · rw [hself, Ne, ← size_eq_zero, hsize, hcost, add_zero, size_eq_zero] at hp
        exact .inl hp
      · exact .inr ⟨_, hmem, hpath.symm⟩
    · rw [hother p hpp] at hp
      exact .inl hp
  · intro id hid
    rw [hnext, charge_of_free (show Next.Free (.idle : Next ρ) from trivial), add_zero]
    by_cases hjob : job.sessionId = id
    · have hcharge : s.charge id (.ingestPersist job path) = job.cost := by
        rcases hcareful with hcost | ⟨_, hcurrent⟩
        · simp only [Sys.charge, hcost, ite_self]
        · exact if_pos ⟨hjob, hjob ▸ hcurrent⟩
      rw [hcharge, ← hjob, ← hpath, hself, hsize]
    · have hcharge : s.charge id (.ingestPersist job path) = 0 := if_neg fun h => hjob h.1
      rw [hcharge, add_zero]
      by_cases hsame : config.sessionDbPath id = path
      · -- the path of another session: then nothing was added
        have hcost : job.cost = 0 := hcareful.resolve_right fun ⟨hmem, _⟩ =>
          hjob (hs.apart _ hmem id hid (hpath.symm.trans hsame.symm))
        rw [hsame, hself, hsize, hcost, add_zero]
      · rw [hother _ hsame]

theorem exact_dropped {answer : EngineAnswer ρ} {job : DropJob} {handle : Handle}
    {rowsRemoved : Nat} {db : Db ρ} (hs : Exact config s)
    (hpending : ∀ d, (s.clients d).pending = [])
    (hnext : (s.clients c).next = .dropStatement job handle rowsRemoved)
    (hdrop : dropTableStatement answer (s.disk.read handle) job.tableName = .ok db)
    (hcareful : handle.file = s.disk.current handle.path → job.sessionId ∈ s.manager.sessions ∧
      ((s.disk.read handle).find? (Table.isNamed job.tableName)).map
        (fun t => t.rows.length) = some rowsRemoved) :
    Exact config (s.worked c (s.disk.write handle db) (.dropNote job handle rowsRemoved)) := by
  have hfits := hs.fits c
  rw [hnext] at hfits
  have hfree : ∀ id, s.charge id (.dropStatement job handle rowsRemoved) = 0 := fun _ => rfl
  by_cases hfile : handle.file = s.disk.current handle.path
  · obtain ⟨hmem, hcount⟩ := hcareful hfile
    obtain ⟨t, ht, hrows⟩ := Option.map_eq_some_iff.mp hcount
    have hread : s.disk.read handle = s.disk.tables handle.path := by
      rw [Disk.read, Disk.tables, hfile]
    have hself : (s.disk.write handle db).tables handle.path = db := by
      rw [Disk.tables_write_self, if_pos hfile]
    have hsize : Db.size (s.disk.tables handle.path) = Db.size db + (1, rowsRemoved) := by
      rw [← hread, size_eraseP ht, hrows, (dropTableStatement_ok hdrop).1]
    refine exact_worked_of hs hpending rfl ?_ ⟨hfits.1, hfits.2, fun _ => .inl hmem⟩ ?_
    · intro p hp
      by_cases hpp : p = handle.path
      · exact .inr ⟨_, hmem, hfits.1.symm.trans hpp.symm⟩
      · rw [Disk.tables_write_ne _ hpp] at hp
        exact .inl hp
    · intro id hid
      rw [hnext, hfree, add_zero]
      by_cases hjob : job.sessionId = id
      · have hcharge : s.charge id (.dropNote job handle rowsRemoved) = (1, rowsRemoved) :=
          if_pos ⟨hjob, hfile⟩
        rw [hcharge, ← hjob, ← hfits.1, hself, hsize]
      · have hcharge : s.charge id (.dropNote job handle rowsRemoved) = 0 :=
          if_neg fun h => hjob h.1
        have hpp : config.sessionDbPath id ≠ handle.path :=
          fun hpp => hjob (hs.apart _ hmem id hid (hfits.1.symm.trans hpp.symm))
        rw [hcharge, add_zero, Disk.tables_write_ne _ hpp]
  · -- the file is gone, and what is written to it does not count
    have hsame : ∀ p, (s.disk.write handle db).tables p = s.disk.tables p := by
      intro p
      by_cases hpp : p = handle.path
      · rw [hpp, Disk.tables_write_self, if_neg hfile]
      · exact Disk.tables_write_ne _ hpp _
    refine exact_worked_of hs hpending rfl (fun p hp => .inl (hsame p ▸ hp))
      ⟨hfits.1, hfits.2, fun h => absurd h hfile⟩ fun id _ => ?_
    have hcharge : s.charge id (.dropNote job handle rowsRemoved) = 0 :=
      if_neg fun h => hfile h.2
    rw [hnext, hfree, hcharge, hsame]

/-- Every careful step on a database. -/
theorem exact_worked [DecidableEq ρ] {answer : EngineAnswer ρ} {disk : Disk ρ} {next : Next ρ}
    (hs : Exact config s) (hpending : ∀ d, (s.clients d).pending = [])
    (hwork : Worked answer s.disk (s.clients c).next disk next)
    (hcareful : WorkCareful s answer (s.clients c).next) :
    Exact config (s.worked c disk next) := by
  have hfits := hs.fits c
  generalize hnext : (s.clients c).next = before at hwork hfits hcareful
  cases hwork with
  | ended busy unlocked free =>
      refine exact_moved hs hpending trivial fun id => ?_
      rw [hnext]
      cases before with
      | ingestPersist job path => exact absurd rfl (free job path)
      | ingestRollback | dropNote => cases unlocked
      | _ => rfl
  | persisted job path db commit =>
      exact exact_persisted hs hpending hnext commit (hcareful (by rw [commit]; rfl))
  | notPersisted job path =>
      exact exact_moved hs hpending hfits.2 fun id => by rw [hnext]; rfl
  | dropped job handle rowsRemoved db drop =>
      exact exact_dropped hs hpending hnext drop (hcareful (by rw [drop]; rfl))
  | opened id path => exact exact_moved hs hpending trivial fun id => by rw [hnext]; rfl
  | dropConnected job path =>
      exact exact_moved hs hpending ⟨hfits, le_rfl⟩ fun id => by rw [hnext]; rfl
  | dropFound job handle =>
      exact exact_moved hs hpending hfits fun id => by rw [hnext]; rfl
  | dropNotFound job handle =>
      exact exact_moved hs hpending trivial fun id => by rw [hnext]; rfl
  | dropCounted job handle rowsRemoved count =>
      exact exact_moved hs hpending hfits fun id => by rw [hnext]; rfl
  | queryConnected => exact hfits.elim
  | queried => exact hfits.elim

end Files

/-! ## Runs -/

section Runs

variable {config : ScratchpadSessionConfig} {n : Nat} {ρ : Type}

theorem exact_step [DecidableEq ρ] {s s' : Sys n ρ} {label : Label n ρ} (hs : Exact config s)
    (horderly : Orderly config s label) (hcareful : Careful config s label)
    (h : (system config n).step s label = some s') : Exact config s' := by
  obtain ⟨hlocked, hwork⟩ := hcareful
  cases stepped_of_step config h with
  | @limits _ m same _ =>
      have hsame : s.manager.sessions = m.sessions := same.symm
      refine ⟨fun id entry hid => hs.placed id entry (same ▸ hid), ?_, ?_, ?_, fun d => ?_, ?_⟩
      · exact hsame ▸ hs.apart
      · exact hsame ▸ hs.pendingApart
      · exact hsame ▸ hs.owned
      · have hfits := hs.fits d
        cases hd : (s.clients d).next with
        | dropNote =>
            rw [hd] at hfits
            exact ⟨hfits.1, hfits.2.1, fun hfile => same.symm ▸ hfits.2.2 hfile⟩
        | _ =>
            rw [hd] at hfits
            exact hfits
      · exact hsame ▸ hs.balance
  | limitRefused => exact hs
  | refused => exact hs
  | started c op clock plan idle planned =>
      have hcall : (clock, plan.call) ∈ s.lockedCall config (.start c op clock) := by
        simp [Sys.lockedCall, planned]
      exact exact_started hs idle horderly.accounted planned (horderly.live _ hcall)
        (horderly.single.resolve_left (by simp [Label.removes])) (hlocked _ hcall)
  | removed c p rest pending => exact exact_removed hs pending
  | worked c answer disk next pending work =>
      exact exact_worked hs (horderly.single.resolve_left (by simp [Label.removes])) work hwork
  | finished c clock call pending todo =>
      have hcall : (clock, call) ∈ s.lockedCall config (.finish c clock) := by
        simp [Sys.lockedCall, todo]
      exact exact_finished hs todo (horderly.live _ hcall)
        (horderly.single.resolve_left (by simp [Label.removes])) (hlocked _ hcall) hwork

theorem exact_start : Exact config (Sys.start config : Sys n ρ) where
  placed id entry h := by simp [Sys.start, Manager.new] at h
  apart id h := by simp [Sys.start, Manager.new] at h
  pendingApart c p h := by simp [Sys.start, Client.idle] at h
  owned p h := absurd rfl h
  fits c := trivial
  balance id u h := by simp [Sys.start, Manager.new, usedIn] at h

/-- **The quota counters are exact** whenever no method is in flight, in every run in which
    charges are settled where they were made. -/
theorem quotasExact_of_careful [DecidableEq ρ] {s : Sys n ρ}
    (h : (system config n).Reachable
      (fun s label => Orderly config s label ∧ Careful config s label) s)
    (hquiet : s.Quiet) : QuotasExact s := by
  have hs : Exact config s :=
    h.inv exact_start fun _ _ _ hs hlabel hstep => exact_step hs hlabel.1 hlabel.2 hstep
  intro id entry hlookup
  have hbalance := hs.balance id _ (usedIn_of_lookup hlookup)
  have hcharges : ∀ c, s.charge id (s.clients c).next = 0 := by
    intro c
    rw [hquiet c]
    rfl
  rw [Finset.sum_eq_zero fun c _ => hcharges c, add_zero, ← hs.placed id entry hlookup] at hbalance
  exact ⟨congrArg Prod.fst hbalance, congrArg Prod.snd hbalance⟩

end Runs

/-! ## A drift -/

section Decidable

variable (config : ScratchpadSessionConfig) {n : Nat} {ρ : Type} [DecidableEq ρ]

instance : (op : Op ρ) → Decidable op.Accounted
  | .noteTableCreated _ | .noteRowsIngested _ _ | .noteTableDropped _ _ | .runGuarded _ _ _ _ =>
      isFalse id
  | .activeSessionCount | .sessionInfo _ | .listSessions _ | .sessionSnapshot _ |
      .releaseSession _ | .cleanupExpired | .openSession _ | .ingestRowsWithMode _ _ _ _ _ |
      .listTables _ _ | .dropTable _ _ _ => isTrue trivial

instance : (label : Label n ρ) → Decidable label.Accounted
  | .start _ op _ => inferInstanceAs (Decidable op.Accounted)
  | .setMaxSessions _ | .setMaxTables _ | .remove _ | .engine _ _ | .finish _ _ => isTrue trivial

instance (s : Sys n ρ) (label : Label n ρ) : Decidable (Orderly config s label) :=
  decidable_of_iff ((∀ x ∈ s.lockedCall config label, LiveAt config x.1 s.manager) ∧
      label.Accounted ∧ (label.removes ∨ ∀ c, (s.clients c).pending = []))
    ⟨fun h => ⟨h.1, h.2.1, h.2.2⟩, fun h => ⟨h.1, h.2, h.3⟩⟩

instance (s : Sys n ρ) (clock : Clock) (call : LockedCall) :
    Decidable (LockedCareful config s clock call) :=
  decidable_of_iff (_ ∧ _) ⟨fun h => ⟨h.1, h.2⟩, fun h => ⟨h.1, h.2⟩⟩

instance (s : Sys n ρ) (answer : EngineAnswer ρ) : (next : Next ρ) →
    Decidable (WorkCareful s answer next)
  | .ingestPersist _ _ | .dropStatement _ _ _ => inferInstanceAs (Decidable (_ → _))
  | .idle | .openConnect _ _ | .openInfo _ | .ingestRollback _ | .listRead _ | .dropConnect _ _ |
      .dropExists _ _ | .dropMissing _ | .dropCount _ _ | .dropNote _ _ _ | .queryConnect _ _ _ |
      .queryExecute _ _ _ => isTrue trivial

instance (s : Sys n ρ) : (next : Next ρ) → Decidable (FinishCareful s next)
  | .ingestRollback _ | .dropNote _ _ _ => inferInstanceAs (Decidable (∀ _ ∈ _, _))
  | .idle | .openConnect _ _ | .openInfo _ | .ingestPersist _ _ | .listRead _ | .dropConnect _ _ |
      .dropExists _ _ | .dropMissing _ | .dropCount _ _ | .dropStatement _ _ _ |
      .queryConnect _ _ _ | .queryExecute _ _ _ => isTrue trivial

instance (s : Sys n ρ) : (label : Label n ρ) → Decidable (Careful config s label)
  | .engine _ _ | .finish _ _ | .setMaxSessions _ | .setMaxTables _ | .start _ _ _ | .remove _ =>
      inferInstanceAs (Decidable (_ ∧ _))

end Decidable

/-- One column. -/
def columnA : List ScratchpadIngestColumn := [⟨text "a", text "integer"⟩]

/-- A run that opens a session. -/
def openFirst : List (Label 2 Nat) :=
  [.start 0 (.openSession (text "s")) (.at 0), .engine 0 .fine, .finish 0 (.at 0)]

/-- Two ingests at once, one of which the engine refuses. -/
def ingestTwice : List (Label 2 Nat) :=
  [.start 0 (.ingestRowsWithMode (text "s") (text "t") columnA [1, 2] .create) (.at 1),
    .start 1 (.ingestRowsWithMode (text "s") (text "u") columnA [3] .create) (.at 2),
    .engine 1 ⟨fun _ => some (.execute, text "disk full"), [], id⟩, .engine 0 .fine,
    .finish 1 (.at 3)]

theorem quotasExact_ingestTwice :
    QuotasExact (((system defaultConfig 2).runFrom (Sys.start defaultConfig)
      (openFirst ++ ingestTwice)).get (by decide +kernel)) :=
  quotasExact_of_careful (Machine.reachable_get (by decide +kernel) (by decide +kernel))
    (by decide +kernel)

/-- A table of two rows is counted, three rows are appended to it, and it is dropped. -/
def appendBeforeDrop : List (Label 2 Nat) :=
  [.start 0 (.ingestRowsWithMode (text "s") (text "t") columnA [1, 2] .create) (.at 1),
    .engine 0 .fine, .start 0 (.dropTable (text "s") (text "t") false) (.at 2), .engine 0 .fine,
    .engine 0 .fine, .engine 0 .fine,
    .start 1 (.ingestRowsWithMode (text "s") (text "t") columnA [3, 4, 5] .append) (.at 3),
    .engine 1 .fine, .engine 0 .fine, .finish 0 (.at 4)]

/-- The state behind the run that drifts. -/
def drifted : Sys 2 Nat :=
  ((system defaultConfig 2).runFrom (Sys.start defaultConfig) (openFirst ++ appendBeforeDrop)).get
    (by decide +kernel)

theorem not_quotasExact : ¬ ∀ s : Sys 2 Nat,
    (system defaultConfig 2).Reachable (Orderly defaultConfig) s → s.Quiet → QuotasExact s := by
  intro h
  have hexact : QuotasExact drifted :=
    h drifted (Machine.reachable_get (by decide +kernel) _) (by decide +kernel)
  -- three rows are charged on an empty database
  have hrows := (hexact (text "s") ⟨text "session-s.duckdb", 4, 0, 3⟩ (by decide +kernel)).2
  exact absurd hrows (by decide +kernel)

end Ga4Mcp.Scratchpad
