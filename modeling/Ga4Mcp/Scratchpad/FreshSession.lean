/-
  A new session starts empty.

  Operations run one at a time (`OneAtATime`). The file of a session that is taken out is
  removed before the operation goes on, unless the step returns early with `?`: then the
  expired sessions' files stay, and a session opened again finds its old tables.

  * `NoLeftovers`: every table on disk was made for a session that is live now, and for
    its present incarnation.
  * `noLeftovers_of_keepsFiles`: so it is after every cleanup, in a run without an early
    return while an expired session has tables (`KeepsFiles`).
  * `not_noLeftovers`: and otherwise it need not be.
-/
import Ga4Mcp.Scratchpad.System

namespace Ga4Mcp.Scratchpad

open Ga4Mcp.Lib

/-! ## Makers -/

section Makers

variable {ρ : Type}

/-- The sessions, with their incarnations, that the tables at a path were made for. -/
def Disk.makers (d : Disk ρ) (p : Path) : List (Text × Nat) := (d.tables p).map Table.madeBy

/-- The file that the client's next step may make tables in, and for which session. -/
def Next.writesFor : Next ρ → Option (Path × Text × Nat)
  | .ingestPersist job path => some (path, job.sessionId, job.incarnation)
  | .queryConnect id incarnation path => some (path, id, incarnation)
  | .queryExecute id incarnation handle => some (handle.path, id, incarnation)
  | _ => none

theorem makers_write_connect {d : Disk ρ} {p q : Path} {db : Db ρ} {maker : Text × Nat}
    (h : maker ∈ (d.write (d.connect p) db).makers q) :
    (q = p ∧ maker ∈ db.map Table.madeBy) ∨ maker ∈ d.makers q := by
  unfold Disk.makers at h ⊢
  by_cases hq : q = p
  · subst hq
    rw [Disk.tables_write_connect] at h
    exact .inl ⟨rfl, h⟩
  · rw [Disk.tables_write_ne d (by exact hq)] at h
    exact .inr h

/-- Through a connection to a file that is gone, nothing is written. -/
theorem makers_write {d : Disk ρ} {handle : Handle} {q : Path} {db : Db ρ} {maker : Text × Nat}
    (h : maker ∈ (d.write handle db).makers q) :
    (q = handle.path ∧ d.read handle = d.tables q ∧ maker ∈ db.map Table.madeBy) ∨
      maker ∈ d.makers q := by
  unfold Disk.makers at h ⊢
  by_cases hq : q = handle.path
  · subst hq
    rw [Disk.tables_write_self] at h
    split at h
    case isTrue hfile => exact .inl ⟨rfl, by rw [Disk.read, Disk.tables, hfile], h⟩
    case isFalse => exact .inr h
  · rw [Disk.tables_write_ne d hq] at h
    exact .inr h

theorem madeBy_retag [DecidableEq ρ] {maker maker' : Text × Nat} {before after : Db ρ}
    (h : maker' ∈ (retag maker before after).map Table.madeBy) :
    maker' ∈ before.map Table.madeBy ∨ maker' = maker := by
  simp only [retag, List.mem_map] at h
  obtain ⟨_, ⟨t, _, rfl⟩, rfl⟩ := h
  split
  case isTrue ht => exact .inl (List.mem_map_of_mem ht)
  case isFalse => exact .inr rfl

variable [DecidableEq ρ] {answer : EngineAnswer ρ} {disk disk' : Disk ρ} {next next' : Next ρ}

/-- A client goes on working for the session it has worked for. -/
theorem Worked.writesFor (h : Worked answer disk next disk' next') {w : Path × Text × Nat}
    (hw : next'.writesFor = some w) : next.writesFor = some w := by
  cases h
  case queryConnected => exact hw
  all_goals cases hw

/-- A step on the database leaves tables that were there, or were made for the session
    that the step works for. -/
theorem Worked.makers (h : Worked answer disk next disk' next') {p : Path} {maker : Text × Nat}
    (hmaker : maker ∈ disk'.makers p) :
    maker ∈ disk.makers p ∨ next.writesFor = some (p, maker) := by
  cases h
  case persisted job path db commit =>
    rcases makers_write_connect hmaker with ⟨rfl, hdb⟩ | hold
    · rcases madeBy_of_persist_ok commit hdb with hold | rfl
      · exact .inl hold
      · exact .inr rfl
    · exact .inl hold
  case dropped job handle rowsRemoved db drop =>
    rcases makers_write hmaker with ⟨rfl, hread, hdb⟩ | hold
    · rw [(dropTableStatement_ok drop).1, hread] at hdb
      exact .inl ((List.eraseP_sublist.map Table.madeBy).subset hdb)
    · exact .inl hold
  case queried id incarnation handle =>
    rcases makers_write hmaker with ⟨rfl, hread, hdb⟩ | hold
    · rw [hread] at hdb
      rcases madeBy_retag hdb with hold | rfl
      · exact .inl hold
      · exact .inr rfl
    · exact .inl hold
  all_goals exact .inl hmaker

end Makers

/-! ## What a method has still to write -/

/-- The file that a method will write to is the one its first locked step answers, and it
    writes for that step's session. -/
theorem plan_writesFor {config : ScratchpadSessionConfig} {ρ : Type} {op : Op ρ} {plan : Plan ρ}
    (h : op.plan config = .ok plan) {incarnation : Text → Nat} {path : Path}
    {w : Path × Text × Nat} (hw : (plan.next incarnation path).writesFor = some w) :
    ∃ id, plan.call.target = some id ∧ w = (path, id, incarnation id) := by
  cases op with
  | ingestRowsWithMode raw tableName columns rows mode =>
      obtain ⟨_, _, h⟩ := bind_eq_ok.mp h
      obtain ⟨id, _, h⟩ := bind_eq_ok.mp h
      obtain ⟨_, _, h⟩ := bind_eq_ok.mp h
      obtain ⟨_, _, h⟩ := bind_eq_ok.mp h
      obtain rfl := pure_eq_ok.mp h
      exact ⟨id, rfl, (Option.some.inj hw).symm⟩
  | runGuarded raw sql toolkit cancelled =>
      obtain ⟨_, _, h⟩ := bind_eq_ok.mp h
      obtain ⟨_, _, h⟩ := bind_eq_ok.mp h
      obtain ⟨id, _, h⟩ := bind_eq_ok.mp h
      obtain rfl := pure_eq_ok.mp h
      exact ⟨id, rfl, (Option.some.inj hw).symm⟩
  | openSession raw =>
      obtain ⟨_, _, h⟩ := bind_eq_ok.mp h
      obtain rfl := pure_eq_ok.mp h
      cases hw
  | listTables raw limit =>
      obtain ⟨_, _, h⟩ := bind_eq_ok.mp h
      obtain ⟨_, _, h⟩ := bind_eq_ok.mp h
      obtain rfl := pure_eq_ok.mp h
      cases hw
  | dropTable raw tableName ifExists =>
      obtain ⟨_, _, h⟩ := bind_eq_ok.mp h
      obtain ⟨_, _, h⟩ := bind_eq_ok.mp h
      obtain rfl := pure_eq_ok.mp h
      cases hw
  | activeSessionCount | cleanupExpired =>
      obtain rfl := pure_eq_ok.mp h
      cases hw
  | sessionInfo | listSessions | noteTableCreated | noteRowsIngested | noteTableDropped |
      sessionSnapshot | releaseSession =>
      obtain ⟨_, _, h⟩ := bind_eq_ok.mp h
      obtain rfl := pure_eq_ok.mp h
      cases hw

section FreshSession

variable (config : ScratchpadSessionConfig) {n : Nat} {ρ : Type}

/-- The maker is a session that is live, in its present incarnation, and stands at the path. -/
def OfLive (s : Sys n ρ) (p : Path) (maker : Text × Nat) : Prop :=
  maker.1 ∈ s.manager.sessions ∧ config.sessionDbPath maker.1 = p ∧
    maker.2 = s.incarnation maker.1

/-- Every table on disk belongs to a live session, and to no earlier incarnation of it. -/
def NoLeftovers (s : Sys n ρ) : Prop :=
  ∀ p, ∀ t ∈ s.disk.tables p, OfLive config s p t.madeBy

/-- The methods run one after the other. -/
def OneAtATime (s : Sys n ρ) : Label n ρ → Prop
  | .start _ _ _ => s.Quiet
  | _ => True

/-- No locked step returns early while an expired session has tables. -/
def KeepsFiles (s : Sys n ρ) (label : Label n ρ) : Prop :=
  ∀ x ∈ s.lockedCall config label, x.2.ReturnsEarly config x.1 s.manager →
    ∀ id ∈ s.manager.sessions.keys, Expired config x.1 s.manager id →
      s.disk.tables (config.sessionDbPath id) = []

instance [DecidableEq ρ] (s : Sys n ρ) : (label : Label n ρ) → Decidable (OneAtATime s label)
  | .start _ _ _ => inferInstanceAs (Decidable s.Quiet)
  | .setMaxSessions _ | .setMaxTables _ | .remove _ | .engine _ _ | .finish _ _ => isTrue trivial

instance [DecidableEq ρ] (s : Sys n ρ) (label : Label n ρ) :
    Decidable (KeepsFiles config s label) :=
  inferInstanceAs (Decidable (∀ x ∈ s.lockedCall config label, _))

/-- At most one client is at work. A table belongs to a live session, or its file is about
    to be removed; what is still to be written belongs to a live session. -/
structure Clean (s : Sys n ρ) : Prop where
  placed : WellPlaced config s.manager
  single : ∀ c d, c ≠ d → s.clients c = .idle ∨ s.clients d = .idle
  tables : ∀ p, ∀ maker ∈ s.disk.makers p,
    (∃ c, p ∈ (s.clients c).pending) ∨ OfLive config s p maker
  jobs : ∀ c w, (s.clients c).next.writesFor = some w → OfLive config s w.1 w.2

variable {config}

/-- A locked step collects the file of a session that it takes out, or keeps the session. -/
theorem ofLive_locked {s : Sys n ρ} {clock : Clock} {c : Fin n} {plan : Plan ρ} {p : Path}
    {maker : Text × Nat} (hplaced : WellPlaced config s.manager)
    (hkeeps : plan.call.ReturnsEarly config clock s.manager →
      ¬ Expired config clock s.manager maker.1) (hlive : OfLive config s p maker) :
    p ∈ (plan.call.exec config clock s.manager).cleanup ∨
      OfLive config (s.locked config clock c plan) p maker := by
  obtain ⟨hmem, rfl, hincarnation⟩ := hlive
  have heffect := (exec_hasEffect clock plan.call hplaced).1
  by_cases hexp : Expired config clock s.manager maker.1
  · -- the session is taken out
    have hremoved : config.sessionDbPath maker.1 ∈ removedPaths config clock s.manager := by
      obtain ⟨entry, hlookup, hentry⟩ := expired_iff.mp hexp
      exact mem_removedPaths.mpr ⟨maker.1, entry, hlookup, hentry, hplaced _ _ hlookup⟩
    refine .inl ?_
    generalize (plan.call.exec config clock s.manager).manager = m at heffect
    generalize (plan.call.exec config clock s.manager).cleanup = cleanup at heffect ⊢
    cases heffect with
    | lost early => exact absurd hexp (hkeeps early)
    | kept => exact hremoved
    | opened => exact hremoved
    | closed => exact List.mem_append_left _ hremoved
  · have hpruned := mem_prunedSessions.mpr ⟨hmem, hexp⟩
    have hsame : maker.2 = s.incarnationAfter config clock plan.call maker.1 := by
      rw [incarnationAfter_of_mem hpruned, hincarnation]
    suffices h : config.sessionDbPath maker.1 ∈ (plan.call.exec config clock s.manager).cleanup ∨
        maker.1 ∈ (plan.call.exec config clock s.manager).manager.sessions from
      h.imp_right fun hlive => ⟨hlive, rfl, hsame⟩
    generalize (plan.call.exec config clock s.manager).manager = m at heffect ⊢
    generalize (plan.call.exec config clock s.manager).cleanup = cleanup at heffect ⊢
    cases heffect with
    | lost _ after => exact .inr ((after _).mpr hpruned)
    | kept after => exact .inr ((after _).mpr hpruned)
    | opened j _ after => exact .inr ((after _).mpr (.inr hpruned))
    | closed j _ _ after =>
        by_cases hj : maker.1 = j
        · exact .inl (List.mem_append_right _ (List.mem_singleton.mpr (hj ▸ rfl)))
        · exact .inr ((after _).mpr ⟨hj, hpruned⟩)

/-- A locked step of the only client at work. -/
theorem clean_locked {s : Sys n ρ} {clock : Clock} {c : Fin n} {plan : Plan ρ}
    (hs : Clean config s) (halone : ∀ d, d ≠ c → s.clients d = .idle)
    (hpending : (s.clients c).pending = [])
    (hkeeps : plan.call.ReturnsEarly config clock s.manager →
      ∀ id, Expired config clock s.manager id → s.disk.tables (config.sessionDbPath id) = [])
    (hplan : ∀ incarnation path w, (plan.next incarnation path).writesFor = some w →
      ∃ id, plan.call.target = some id ∧ w = (path, id, incarnation id)) :
    Clean config (s.locked config clock c plan) where
  placed := (exec_hasEffect clock plan.call hs.placed).2
  single a b hne := by
    by_cases ha : a = c
    · have hb : b ≠ c := fun hb => hne (ha.trans hb.symm)
      exact .inr ((locked_clients_ne hb).trans (halone b hb))
    · exact .inl ((locked_clients_ne ha).trans (halone a ha))
  tables p maker hmaker := by
    change maker ∈ s.disk.makers p at hmaker
    rcases hs.tables p maker hmaker with ⟨d, hd⟩ | hlive
    · -- nothing was pending before the step
      by_cases hdc : d = c
      · rw [hdc, hpending] at hd
        simp at hd
      · rw [halone d hdc] at hd
        simp [Client.idle] at hd
    · have hnotLost : plan.call.ReturnsEarly config clock s.manager →
          ¬ Expired config clock s.manager maker.1 := by
        intro hearly hexp
        have hnone := hkeeps hearly maker.1 hexp
        rw [hlive.2.1] at hnone
        simp [Disk.makers, hnone] at hmaker
      rcases ofLive_locked (c := c) hs.placed hnotLost hlive with hcleanup | hlive
      · exact .inl ⟨c, by rwa [locked_clients_self]⟩
      · exact .inr hlive
  jobs d w hw := by
    by_cases hdc : d = c
    · rw [hdc, locked_clients_self] at hw
      dsimp only at hw
      rcases nextAfter_cases s hs.placed clock plan with hidle | ⟨id, htarget, hlive, hnext⟩
      · rw [hidle] at hw
        cases hw
      · rw [hnext] at hw
        obtain ⟨j, hj, rfl⟩ := hplan _ _ w hw
        obtain rfl : id = j := Option.some.inj (htarget.symm.trans hj)
        exact ⟨hlive, rfl, rfl⟩
    · rw [locked_clients_ne hdc, halone d hdc] at hw
      cases hw

/-- Every step of a run without such early returns. -/
theorem clean_step [DecidableEq ρ] {s s' : Sys n ρ} {label : Label n ρ} (hs : Clean config s)
    (hone : OneAtATime s label) (hkeeps : KeepsFiles config s label)
    (h : (system config n).step s label = some s') : Clean config s' := by
  have halone : ∀ c, s.clients c ≠ .idle → ∀ d, d ≠ c → s.clients d = .idle :=
    fun c hc d hd => (hs.single d c hd).resolve_right hc
  cases stepped_of_step config h with
  | @limits _ m same _ =>
      have hlive : ∀ p maker, OfLive config s p maker →
          OfLive config { s with manager := m } p maker :=
        fun p maker hlive => ⟨same ▸ hlive.1, hlive.2⟩
      exact ⟨fun id entry hid => hs.placed id entry (same ▸ hid), hs.single,
        fun p maker hmaker => (hs.tables p maker hmaker).imp_right (hlive p maker),
        fun c w hw => hlive _ _ (hs.jobs c w hw)⟩
  | limitRefused => exact hs
  | refused => exact hs
  | started c op clock plan idle planned =>
      refine clean_locked hs (fun d _ => hone d) (by rw [idle]; rfl) ?_
        fun _ _ _ hw => plan_writesFor planned hw
      intro hearly id hexp
      refine hkeeps (clock, plan.call) ?_ hearly id (mem_of_expired hexp) hexp
      simp [Sys.lockedCall, planned]
  | removed c p rest pending =>
      have hc : s.clients c ≠ .idle := by
        intro hc
        rw [hc] at pending
        cases pending
      refine ⟨hs.placed, fun a b hne => ?_, fun q maker hmaker => ?_, fun d w hw => ?_⟩
      · by_cases ha : a = c
        · have hb : b ≠ c := fun hb => hne (ha.trans hb.symm)
          exact .inr ((removed_clients_ne hb).trans (halone c hc b hb))
        · exact .inl ((removed_clients_ne ha).trans (halone c hc a ha))
      · by_cases hq : q = p
        · subst hq
          simp [Sys.removed, Disk.makers, Disk.tables_remove_self] at hmaker
        · have hold : maker ∈ s.disk.makers q := by
            simpa only [Sys.removed, Disk.makers, Disk.tables_remove_ne _ hq] using hmaker
          rcases hs.tables q maker hold with ⟨d, hd⟩ | hlive
          · by_cases hdc : d = c
            · rw [hdc, pending] at hd
              refine .inl ⟨c, ?_⟩
              rw [removed_clients_self]
              exact (List.mem_cons.mp hd).resolve_left hq
            · exact .inl ⟨d, by rwa [removed_clients_ne hdc]⟩
          · exact .inr hlive
      · by_cases hdc : d = c
        · subst hdc
          rw [removed_clients_self] at hw
          exact hs.jobs d w hw
        · rw [removed_clients_ne hdc] at hw
          exact hs.jobs d w hw
  | worked c answer disk next pending work =>
      have hc : s.clients c ≠ .idle := fun hc => work.busy (by rw [hc]; rfl)
      refine ⟨hs.placed, fun a b hne => ?_, fun q maker hmaker => ?_, fun d w hw => ?_⟩
      · by_cases ha : a = c
        · have hb : b ≠ c := fun hb => hne (ha.trans hb.symm)
          exact .inr ((worked_clients_ne hb).trans (halone c hc b hb))
        · exact .inl ((worked_clients_ne ha).trans (halone c hc a ha))
      · rcases work.makers hmaker with hold | hwrites
        · rcases hs.tables q maker hold with ⟨d, hd⟩ | hlive
          · by_cases hdc : d = c
            · rw [hdc, pending] at hd
              cases hd
            · exact .inl ⟨d, by rwa [worked_clients_ne hdc]⟩
          · exact .inr hlive
        · exact .inr (hs.jobs c _ hwrites)
      · by_cases hdc : d = c
        · subst hdc
          rw [worked_clients_self] at hw
          exact hs.jobs d w (work.writesFor hw)
        · rw [worked_clients_ne hdc] at hw
          exact hs.jobs d w hw
  | finished c clock call pending todo =>
      have hc : s.clients c ≠ .idle := by
        intro hc
        rw [hc] at todo
        cases todo
      refine clean_locked hs (halone c hc) pending ?_ fun _ _ _ hw => by cases hw
      intro hearly id hexp
      refine hkeeps (clock, call) ?_ hearly id (mem_of_expired hexp) hexp
      simp [Sys.lockedCall, todo]

theorem clean_start : Clean config (Sys.start config : Sys n ρ) where
  placed id entry h := by simp [Sys.start, Manager.new] at h
  single c d _ := .inl rfl
  tables p maker h := by simp [Sys.start, Disk.makers, Disk.tables, Disk.empty] at h
  jobs c w h := by cases h

/-- **No leftovers**: whenever nothing is left to be removed, in a run of one method after
    the other and without an early return over an expired session's tables. -/
theorem noLeftovers_of_keepsFiles [DecidableEq ρ] {s : Sys n ρ}
    (h : (system config n).Reachable
      (fun s label => OneAtATime s label ∧ KeepsFiles config s label) s)
    (hcleaned : ∀ c, (s.clients c).pending = []) : NoLeftovers config s := by
  have hs : Clean config s :=
    h.inv clean_start fun _ _ _ hs hlabel hstep => clean_step hs hlabel.1 hlabel.2 hstep
  intro p t ht
  rcases hs.tables p t.madeBy (List.mem_map_of_mem ht) with ⟨c, hc⟩ | hlive
  · rw [hcleaned c] at hc
    cases hc
  · exact hlive

end FreshSession

/-- A session is opened and a table is loaded into it. -/
def openThenIngest : List (Label 1 Unit) :=
  [.start 0 (.openSession (text "s")) (.at 0), .engine 0 .fine, .finish 0 (.at 0),
    .start 0 (.ingestRowsWithMode (text "s") (text "t") [⟨text "a", text "string"⟩] [()] .create)
      (.at 1),
    .engine 0 .fine]

/-- When its time has passed it is opened again. -/
def openAgain (now : Nat) : List (Label 1 Unit) := [.start 0 (.openSession (text "s")) (.at now)]

theorem noLeftovers_openAgain :
    NoLeftovers defaultConfig (((system defaultConfig 1).runFrom (Sys.start defaultConfig)
      (openThenIngest ++ openAgain (1000 * 1000000000) ++ [.remove 0])).get (by decide +kernel)) :=
  noLeftovers_of_keepsFiles (Machine.reachable_get (by decide +kernel) (by decide +kernel))
    (by decide +kernel)

/-- In between comes an ingest, which finds the session expired and returns early. -/
def foundAgain : Sys 1 Unit :=
  ((system defaultConfig 1).runFrom (Sys.start defaultConfig) (openThenIngest ++
    [.start 0 (.ingestRowsWithMode (text "s") (text "t") [⟨text "a", text "string"⟩] [()] .append)
      (.at (1000 * 1000000000))] ++
    openAgain (1001 * 1000000000))).get (by decide +kernel)

theorem not_noLeftovers : ¬ ∀ s : Sys 1 Unit,
    (system defaultConfig 1).Reachable OneAtATime s → (∀ c, (s.clients c).pending = []) →
      NoLeftovers defaultConfig s := by
  intro h
  have hleft : NoLeftovers defaultConfig foundAgain :=
    h foundAgain (Machine.reachable_get (by decide +kernel) _) (by decide +kernel)
  -- the fresh entry is the second of its session, the table was made for the first
  have hmade := hleft (text "session-s.duckdb")
    ⟨text "t", [(text "a", text "VARCHAR")], [()], (text "s", 1)⟩ (by decide +kernel)
  exact absurd hmade.2.2 (by decide +kernel)

end Ga4Mcp.Scratchpad
