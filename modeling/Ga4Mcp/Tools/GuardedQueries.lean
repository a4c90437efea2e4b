/-
  The query tools see `run_guarded` as one function, with the error of the time limit as a
  parameter. The two threads behind it give exactly these answers.

  * `guarded_iff_runGuarded`: a call that has no cancel token can answer something, in some
    interleaving, if and only if `runGuarded` answers it, with the time limit noticed or not.
-/
import Ga4Mcp.Scratchpad.GuardedRun
import Ga4Mcp.Tools.ScratchpadQuery

namespace Ga4Mcp.Tools

open Ga4Mcp.Lib Ga4Mcp.SqlSafety Ga4Mcp.Scratchpad

variable {α : Type} (server : ScratchpadServer) (sessionId sql : Text)
  (execute : Connection → Except AnalyticsError α) (timeout : Nat)

/-- The call that a query tool makes, with the default hooks. -/
def ScratchpadServer.guardedCall (server : ScratchpadServer) (sql : Text) (timeout : Nat) :
    GuardedCall :=
  ⟨server.config, server.toolkit, Text.utf8 sql, ScratchpadExecutionHooks.new timeout⟩

/-- The session manager and the engine answer as the server says. -/
def EngineOf : GuardedRun α → GuardedStep α → Prop
  | _, .connect answer => answer = (server.openConnection sessionId).map fun _ => ()
  | _, .finish answer => ∀ conn, server.openConnection sessionId = .ok conn → answer = execute conn
  | _, _ => True

/-- What a call has answered. -/
def answerOf? (s : GuardedRun α) : Option (Except AnalyticsError α) :=
  match s.caller with
  | .refused err => some (.error err)
  | .returned _ _ outcome => some outcome
  | _ => none

/-- What the caller knows comes from the server. -/
def FromServer (s : GuardedRun α) : Prop :=
  match s.caller with
  | .entered | .opening => True
  | .refused err => guardSql server.config (Text.utf8 sql) server.toolkit = .error err ∨
      ((server.guardedCall sql timeout).Accepted ∧ server.openConnection sessionId = .error err)
  | .executing _ => ∃ conn, server.openConnection sessionId = .ok conn
  | .executed _ result =>
      ∃ conn, server.openConnection sessionId = .ok conn ∧ result = execute conn
  | .joining frame | .settling frame | .returned frame _ _ =>
      ∃ conn, server.openConnection sessionId = .ok conn ∧ frame.result = execute conn

variable {server sessionId sql execute timeout} {s s' : GuardedRun α}

/-- The default hooks have no token to cancel. -/
theorem cancelledAt_eq_none (h : (server.guardedCall sql timeout).Sound s) :
    s.cancelledAt = none := by
  cases hcancelled : s.cancelledAt with
  | none => rfl
  | some t => cases (h.cancelledBy t hcancelled).1

theorem fromServer_step {label : GuardedStep α} (hsound : (server.guardedCall sql timeout).Sound s)
    (h : FromServer server sessionId sql execute timeout s)
    (hserved : EngineOf server sessionId execute s label)
    (hstep : (server.guardedCall sql timeout).step s label = some s') :
    FromServer server sessionId sql execute timeout s' := by
  unfold FromServer at h
  cases guardedMove hstep with
  -- the default hooks have no cancel token
  | cancel token => cases token
  | check place =>
      rw [cancelledAt_eq_none hsound]
      unfold FromServer
      rcases afterCheck_cases α (server.guardedCall sql timeout) false with
        ⟨hopening, -⟩ | ⟨err, hrefused, hguard | hcancelled⟩
      · rw [Option.isSome_none, hopening]
        trivial
      · rw [Option.isSome_none, hrefused]
        exact .inl hguard
      · cases hcancelled
  | refuse err place =>
      have hopen : server.openConnection sessionId = .error err := by
        cases hconn : server.openConnection sessionId with
        | error err' =>
            rw [EngineOf, hconn] at hserved
            cases hserved
            rfl
        | ok conn => rw [EngineOf, hconn] at hserved; cases hserved
      exact .inr ⟨hsound.accepted (.inl place), hopen⟩
  | execute place =>
      cases hconn : server.openConnection sessionId with
      | error err => rw [EngineOf, hconn] at hserved; cases hserved
      | ok conn => exact ⟨conn, hconn⟩
  | finish result place =>
      rw [place] at h
      obtain ⟨conn, hconn⟩ := h
      exact ⟨conn, hconn, hserved conn hconn⟩
  | stop place => rw [place] at h; exact h
  | @join frame reason gone place =>
      rw [place] at h
      cases reason with
      | none => exact h
      | some reason => exact h
  | settle place => rw [place] at h; exact h
  | _ => exact h

theorem fromServer_of_reachable {now : Nat}
    (h : (guarded α (server.guardedCall sql timeout) now false).Reachable
      (EngineOf server sessionId execute) s) :
    FromServer server sessionId sql execute timeout s := by
  induction h with
  | start => trivial
  | step before meets taken ih =>
      exact fromServer_step (sound_of_reachable before) ih meets taken

/-! ## The answers of `runGuarded` -/

section Answers

variable (execute) (interruption : Option AnalyticsError)

theorem runGuarded_refused {err : AnalyticsError}
    (hguard : guardSql server.config (Text.utf8 sql) server.toolkit = .error err) :
    runGuarded { server with interruption } sessionId sql execute = .error err := by
  rw [runGuarded, hguard]
  rfl

theorem runGuarded_unopened {err : AnalyticsError}
    (hguard : guardSql server.config (Text.utf8 sql) server.toolkit = .ok ())
    (hconn : server.openConnection sessionId = .error err) :
    runGuarded { server with interruption } sessionId sql execute = .error err := by
  rw [runGuarded, hguard]
  dsimp only [Bind.bind, Except.bind]
  rw [hconn]

theorem runGuarded_opened {conn : Connection}
    (hguard : guardSql server.config (Text.utf8 sql) server.toolkit = .ok ())
    (hconn : server.openConnection sessionId = .ok conn) :
    runGuarded { server with interruption } sessionId sql execute =
      (interruption.map .error).getD (execute conn) := by
  rw [runGuarded, hguard]
  dsimp only [Bind.bind, Except.bind]
  rw [hconn]
  cases interruption with
  | none => rfl
  | some err => rfl

end Answers

/-- What the time limit can do to the answer. -/
def Interruption (timeout : Nat) (interruption : Option AnalyticsError) : Prop :=
  interruption = none ∨ (0 < timeout ∧ interruption = some (scratchpadQueryTimeout timeout))

/-- Each answer of the threads is one of `runGuarded`. -/
theorem runGuarded_of_guarded {now : Nat} {outcome : Except AnalyticsError α}
    (h : (guarded α (server.guardedCall sql timeout) now false).Reachable
      (EngineOf server sessionId execute) s)
    (hanswer : answerOf? s = some outcome) :
    ∃ interruption, Interruption timeout interruption ∧
      outcome = runGuarded { server with interruption } sessionId sql execute := by
  have hserver := fromServer_of_reachable h
  unfold FromServer at hserver
  unfold answerOf? at hanswer
  split at hanswer
  case h_1 err place =>
      cases hanswer
      rw [place] at hserver
      refine ⟨none, .inl rfl, ?_⟩
      rcases hserver with hguard | ⟨hguard, hconn⟩
      · exact (runGuarded_refused execute none hguard).symm
      · exact (runGuarded_unopened execute none hguard hconn).symm
  case h_2 frame time outcome' place =>
      cases hanswer
      rw [place] at hserver
      obtain ⟨conn, hconn, hresult⟩ := hserver
      have hreach := h.mono (fun _ _ _ => trivial : ∀ s label, _ → Machine.anyStep s label)
      obtain ⟨hguard, hanswered⟩ := answered_of_sound (sound_of_reachable hreach) place
      have htimeout := runGuarded_opened execute (some (scratchpadQueryTimeout timeout)) hguard hconn
      cases hanswered with
      | result =>
          have hplain := runGuarded_opened execute none hguard hconn
          exact ⟨none, .inl rfl, hresult.trans hplain.symm⟩
      | late _ limited => exact ⟨_, .inr ⟨limited, rfl⟩, htimeout.symm⟩
      | interrupted reason t _ _ _ cause =>
          cases reason with
          | timeout => exact ⟨_, .inr ⟨cause.1, rfl⟩, htimeout.symm⟩
          | cancelled =>
              obtain ⟨t', -, hset⟩ := cause
              rw [cancelledAt_eq_none (sound_of_reachable hreach)] at hset
              cases hset
  case h_3 => cases hanswer

/-! ## Each answer of `runGuarded` is one of the threads -/

section Threads

variable (now : Nat)

/-- A run of the caller alone, before `execute`. -/
theorem guarded_refused {err : AnalyticsError}
    (hguard : guardSql server.config (Text.utf8 sql) server.toolkit = .error err) :
    ∃ s, (guarded α (server.guardedCall sql timeout) now false).Reachable
      (EngineOf server sessionId execute) s ∧ answerOf? s = some (.error err) := by
  have hcheck : ((server.guardedCall sql timeout).afterCheck false : Caller α) = .refused err := by
    rcases afterCheck_cases α (server.guardedCall sql timeout) false with
      ⟨-, haccepted, -⟩ | ⟨err', hrefused, hguard' | hcancelled⟩
    · cases hguard.symm.trans haccepted
    · cases hguard.symm.trans hguard'
      exact hrefused
    · cases hcancelled
  have hrun : (guarded α (server.guardedCall sql timeout) now false).step
      (guarded α (server.guardedCall sql timeout) now false).start .check =
        some ⟨now, none, false, [], .refused err, .absent⟩ := by
    simp [guarded, GuardedCall.step, GuardedCall.callerStep, hcheck]
  have hserved : EngineOf server sessionId execute
      (guarded α (server.guardedCall sql timeout) now false).start .check := trivial
  exact ⟨_, .step .start hserved hrun, rfl⟩

theorem guarded_unopened {err : AnalyticsError}
    (hguard : guardSql server.config (Text.utf8 sql) server.toolkit = .ok ())
    (hconn : server.openConnection sessionId = .error err) :
    ∃ s, (guarded α (server.guardedCall sql timeout) now false).Reachable
      (EngineOf server sessionId execute) s ∧ answerOf? s = some (.error err) := by
  have hcheck : ((server.guardedCall sql timeout).afterCheck false : Caller α) = .opening := by
    rcases afterCheck_cases α (server.guardedCall sql timeout) false with
      ⟨hopening, -⟩ | ⟨err', -, hguard' | hcancelled⟩
    · exact hopening
    · cases hguard.symm.trans hguard'
    · cases hcancelled
  have hrun : (guarded α (server.guardedCall sql timeout) now false).runFrom
      (guarded α (server.guardedCall sql timeout) now false).start
      [.check, .connect (.error err)] = some ⟨now, none, false, [], .refused err, .absent⟩ := by
    simp [Machine.runFrom, guarded, GuardedCall.step, GuardedCall.callerStep, hcheck,
      GuardedCall.opened]
  have hserved : ∀ label ∈ ([.check, .connect (.error err)] : List (GuardedStep α)),
      ∀ s, EngineOf server sessionId execute s label := by
    intro label hmem s
    rcases List.mem_pair.mp hmem with rfl | rfl
    · trivial
    · rw [EngineOf, hconn]
      rfl
  exact ⟨_, Machine.reachable_of_runFrom .start (Machine.guardedFrom_of_forall _ hserved) hrun, rfl⟩

theorem guarded_opened {conn : Connection}
    (hguard : guardSql server.config (Text.utf8 sql) server.toolkit = .ok ())
    (hconn : server.openConnection sessionId = .ok conn) {interruption : Option AnalyticsError}
    (hinterruption : Interruption timeout interruption) :
    ∃ s, (guarded α (server.guardedCall sql timeout) now false).Reachable
      (EngineOf server sessionId execute) s ∧
        answerOf? s = some ((interruption.map .error).getD (execute conn)) := by
  have hserves : ∀ (s : GuardedRun α) (label : GuardedStep α), label.Serves (execute conn) →
      EngineOf server sessionId execute s label := by
    intro s label hserved
    cases label with
    | connect answer => rw [EngineOf, hconn]; exact hserved
    | finish answer =>
        intro conn' hconn'
        cases hconn.symm.trans hconn'
        exact hserved
    | _ => trivial
  have haccepted : (server.guardedCall sql timeout).Accepted := hguard
  rcases hinterruption with rfl | ⟨hlimited, rfl⟩
  · obtain ⟨s, hreach, hreturned⟩ := result_possible now (execute conn) haccepted
    exact ⟨s, hreach.mono hserves, by rw [answerOf?, hreturned]; rfl⟩
  · obtain ⟨s, hreach, hreturned⟩ := timeout_possible now (execute conn) haccepted hlimited
    exact ⟨s, hreach.mono hserves, by rw [answerOf?, hreturned]; rfl⟩

/-- **The two threads refine `runGuarded`.** -/
theorem guarded_iff_runGuarded (server : ScratchpadServer) (sessionId sql : Text)
    (execute : Connection → Except AnalyticsError α) (timeout now : Nat)
    (outcome : Except AnalyticsError α) :
    (∃ s, (guarded α (server.guardedCall sql timeout) now false).Reachable
      (EngineOf server sessionId execute) s ∧ answerOf? s = some outcome) ↔
      ∃ interruption, Interruption timeout interruption ∧
        outcome = runGuarded { server with interruption } sessionId sql execute := by
  constructor
  · rintro ⟨s, hreach, hanswer⟩
    exact runGuarded_of_guarded hreach hanswer
  · rintro ⟨interruption, hinterruption, rfl⟩
    cases hguard : guardSql server.config (Text.utf8 sql) server.toolkit with
    | error err =>
        rw [runGuarded_refused execute interruption hguard]
        exact guarded_refused now hguard
    | ok =>
        cases hconn : server.openConnection sessionId with
        | error err =>
            rw [runGuarded_unopened execute interruption hguard hconn]
            exact guarded_unopened now hguard hconn
        | ok conn =>
            rw [runGuarded_opened execute interruption hguard hconn]
            exact guarded_opened now hguard hconn hinterruption

end Threads

end Ga4Mcp.Tools
