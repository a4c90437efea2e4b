/-
  `run_guarded` of `src/scratchpad.rs` and its interrupt watcher: two threads, the cancel
  token, the stop flag and the clock.

  A step of the machine is one access of a thread to what it shares with others: a load or
  a store of a flag, a reading of the clock, a call of the engine. `tick` lets time pass and
  `cancel` is the holder of the token. What the engine answers is arbitrary.

  * `step_sound`: what every step keeps, whichever thread takes it.
  * `sound_of_reachable`: it holds at every point of every interleaving.

  The watcher's panic is left out (its body cannot), and so are the events of the log.
-/
import Ga4Mcp.Lib.Machine
import Ga4Mcp.Scratchpad.System

namespace Ga4Mcp.Scratchpad

open Ga4Mcp.Lib Ga4Mcp.SqlSafety

/-! ## Hooks -/

/-- Durations are in nanoseconds. The flag of the cancel token is part of the run. -/
structure ScratchpadExecutionHooks where
  timeout : Nat
  cancelToken : Bool
  interruptPollInterval : Nat
deriving DecidableEq, Repr

/-- Milliseconds in nanoseconds. -/
def millis (ms : Nat) : Nat := ms * 1000000

/-- Between two polls, unless set otherwise. -/
def defaultInterruptPollIntervalMs : Nat := 5

/-- Hooks without a cancel token. -/
def ScratchpadExecutionHooks.new (timeout : Nat) : ScratchpadExecutionHooks :=
  ⟨timeout, false, millis defaultInterruptPollIntervalMs⟩

/-- The same with one. -/
def ScratchpadExecutionHooks.withCancelToken (hooks : ScratchpadExecutionHooks) :
    ScratchpadExecutionHooks :=
  { hooks with cancelToken := true }

/-- The same with another interval; zero stands for the default. -/
def ScratchpadExecutionHooks.withInterruptPollInterval (interval : Nat)
    (hooks : ScratchpadExecutionHooks) : ScratchpadExecutionHooks :=
  { hooks with
    interruptPollInterval :=
      if interval = 0 then millis defaultInterruptPollIntervalMs else interval }

/-- Why the watcher interrupts the engine. -/
inductive InterruptReason where
  | timeout
  | cancelled
deriving DecidableEq, Repr

/-- The error of a timeout, in milliseconds. -/
def scratchpadQueryTimeout (timeout : Nat) : AnalyticsError :=
  .scratchpadQueryTimeout (min (timeout / 1000000) (2 ^ 64 - 1))

/-- The error that stands for an interrupt. -/
def InterruptReason.error (hooks : ScratchpadExecutionHooks) : InterruptReason → AnalyticsError
  | .timeout => scratchpadQueryTimeout hooks.timeout
  | .cancelled => .scratchpadQueryCancelled

/-! ## The two threads -/

/-- What `run_guarded` knows when `execute` has returned. `stopped` is when it has set the
    stop flag. -/
structure Frame (α : Type) where
  started : Nat
  result : Except AnalyticsError α
  stopped : Nat

/-- Where the calling thread is. -/
inductive Caller (α : Type) where
  | entered
  | opening
  | executing (started : Nat)
  | executed (started : Nat) (result : Except AnalyticsError α)
  | joining (frame : Frame α)
  | settling (frame : Frame α)
  /-- It returned before `execute`. -/
  | refused (err : AnalyticsError)
  /-- It returned at a time; the frame is kept for the statements. -/
  | returned (frame : Frame α) (time : Nat) (outcome : Except AnalyticsError α)

/-- Where the watcher is; `since` is its own `started`. -/
inductive Watcher where
  | absent
  | spawned
  | atStop (since : Nat)
  | atCancel (since : Nat)
  | atTimeout (since : Nat)
  | asleep (since wake : Nat)
  | interrupting (reason : InterruptReason)
  | ended (reason : Option InterruptReason)
deriving DecidableEq, Repr

/-- What `join` answers, once the watcher is gone. -/
def Watcher.joined? : Watcher → Option (Option InterruptReason)
  | .absent => some none
  | .ended reason => some reason
  | _ => none

/-- The state of a call: the clock, the flags, and both threads. -/
structure GuardedRun (α : Type) where
  now : Nat
  /-- When the cancel token was set, counting from the beginning of the call. -/
  cancelledAt : Option Nat
  stopFlag : Bool
  /-- When the watcher has interrupted the engine. -/
  interrupts : List Nat
  caller : Caller α
  watcher : Watcher

/-- One call of `run_guarded`. -/
structure GuardedCall where
  config : ScratchpadSessionConfig
  toolkit : Toolkit
  sql : List UInt8
  hooks : ScratchpadExecutionHooks

/-- A step of a call. -/
inductive GuardedStep (α : Type) where
  | tick (passed : Nat)
  | cancel
  | check
  | connect (opened : Except AnalyticsError Unit)
  | finish (result : Except AnalyticsError α)
  | stop
  | join
  | settle
  | watch

namespace GuardedCall

variable {α : Type} (call : GuardedCall)

/-- The SQL policy, then the cancel token. -/
def afterCheck (cancelled : Bool) : Caller α :=
  match guardSql call.config call.sql call.toolkit with
  | .error err => .refused err
  | .ok () => if cancelled then .refused .scratchpadQueryCancelled else .opening

/-- A watcher is there when it has something to watch for. -/
def watcherAtStart : Watcher :=
  if 0 < call.hooks.timeout ∨ call.hooks.cancelToken then .spawned else .absent

/-- The connection is opened, and `execute` begins. -/
def opened (s : GuardedRun α) : Except AnalyticsError Unit → GuardedRun α
  | .error err => { s with caller := .refused err }
  | .ok () => { s with caller := .executing s.now, watcher := call.watcherAtStart }

/-- The caller after `join`, when the watcher has ended. -/
def afterJoin (now : Nat) (frame : Frame α) : Option InterruptReason → Caller α
  | some reason => .returned frame now (.error (reason.error call.hooks))
  | none => .settling frame

/-- The check of the elapsed time after the join. -/
def settled (now : Nat) (frame : Frame α) : Except AnalyticsError α :=
  if 0 < call.hooks.timeout ∧ call.hooks.timeout < now - frame.started then
    .error (scratchpadQueryTimeout call.hooks.timeout)
  else frame.result

/-- The next step of the caller. -/
def callerStep (s : GuardedRun α) : GuardedStep α → Option (GuardedRun α)
  | .check =>
      match s.caller with
      | .entered => some { s with caller := call.afterCheck s.cancelledAt.isSome }
      | _ => none
  | .connect answer =>
      match s.caller with
      | .opening => some (call.opened s answer)
      | _ => none
  | .finish result =>
      match s.caller with
      | .executing started => some { s with caller := .executed started result }
      | _ => none
  | .stop =>
      match s.caller with
      | .executed started result =>
          some { s with caller := .joining ⟨started, result, s.now⟩, stopFlag := true }
      | _ => none
  | .join =>
      match s.caller with
      | .joining frame =>
          s.watcher.joined?.map fun reason => { s with caller := call.afterJoin s.now frame reason }
      | _ => none
  | .settle =>
      match s.caller with
      | .settling frame =>
          some { s with caller := .returned frame s.now (call.settled s.now frame) }
      | _ => none
  | _ => none

/-- One step of the loop of `spawn_interrupt_watcher`. -/
def watcherStep (s : GuardedRun α) : Option (GuardedRun α) :=
  match s.watcher with
  | .spawned => some { s with watcher := .atStop s.now }
  | .atStop since =>
      some { s with watcher := if s.stopFlag then .ended none else .atCancel since }
  | .atCancel since =>
      some { s with
        watcher := if s.cancelledAt.isSome then .interrupting .cancelled else .atTimeout since }
  | .atTimeout since =>
      some { s with
        watcher :=
          if 0 < call.hooks.timeout ∧ call.hooks.timeout ≤ s.now - since then
            .interrupting .timeout
          else .asleep since (s.now + call.hooks.interruptPollInterval) }
  | .asleep since wake => if wake ≤ s.now then some { s with watcher := .atStop since } else none
  | .interrupting reason =>
      some { s with watcher := .ended (some reason), interrupts := s.now :: s.interrupts }
  | .absent | .ended _ => none

/-- One step, where it may be taken. -/
def step (s : GuardedRun α) : GuardedStep α → Option (GuardedRun α)
  | .tick passed => some { s with now := s.now + passed }
  | .cancel =>
      if call.hooks.cancelToken then
        some { s with cancelledAt := s.cancelledAt.or (some s.now) }
      else none
  | .watch => call.watcherStep s
  | label => call.callerStep s label

end GuardedCall

/-- The runs of a call that begins at a time, with its token set before that or not. -/
def guarded (α : Type) (call : GuardedCall) (now : Nat) (cancelled : Bool) :
    Machine (GuardedRun α) (GuardedStep α) where
  start :=
    { now, cancelledAt := if call.hooks.cancelToken ∧ cancelled then some now else none,
      stopFlag := false, interrupts := [], caller := .entered, watcher := .absent }
  step := call.step

/-! ## What a step can do -/

section Moves

variable {α : Type} (call : GuardedCall) (s : GuardedRun α)

/-- What a step may do, one case for each kind. -/
inductive GuardedMove : GuardedStep α → GuardedRun α → Prop where
  | tick (passed : Nat) : GuardedMove (.tick passed) { s with now := s.now + passed }
  | cancel (token : call.hooks.cancelToken = true) :
      GuardedMove .cancel { s with cancelledAt := s.cancelledAt.or (some s.now) }
  | check (place : s.caller = .entered) :
      GuardedMove .check { s with caller := call.afterCheck s.cancelledAt.isSome }
  | refuse (err : AnalyticsError) (place : s.caller = .opening) :
      GuardedMove (.connect (.error err)) { s with caller := .refused err }
  | execute (place : s.caller = .opening) :
      GuardedMove (.connect (.ok ()))
        { s with caller := .executing s.now, watcher := call.watcherAtStart }
  | finish {started : Nat} (result : Except AnalyticsError α)
      (place : s.caller = .executing started) :
      GuardedMove (.finish result) { s with caller := .executed started result }
  | stop {started : Nat} {result : Except AnalyticsError α}
      (place : s.caller = .executed started result) :
      GuardedMove .stop
        { s with caller := .joining ⟨started, result, s.now⟩, stopFlag := true }
  | join {frame : Frame α} {reason : Option InterruptReason}
      (gone : s.watcher.joined? = some reason) (place : s.caller = .joining frame) :
      GuardedMove .join { s with caller := call.afterJoin s.now frame reason }
  | settle {frame : Frame α} (place : s.caller = .settling frame) :
      GuardedMove .settle { s with caller := .returned frame s.now (call.settled s.now frame) }
  | begin (place : s.watcher = .spawned) : GuardedMove .watch { s with watcher := .atStop s.now }
  | lookAtStop {since : Nat} (place : s.watcher = .atStop since) :
      GuardedMove .watch
        { s with watcher := if s.stopFlag then .ended none else .atCancel since }
  | lookAtCancel {since : Nat} (place : s.watcher = .atCancel since) :
      GuardedMove .watch
        { s with
          watcher := if s.cancelledAt.isSome then .interrupting .cancelled else .atTimeout since }
  | timedOut {since : Nat} (place : s.watcher = .atTimeout since)
      (due : 0 < call.hooks.timeout ∧ call.hooks.timeout ≤ s.now - since) :
      GuardedMove .watch { s with watcher := .interrupting .timeout }
  | sleep {since : Nat} (place : s.watcher = .atTimeout since)
      (early : ¬ (0 < call.hooks.timeout ∧ call.hooks.timeout ≤ s.now - since)) :
      GuardedMove .watch
        { s with watcher := .asleep since (s.now + call.hooks.interruptPollInterval) }
  | wake {since wake : Nat} (place : s.watcher = .asleep since wake) (due : wake ≤ s.now) :
      GuardedMove .watch { s with watcher := .atStop since }
  | interrupt {reason : InterruptReason} (place : s.watcher = .interrupting reason) :
      GuardedMove .watch
        { s with watcher := .ended (some reason), interrupts := s.now :: s.interrupts }

variable {call s}

theorem watcherMove {s' : GuardedRun α} (h : call.watcherStep s = some s') :
    GuardedMove call s .watch s' := by
  unfold GuardedCall.watcherStep at h
  split at h
  case h_1 place => cases h; exact .begin place
  case h_2 since place => cases h; exact .lookAtStop place
  case h_3 since place => cases h; exact .lookAtCancel place
  case h_4 since place =>
      split at h
      · next due => cases h; exact .timedOut place due
      · next early => cases h; exact .sleep place early
  case h_5 since wake place =>
      split at h
      · next due => cases h; exact .wake place due
      · cases h
  case h_6 reason place => cases h; exact .interrupt place
  case h_7 => cases h
  case h_8 => cases h

theorem callerMove {s' : GuardedRun α} {label : GuardedStep α}
    (h : call.callerStep s label = some s') : GuardedMove call s label s' := by
  unfold GuardedCall.callerStep at h
  split at h
  case h_1 =>
      split at h
      · next place => cases h; exact .check place
      · cases h
  case h_2 answer =>
      split at h
      · next place =>
          cases h
          cases answer with
          | error err => exact .refuse err place
          | ok => exact .execute place
      · cases h
  case h_3 result =>
      split at h
      · next place => cases h; exact .finish result place
      · cases h
  case h_4 =>
      split at h
      · next place => cases h; exact .stop place
      · cases h
  case h_5 =>
      split at h
      · next place =>
          obtain ⟨reason, gone, rfl⟩ := Option.map_eq_some_iff.mp h
          exact .join gone place
      · cases h
  case h_6 =>
      split at h
      · next place => cases h; exact .settle place
      · cases h
  case h_7 => cases h

/-- Every step of the machine is one of the moves. -/
theorem guardedMove {s' : GuardedRun α} {label : GuardedStep α}
    (h : call.step s label = some s') : GuardedMove call s label s' := by
  cases label with
  | tick passed => cases h; exact .tick passed
  | cancel =>
      rw [GuardedCall.step] at h
      split at h
      · next token => cases h; exact .cancel token
      · cases h
  | watch => exact watcherMove h
  | _ => exact callerMove h

end Moves

/-! ## What every step keeps -/

section Sound

variable {α : Type} (call : GuardedCall)

/-- When `execute` was called. -/
def Caller.started? : Caller α → Option Nat
  | .executing started | .executed started _ => some started
  | .joining frame | .settling frame | .returned frame _ _ => some frame.started
  | .entered | .opening | .refused _ => none

/-- There is a reason for an interrupt at a time. -/
def GuardedCall.Cause (s : GuardedRun α) (time : Nat) : InterruptReason → Prop
  | .cancelled => ∃ t ≤ time, s.cancelledAt = some t
  | .timeout => 0 < call.hooks.timeout ∧
      ∃ started, s.caller.started? = some started ∧ started + call.hooks.timeout ≤ time

/-- `execute` was called, and not after a time. -/
def GuardedRun.StartedBy (s : GuardedRun α) (time : Nat) : Prop :=
  ∃ started ≤ time, s.caller.started? = some started

/-- What holds at each place of the watcher. -/
def GuardedCall.WatcherSound (s : GuardedRun α) : Prop :=
  match s.watcher with
  | .absent => s.interrupts = []
  | .spawned => s.interrupts = [] ∧ s.StartedBy s.now
  | .atStop since | .atCancel since | .atTimeout since | .asleep since _ =>
      s.interrupts = [] ∧ since ≤ s.now ∧ s.StartedBy since
  | .interrupting reason => s.interrupts = [] ∧ s.StartedBy s.now ∧ call.Cause s s.now reason
  | .ended none => s.interrupts = [] ∧ s.stopFlag = true
  | .ended (some reason) =>
      ∃ t ≤ s.now, s.interrupts = [t] ∧ s.StartedBy t ∧ call.Cause s t reason

/-- What holds at each place of the caller. -/
def GuardedCall.CallerSound (s : GuardedRun α) : Prop :=
  match s.caller with
  | .entered | .opening | .refused _ => s.watcher = .absent ∧ s.stopFlag = false
  | .executing started | .executed started _ => started ≤ s.now ∧ s.stopFlag = false
  | .joining frame =>
      frame.started ≤ frame.stopped ∧ frame.stopped ≤ s.now ∧ s.stopFlag = true
  | .settling frame =>
      (frame.started ≤ frame.stopped ∧ frame.stopped ≤ s.now) ∧ s.watcher.joined? = some none
  | .returned frame time outcome =>
      (frame.started ≤ frame.stopped ∧ frame.stopped ≤ time ∧ time ≤ s.now) ∧
        ((s.watcher.joined? = some none ∧ outcome = call.settled time frame) ∨
          ∃ reason, s.watcher.joined? = some (some reason) ∧
            outcome = .error (reason.error call.hooks) ∧ ∀ t ∈ s.interrupts, t ≤ time)

/-- The SQL passed the policy. -/
def GuardedCall.Accepted : Prop := guardSql call.config call.sql call.toolkit = .ok ()

/-- What holds at every point of a call. -/
structure GuardedCall.Sound (s : GuardedRun α) : Prop where
  watcher : call.WatcherSound s
  caller : call.CallerSound s
  cancelledBy : ∀ t, s.cancelledAt = some t → call.hooks.cancelToken = true ∧ t ≤ s.now
  accepted : s.caller = .opening ∨ s.caller.started?.isSome → call.Accepted
  watched : s.caller.started?.isSome → (s.watcher = .absent ↔ call.watcherAtStart = .absent)

variable {call} {s s' : GuardedRun α}

/-- A cause stays one while time passes and the token stays set. -/
theorem GuardedCall.Cause.mono {time time' : Nat} {reason : InterruptReason}
    (h : call.Cause s time reason) (htime : time ≤ time')
    (hcancelled : ∀ t, s.cancelledAt = some t → s'.cancelledAt = some t)
    (hstarted : ∀ t, s.caller.started? = some t → s'.caller.started? = some t) :
    call.Cause s' time' reason := by
  cases reason with
  | timeout =>
      obtain ⟨hpos, started, hcaller, hdue⟩ := h
      exact ⟨hpos, started, hstarted _ hcaller, hdue.trans htime⟩
  | cancelled =>
      obtain ⟨t, ht, hset⟩ := h
      exact ⟨t, ht.trans htime, hcancelled _ hset⟩

theorem GuardedRun.StartedBy.mono {time time' : Nat} (h : s.StartedBy time) (htime : time ≤ time')
    (hstarted : ∀ t, s.caller.started? = some t → s'.caller.started? = some t) :
    s'.StartedBy time' := by
  obtain ⟨started, hle, hcaller⟩ := h
  exact ⟨started, hle.trans htime, hstarted _ hcaller⟩

/-- The watcher's part is kept by what others do. -/
theorem watcherSound_mono (h : call.WatcherSound s) (hwatcher : s'.watcher = s.watcher)
    (hinterrupts : s'.interrupts = s.interrupts) (hnow : s.now ≤ s'.now)
    (hstop : s.stopFlag = true → s'.stopFlag = true)
    (hcancelled : ∀ t, s.cancelledAt = some t → s'.cancelledAt = some t)
    (hstarted : ∀ t, s.caller.started? = some t → s'.caller.started? = some t) :
    call.WatcherSound s' := by
  unfold GuardedCall.WatcherSound at h ⊢
  rw [hwatcher, hinterrupts]
  split at h
  case h_1 => exact h
  case h_2 => exact ⟨h.1, h.2.mono hnow hstarted⟩
  case h_7 => exact ⟨h.1, h.2.1.mono hnow hstarted, h.2.2.mono hnow hcancelled hstarted⟩
  case h_8 => exact ⟨h.1, hstop h.2⟩
  case h_9 =>
      obtain ⟨t, ht, hlist, hby, hcause⟩ := h
      exact ⟨t, ht.trans hnow, hlist, hby.mono le_rfl hstarted,
        hcause.mono le_rfl hcancelled hstarted⟩
  all_goals exact ⟨h.1, h.2.1.trans hnow, h.2.2.mono le_rfl hstarted⟩

/-- The caller's part is kept by what others do. -/
theorem callerSound_mono (h : call.CallerSound s) (hcaller : s'.caller = s.caller)
    (hstop : s'.stopFlag = s.stopFlag) (hnow : s.now ≤ s'.now)
    (habsent : s.watcher = .absent → s'.watcher = .absent)
    (hjoined : ∀ reason, s.watcher.joined? = some reason →
      s'.watcher.joined? = some reason ∧ s'.interrupts = s.interrupts) :
    call.CallerSound s' := by
  unfold GuardedCall.CallerSound at h ⊢
  rw [hcaller, hstop]
  split at h
  case h_1 => exact ⟨habsent h.1, h.2⟩
  case h_2 => exact ⟨habsent h.1, h.2⟩
  case h_3 => exact ⟨habsent h.1, h.2⟩
  case h_4 => exact ⟨h.1.trans hnow, h.2⟩
  case h_5 => exact ⟨h.1.trans hnow, h.2⟩
  case h_6 => exact ⟨h.1, h.2.1.trans hnow, h.2.2⟩
  case h_7 => exact ⟨⟨h.1.1, h.1.2.trans hnow⟩, (hjoined _ h.2).1⟩
  case h_8 =>
      refine ⟨⟨h.1.1, h.1.2.1, h.1.2.2.trans hnow⟩, ?_⟩
      rcases h.2 with ⟨hjoin, houtcome⟩ | ⟨reason, hjoin, houtcome, htimes⟩
      · exact .inl ⟨(hjoined _ hjoin).1, houtcome⟩
      · obtain ⟨hjoin', hinterrupts⟩ := hjoined _ hjoin
        exact .inr ⟨reason, hjoin', houtcome, by rwa [hinterrupts]⟩

/-- A watcher that is somewhere in its loop is not gone. -/
theorem watcherMove_place {s' : GuardedRun α} (h : GuardedMove call s .watch s') :
    s.watcher ≠ .absent ∧ s'.watcher ≠ .absent ∧ s.watcher.joined? = none ∧
      s'.caller = s.caller ∧ s'.stopFlag = s.stopFlag ∧ s'.now = s.now ∧
      s'.cancelledAt = s.cancelledAt := by
  cases h with
  | lookAtStop place => split <;> simp [place, Watcher.joined?]
  | lookAtCancel place => split <;> simp [place, Watcher.joined?]
  | _ place => simp [place, Watcher.joined?]

theorem interrupts_le_now (h : call.WatcherSound s) : ∀ t ∈ s.interrupts, t ≤ s.now := by
  unfold GuardedCall.WatcherSound at h
  split at h
  case h_1 => simp [h]
  case h_9 =>
      obtain ⟨t, ht, hlist, -⟩ := h
      rw [hlist]
      exact fun t' ht' => (List.mem_singleton.mp ht').le.trans ht
  all_goals simp [h.1]

/-- The loop of the watcher keeps its own part. -/
theorem watcherSound_watch (h : call.WatcherSound s)
    (hcancelledBy : ∀ t, s.cancelledAt = some t → call.hooks.cancelToken = true ∧ t ≤ s.now)
    (hmove : GuardedMove call s .watch s') : call.WatcherSound s' := by
  unfold GuardedCall.WatcherSound at h
  cases hmove with
  | begin place => rw [place] at h; exact ⟨h.1, le_rfl, h.2⟩
  | @lookAtStop since place =>
      rw [place] at h
      unfold GuardedCall.WatcherSound
      cases hstop : s.stopFlag with
      | true => exact ⟨h.1, rfl⟩
      | false => exact h
  | @lookAtCancel since place =>
      rw [place] at h
      unfold GuardedCall.WatcherSound
      cases hcancelled : s.cancelledAt with
      | none => exact h
      | some t =>
          exact ⟨h.1, h.2.2.mono h.2.1 fun _ => id, t, (hcancelledBy t hcancelled).2, rfl⟩
  | @timedOut since place due =>
      rw [place] at h
      obtain ⟨hnone, -, started, hle, hcaller⟩ := h
      have hdue : started + call.hooks.timeout ≤ s.now := by omega
      exact ⟨hnone, ⟨started, (Nat.le_add_right _ _).trans hdue, hcaller⟩, due.1, started, hcaller,
        hdue⟩
  | @sleep since place early => rw [place] at h; exact h
  | wake place due => rw [place] at h; exact h
  | @interrupt reason place =>
      rw [place] at h
      exact ⟨s.now, le_rfl, congrArg _ h.1, h.2⟩

theorem watch_sound (h : call.Sound s) (hmove : GuardedMove call s .watch s') :
    call.Sound s' := by
  obtain ⟨hpresent, hpresent', hgone, hcaller, hstop, hnow, hcancelled⟩ :=
    watcherMove_place hmove
  refine ⟨watcherSound_watch h.watcher h.cancelledBy hmove, ?_, ?_, ?_, ?_⟩
  · exact callerSound_mono h.caller hcaller hstop hnow.ge (fun habsent => absurd habsent hpresent)
      fun reason hjoin => by rw [hgone] at hjoin; cases hjoin
  · rw [hcancelled, hnow]; exact h.cancelledBy
  · rw [hcaller]; exact h.accepted
  · rw [hcaller]
    intro hstarted
    exact iff_of_false hpresent' (mt (h.watched hstarted).mpr hpresent)

/-- The two kinds of steps that no thread takes. -/
theorem tick_sound (h : call.Sound s) (passed : Nat) :
    call.Sound { s with now := s.now + passed } where
  watcher := watcherSound_mono h.watcher rfl rfl (Nat.le_add_right _ _) id (fun _ => id)
    fun _ => id
  caller := callerSound_mono h.caller rfl rfl (Nat.le_add_right _ _) id
    fun _ hjoin => ⟨hjoin, rfl⟩
  cancelledBy t ht := ⟨(h.cancelledBy t ht).1, Nat.le_add_right_of_le (h.cancelledBy t ht).2⟩
  accepted := h.accepted
  watched := h.watched

theorem cancel_sound (h : call.Sound s) (token : call.hooks.cancelToken = true) :
    call.Sound { s with cancelledAt := s.cancelledAt.or (some s.now) } where
  watcher := watcherSound_mono h.watcher rfl rfl le_rfl id
    (fun t ht => by simp [ht]) fun _ => id
  caller := callerSound_mono h.caller rfl rfl le_rfl id fun _ hjoin => ⟨hjoin, rfl⟩
  cancelledBy t ht := by
    refine ⟨token, ?_⟩
    rcases Option.or_eq_some_iff.mp ht with hset | ⟨-, hnow⟩
    · exact (h.cancelledBy t hset).2
    · exact (Option.some.inj hnow).ge
  accepted := h.accepted
  watched := h.watched

theorem afterCheck_cases (α : Type) (call : GuardedCall) (cancelled : Bool) :
    ((call.afterCheck cancelled : Caller α) = .opening ∧ call.Accepted ∧ cancelled = false) ∨
      ∃ err, (call.afterCheck cancelled : Caller α) = .refused err ∧
        (guardSql call.config call.sql call.toolkit = .error err ∨ cancelled = true) := by
  unfold GuardedCall.afterCheck
  split
  · next err hrefused => exact .inr ⟨err, rfl, .inl hrefused⟩
  · next haccepted =>
      cases cancelled with
      | true => exact .inr ⟨_, rfl, .inr rfl⟩
      | false => exact .inl ⟨rfl, haccepted, rfl⟩

/-- Before `execute`, the caller goes on to the connection or returns. -/
theorem idle_sound (h : call.Sound s) (place : s.caller = .entered ∨ s.caller = .opening)
    {next : Caller α} (hnext : (next = .opening ∧ call.Accepted) ∨ ∃ err, next = .refused err) :
    call.Sound { s with caller := next } := by
  have hidle : s.caller.started? = none ∧ s.watcher = .absent ∧ s.stopFlag = false := by
    have hcaller := h.caller
    unfold GuardedCall.CallerSound at hcaller
    rcases place with place | place
    all_goals
      rw [place] at hcaller ⊢
      exact ⟨rfl, hcaller⟩
  have hnever : ∀ t, s.caller.started? = some t → next.started? = some t := by
    intro t ht
    rw [hidle.1] at ht
    cases ht
  refine ⟨watcherSound_mono h.watcher rfl rfl le_rfl id (fun _ => id) hnever, ?_, h.cancelledBy,
    ?_, ?_⟩
  all_goals rcases hnext with ⟨rfl, haccepted⟩ | ⟨err, rfl⟩
  · exact hidle.2
  · exact hidle.2
  · exact fun _ => haccepted
  · rintro (hopening | hstarted)
    · cases hopening
    · cases hstarted
  · intro hstarted
    cases hstarted
  · intro hstarted
    cases hstarted

theorem execute_sound (h : call.Sound s) (place : s.caller = .opening) :
    call.Sound
      ({ s with caller := .executing s.now, watcher := call.watcherAtStart } : GuardedRun α) := by
  have hcaller := h.caller
  unfold GuardedCall.CallerSound at hcaller
  rw [place] at hcaller
  have hnone : s.interrupts = [] := by
    have hwatcher := h.watcher
    unfold GuardedCall.WatcherSound at hwatcher
    rw [hcaller.1] at hwatcher
    exact hwatcher
  refine ⟨?_, ⟨le_rfl, hcaller.2⟩, h.cancelledBy, fun _ => h.accepted (.inl place), fun _ => Iff.rfl⟩
  unfold GuardedCall.WatcherSound GuardedCall.watcherAtStart
  by_cases hwatched : 0 < call.hooks.timeout ∨ call.hooks.cancelToken
  · rw [if_pos hwatched]
    exact ⟨hnone, s.now, le_rfl, rfl⟩
  · rw [if_neg hwatched]
    exact hnone

/-- From `execute` on, the caller goes from place to place. -/
theorem running_sound (h : call.Sound s) {next : Caller α} {started : Nat} {stopFlag : Bool}
    (hcaller : s.caller.started? = some started) (hnext : next.started? = some started)
    (hstop : s.stopFlag = true → stopFlag = true)
    (hsound : call.CallerSound { s with caller := next, stopFlag }) :
    call.Sound { s with caller := next, stopFlag } where
  watcher := watcherSound_mono h.watcher rfl rfl le_rfl hstop (fun _ => id) fun t ht => by
    rw [← ht, hcaller, hnext]
  caller := hsound
  cancelledBy := h.cancelledBy
  accepted _ := h.accepted (.inr (by rw [hcaller]; rfl))
  watched _ := h.watched (by rw [hcaller]; rfl)

theorem join_sound (h : call.Sound s) {frame : Frame α} {reason : Option InterruptReason}
    (place : s.caller = .joining frame) (gone : s.watcher.joined? = some reason) :
    call.Sound { s with caller := call.afterJoin s.now frame reason } := by
  have hcaller := h.caller
  unfold GuardedCall.CallerSound at hcaller
  rw [place] at hcaller
  cases reason with
  | none =>
      exact running_sound h (congrArg _ place) rfl id ⟨⟨hcaller.1, hcaller.2.1⟩, gone⟩
  | some reason =>
      have hbound := interrupts_le_now h.watcher
      exact running_sound h (congrArg _ place) rfl id
        ⟨⟨hcaller.1, hcaller.2.1, le_rfl⟩, .inr ⟨reason, gone, rfl, hbound⟩⟩

/-- **Every step keeps what holds of a call.** -/
theorem step_sound {label : GuardedStep α} (h : call.Sound s) (hstep : call.step s label = some s') :
    call.Sound s' := by
  have hcaller := h.caller
  unfold GuardedCall.CallerSound at hcaller
  have hmove := guardedMove hstep
  cases label with
  | watch => exact watch_sound h hmove
  | tick passed => cases hmove; exact tick_sound h passed
  | cancel => cases hmove with | cancel token => exact cancel_sound h token
  | check =>
      cases hmove with
      | check place =>
          refine idle_sound h (.inl place) ?_
          rcases afterCheck_cases α call s.cancelledAt.isSome with
            ⟨hopening, haccepted, -⟩ | ⟨err, hrefused, -⟩
          · exact .inl ⟨hopening, haccepted⟩
          · exact .inr ⟨err, hrefused⟩
  | connect answer =>
      cases hmove with
      | refuse err place => exact idle_sound h (.inr place) (.inr ⟨err, rfl⟩)
      | execute place => exact execute_sound h place
  | finish result =>
      cases hmove with
      | finish result place =>
          rw [place] at hcaller
          exact running_sound h (congrArg _ place) rfl id hcaller
  | stop =>
      cases hmove with
      | stop place =>
          rw [place] at hcaller
          exact running_sound h (congrArg _ place) rfl (fun _ => rfl) ⟨hcaller.1, le_rfl, rfl⟩
  | join => cases hmove with | join gone place => exact join_sound h place gone
  | settle =>
      cases hmove with
      | settle place =>
          rw [place] at hcaller
          exact running_sound h (congrArg _ place) rfl id
            ⟨⟨hcaller.1.1, hcaller.1.2, le_rfl⟩, .inl ⟨hcaller.2, rfl⟩⟩

theorem start_sound (call : GuardedCall) (now : Nat) (cancelled : Bool) :
    call.Sound (guarded α call now cancelled).start := by
  refine ⟨rfl, ⟨rfl, rfl⟩, ?_, ?_, fun hstarted => by cases hstarted⟩
  · intro t ht
    rw [guarded] at ht
    dsimp only at ht
    split at ht
    · next htoken => cases ht; exact ⟨htoken.1, le_rfl⟩
    · cases ht
  · rintro (hopening | hstarted)
    · cases hopening
    · cases hstarted

theorem sound_of_reachable {now : Nat} {cancelled : Bool} {guard : GuardedRun α → GuardedStep α → Prop}
    (h : (guarded α call now cancelled).Reachable guard s) : call.Sound s :=
  h.inv (start_sound call now cancelled) fun _ _ _ hs _ hstep => step_sound hs hstep

end Sound

/-! ## What a call answers -/

section Outcome

variable {α : Type} {call : GuardedCall} {s s' : GuardedRun α} {frame : Frame α} {time : Nat}
  {outcome : Except AnalyticsError α}

theorem quiet_of_joined (h : call.WatcherSound s) (hjoined : s.watcher.joined? = some none) :
    s.interrupts = [] := by
  unfold GuardedCall.WatcherSound at h
  split at h
  case h_1 => exact h
  case h_8 => exact h.1
  all_goals
    next place =>
      rw [place] at hjoined
      cases hjoined

theorem once_of_joined (h : call.WatcherSound s) {reason : InterruptReason}
    (hjoined : s.watcher.joined? = some (some reason)) :
    ∃ t, s.interrupts = [t] ∧ s.StartedBy t ∧ call.Cause s t reason := by
  unfold GuardedCall.WatcherSound at h
  split at h
  case h_9 place =>
      rw [place] at hjoined
      cases hjoined
      obtain ⟨t, -, hlist, hby, hcause⟩ := h
      exact ⟨t, hlist, hby, hcause⟩
  all_goals
    next place =>
      rw [place] at hjoined
      cases hjoined

/-- A call that has returned takes no further step, and its watcher neither. -/
theorem returned_step (h : call.Sound s) (hreturned : s.caller = .returned frame time outcome)
    {label : GuardedStep α} (hstep : call.step s label = some s') :
    s'.caller = s.caller ∧ s'.interrupts = s.interrupts := by
  have hmove := guardedMove hstep
  have hjoined : s.watcher.joined? ≠ none := by
    have hcaller := h.caller
    unfold GuardedCall.CallerSound at hcaller
    rw [hreturned] at hcaller
    rcases hcaller.2 with ⟨hjoin, -⟩ | ⟨reason, hjoin, -⟩
    all_goals simp [hjoin]
  cases label with
  | watch => exact absurd (watcherMove_place hmove).2.2.1 hjoined
  | tick passed => cases hmove; exact ⟨rfl, rfl⟩
  | cancel => cases hmove; exact ⟨rfl, rfl⟩
  | _ =>
      cases hmove
      all_goals
        next place =>
          rw [hreturned] at place
          cases place

theorem returned_run (h : call.Sound s) (hreturned : s.caller = .returned frame time outcome)
    {now : Nat} {cancelled : Bool} {labels : List (GuardedStep α)}
    (hrun : (guarded α call now cancelled).runFrom s labels = some s') :
    s'.caller = s.caller ∧ s'.interrupts = s.interrupts := by
  induction labels generalizing s with
  | nil =>
      cases hrun
      exact ⟨rfl, rfl⟩
  | cons label labels ih =>
      obtain ⟨next, hstep, hrest⟩ := Option.bind_eq_some_iff.mp hrun
      obtain ⟨hcaller, hinterrupts⟩ := returned_step h hreturned hstep
      obtain ⟨hcaller', hinterrupts'⟩ := ih (step_sound h hstep) (hcaller ▸ hreturned) hrest
      exact ⟨hcaller'.trans hcaller, hinterrupts'.trans hinterrupts⟩

/-- How a call ends: with what `execute` answered, with the time limit that it noticed
    itself, or with the reason of the watcher's one interrupt. -/
inductive Answered (call : GuardedCall) (s : GuardedRun α) (frame : Frame α) (time : Nat) :
    Except AnalyticsError α → Prop where
  | result (quiet : s.interrupts = [])
      (inTime : call.hooks.timeout = 0 ∨ time ≤ frame.started + call.hooks.timeout) :
      Answered call s frame time frame.result
  | late (quiet : s.interrupts = []) (limited : 0 < call.hooks.timeout)
      (passed : frame.started + call.hooks.timeout < time) :
      Answered call s frame time (.error (scratchpadQueryTimeout call.hooks.timeout))
  | interrupted (reason : InterruptReason) (t : Nat) (once : s.interrupts = [t])
      (after : frame.started ≤ t) (before : t ≤ time) (cause : call.Cause s t reason) :
      Answered call s frame time (.error (reason.error call.hooks))

theorem answered_settled (quiet : s.interrupts = []) (hle : frame.started ≤ time) :
    Answered call s frame time (call.settled time frame) := by
  unfold GuardedCall.settled
  by_cases hlate : 0 < call.hooks.timeout ∧ call.hooks.timeout < time - frame.started
  · rw [if_pos hlate]
    exact .late quiet hlate.1 (by omega)
  · rw [if_neg hlate]
    exact .result quiet (by omega)

/-- A call that has returned had its SQL accepted, and ends in one of these ways. -/
theorem answered_of_sound (hsound : call.Sound s)
    (hreturned : s.caller = .returned frame time outcome) :
    call.Accepted ∧ Answered call s frame time outcome := by
  have hcaller := hsound.caller
  unfold GuardedCall.CallerSound at hcaller
  rw [hreturned] at hcaller
  obtain ⟨⟨hstopped, htime, -⟩, hend⟩ := hcaller
  refine ⟨hsound.accepted (.inr (by rw [hreturned]; rfl)), ?_⟩
  rcases hend with ⟨hjoined, rfl⟩ | ⟨reason, hjoined, rfl, hbefore⟩
  · exact answered_settled (quiet_of_joined hsound.watcher hjoined) (hstopped.trans htime)
  · obtain ⟨t, honce, ⟨started, hle, hstarted⟩, hcause⟩ :=
      once_of_joined hsound.watcher hjoined
    rw [hreturned] at hstarted
    cases hstarted
    exact .interrupted reason t honce hle (hbefore t (honce ▸ List.mem_singleton_self t)) hcause

/-- **The answer of a call, whatever the interleaving.** -/
theorem answered_of_reachable {now : Nat} {cancelled : Bool}
    (h : (guarded α call now cancelled).Reachable Machine.anyStep s)
    (hreturned : s.caller = .returned frame time outcome) :
    call.Accepted ∧ Answered call s frame time outcome ∧
      ∀ labels s', (guarded α call now cancelled).runFrom s labels = some s' →
        s'.caller = s.caller ∧ s'.interrupts = s.interrupts := by
  have hsound := sound_of_reachable h
  obtain ⟨haccepted, hanswered⟩ := answered_of_sound hsound hreturned
  exact ⟨haccepted, hanswered, fun labels s' hrun => returned_run hsound hreturned hrun⟩

end Outcome

/-! ## Every answer that is left is possible -/

section Possible

variable {α : Type} {call : GuardedCall} (now : Nat) (result : Except AnalyticsError α)

/-- The engine opens the session, and answers the query with this result. -/
def GuardedStep.Serves (result : Except AnalyticsError α) : GuardedStep α → Prop
  | .connect answer => answer = .ok ()
  | .finish answer => answer = result
  | _ => True

/-- A call of which no token is set before it begins. -/
def executingAt (call : GuardedCall) : GuardedRun α where
  now := now
  cancelledAt := none
  stopFlag := false
  interrupts := []
  caller := .executing now
  watcher := call.watcherAtStart

theorem runFrom_executing (haccepted : call.Accepted) :
    (guarded α call now false).runFrom (guarded α call now false).start
      [.check, .connect (.ok ())] = some (executingAt now call) := by
  have hstart : (guarded α call now false).start = ⟨now, none, false, [], .entered, .absent⟩ := by
    simp [guarded]
  have hcheck : (call.afterCheck false : Caller α) = .opening := by
    unfold GuardedCall.afterCheck
    rw [haccepted]
    rfl
  rw [hstart]
  simp [Machine.runFrom, guarded, GuardedCall.step, GuardedCall.callerStep, hcheck,
    GuardedCall.opened, executingAt]

/-- The end of a run from there. -/
theorem reachable_end (haccepted : call.Accepted) {labels : List (GuardedStep α)}
    {s : GuardedRun α} (hserves : ∀ label ∈ labels, label.Serves result)
    (hrun : (guarded α call now false).runFrom (executingAt now call) labels = some s) :
    (guarded α call now false).Reachable (fun _ label => label.Serves result) s := by
  have hbegin : (guarded α call now false).Reachable (fun _ label => label.Serves result)
      (executingAt now call) :=
    Machine.reachable_of_runFrom .start
      (Machine.guardedFrom_of_forall _ (by simp [GuardedStep.Serves]))
      (runFrom_executing now haccepted)
  exact Machine.reachable_of_runFrom hbegin
    (Machine.guardedFrom_of_forall _ fun label hmem _ => hserves label hmem) hrun

/-- Nothing happens but the query. -/
theorem result_possible (haccepted : call.Accepted) :
    ∃ s, (guarded α call now false).Reachable (fun _ label => label.Serves result) s ∧
      s.caller = .returned ⟨now, result, now⟩ now result := by
  have hsettled : call.settled now ⟨now, result, now⟩ = result := by
    simp [GuardedCall.settled]
  by_cases hwatched : 0 < call.hooks.timeout ∨ call.hooks.cancelToken
  · have hrun : (guarded α call now false).runFrom (executingAt now call)
        [.watch, .finish result, .stop, .watch, .join, .settle] =
          some ⟨now, none, true, [], .returned ⟨now, result, now⟩ now result, .ended none⟩ := by
      simp [Machine.runFrom, guarded, GuardedCall.step, GuardedCall.callerStep,
        GuardedCall.watcherStep, executingAt, GuardedCall.watcherAtStart, hwatched,
        Watcher.joined?, GuardedCall.afterJoin, hsettled]
    exact ⟨_, reachable_end now result haccepted (by simp [GuardedStep.Serves]) hrun, rfl⟩
  · have hrun : (guarded α call now false).runFrom (executingAt now call)
        [.finish result, .stop, .join, .settle] =
          some ⟨now, none, true, [], .returned ⟨now, result, now⟩ now result, .absent⟩ := by
      simp [Machine.runFrom, guarded, GuardedCall.step, GuardedCall.callerStep, executingAt,
        GuardedCall.watcherAtStart, hwatched, Watcher.joined?, GuardedCall.afterJoin, hsettled]
    exact ⟨_, reachable_end now result haccepted (by simp [GuardedStep.Serves]) hrun, rfl⟩

/-- `execute` has returned when the token is set and the watcher interrupts. -/
theorem cancelled_possible (haccepted : call.Accepted) (htoken : call.hooks.cancelToken = true) :
    ∃ s, (guarded α call now false).Reachable (fun _ label => label.Serves result) s ∧
      s.caller = .returned ⟨now, result, now⟩ now (.error .scratchpadQueryCancelled) := by
  have hrun : (guarded α call now false).runFrom (executingAt now call)
      [.watch, .watch, .finish result, .cancel, .watch, .watch, .stop, .join] =
        some ⟨now, some now, true, [now],
          .returned ⟨now, result, now⟩ now (.error .scratchpadQueryCancelled),
          .ended (some .cancelled)⟩ := by
    simp [Machine.runFrom, guarded, GuardedCall.step, GuardedCall.callerStep,
      GuardedCall.watcherStep, executingAt, GuardedCall.watcherAtStart, htoken,
      Watcher.joined?, GuardedCall.afterJoin, InterruptReason.error]
  exact ⟨_, reachable_end now result haccepted (by simp [GuardedStep.Serves]) hrun, rfl⟩

/-- `execute` has returned when the time is over and the watcher interrupts. -/
theorem timeout_possible (haccepted : call.Accepted) (hlimited : 0 < call.hooks.timeout) :
    ∃ s, (guarded α call now false).Reachable (fun _ label => label.Serves result) s ∧
      s.caller = .returned ⟨now, result, now + call.hooks.timeout⟩ (now + call.hooks.timeout)
        (.error (scratchpadQueryTimeout call.hooks.timeout)) := by
  have hrun : (guarded α call now false).runFrom (executingAt now call)
      [.watch, .watch, .watch, .finish result, .tick call.hooks.timeout, .watch, .watch, .stop,
        .join] =
        some ⟨now + call.hooks.timeout, none, true, [now + call.hooks.timeout],
          .returned ⟨now, result, now + call.hooks.timeout⟩ (now + call.hooks.timeout)
            (.error (scratchpadQueryTimeout call.hooks.timeout)),
          .ended (some .timeout)⟩ := by
    simp [Machine.runFrom, guarded, GuardedCall.step, GuardedCall.callerStep,
      GuardedCall.watcherStep, executingAt, GuardedCall.watcherAtStart, hlimited,
      Watcher.joined?, GuardedCall.afterJoin, InterruptReason.error]
  exact ⟨_, reachable_end now result haccepted (by simp [GuardedStep.Serves]) hrun, rfl⟩

/-- **The answers that a call can give when `execute` answers this**, over all
    interleavings: a query that has succeeded can still be reported as cancelled or as
    timed out. -/
theorem answers_iff (haccepted : call.Accepted) (outcome : Except AnalyticsError α) :
    (∃ s frame time, (guarded α call now false).Reachable Machine.anyStep s ∧
      s.caller = .returned frame time outcome ∧ frame.result = result) ↔
      outcome = result ∨
      (call.hooks.cancelToken = true ∧ outcome = .error .scratchpadQueryCancelled) ∨
      (0 < call.hooks.timeout ∧
        outcome = .error (scratchpadQueryTimeout call.hooks.timeout)) := by
  constructor
  · rintro ⟨s, frame, time, hreach, hreturned, rfl⟩
    have hsound := sound_of_reachable hreach
    obtain ⟨-, hanswered⟩ := answered_of_sound hsound hreturned
    cases hanswered with
    | result => exact .inl rfl
    | late _ limited => exact .inr (.inr ⟨limited, rfl⟩)
    | interrupted reason t _ _ _ cause =>
        cases reason with
        | timeout => exact .inr (.inr ⟨cause.1, rfl⟩)
        | cancelled =>
            obtain ⟨t', -, hset⟩ := cause
            exact .inr (.inl ⟨(hsound.cancelledBy t' hset).1, rfl⟩)
  · rintro (rfl | ⟨htoken, rfl⟩ | ⟨hlimited, rfl⟩)
    · obtain ⟨s, hreach, hreturned⟩ := result_possible now outcome haccepted
      exact ⟨s, _, _, hreach.mono fun _ _ _ => trivial, hreturned, rfl⟩
    · obtain ⟨s, hreach, hreturned⟩ := cancelled_possible now result haccepted htoken
      exact ⟨s, _, _, hreach.mono fun _ _ _ => trivial, hreturned, rfl⟩
    · obtain ⟨s, hreach, hreturned⟩ := timeout_possible now result haccepted hlimited
      exact ⟨s, _, _, hreach.mono fun _ _ _ => trivial, hreturned, rfl⟩

end Possible

/-! ## A call -/

/-- `SELECT 1` under the default time limit, with a token. -/
def selectOne : GuardedCall where
  config := defaultConfig
  toolkit := ⟨fun _ => none, fun _ => ⟨true, none⟩⟩
  sql := Text.utf8 (text "SELECT 1")
  hooks := (ScratchpadExecutionHooks.new (millis 2000)).withCancelToken

theorem accepted_selectOne : selectOne.Accepted := rfl

/-- Its one row is there when the token is set, and the call answers that it was cancelled. -/
theorem selectOne_cancelled :
    ∃ s frame time, s.caller = .returned frame time (.error .scratchpadQueryCancelled) ∧
      frame.result = .ok 1 ∧ Answered selectOne s frame time (.error .scratchpadQueryCancelled) := by
  obtain ⟨s, hreach, hreturned⟩ :=
    @cancelled_possible Nat selectOne 0 (.ok 1) accepted_selectOne rfl
  have hanswered := answered_of_reachable (hreach.mono fun _ _ _ => trivial) hreturned
  exact ⟨s, _, _, hreturned, rfl, hanswered.2.1⟩

theorem selectOne_answers :
    ∃ (s : GuardedRun Nat) (frame : Frame Nat) (time : Nat),
      (guarded Nat selectOne 0 false).Reachable Machine.anyStep s ∧
        s.caller = .returned frame time (.error (.scratchpadQueryTimeout 2000)) ∧
        frame.result = .ok 1 :=
  (answers_iff 0 (.ok 1) accepted_selectOne (.error (.scratchpadQueryTimeout 2000))).mpr
    (.inr (.inr ⟨by decide, rfl⟩))

end Ga4Mcp.Scratchpad
