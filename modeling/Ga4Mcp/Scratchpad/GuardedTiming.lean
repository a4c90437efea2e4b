/-
  How long `run_guarded` takes to notice things, and that it returns.

  * `call_returns`: once the stop flag is set, under every schedule the two threads take at
    most six more steps, and one of them can take a step until the call has returned or the
    watcher sleeps.
  * `interrupt_in_time`: where time passes only while both threads wait, a query is
    interrupted within one poll interval of the time limit and of the cancellation, and the
    call returns within one poll interval of the stop flag.
-/
import Ga4Mcp.Scratchpad.GuardedRun

namespace Ga4Mcp.Scratchpad

open Ga4Mcp.Lib Ga4Mcp.SqlSafety

variable {α : Type} {call : GuardedCall} {s s' : GuardedRun α}

/-! ## The steps that are left -/

/-- A step that one of the two threads takes by itself. -/
def GuardedStep.ofThread : GuardedStep α → Bool
  | .check | .stop | .join | .settle | .watch => true
  | .tick _ | .cancel | .connect _ | .finish _ => false

/-- The steps left to the watcher when the stop flag is set. -/
def Watcher.left : Watcher → Nat
  | .absent | .ended _ => 0
  | .atStop _ | .interrupting _ => 1
  | .spawned | .asleep _ _ => 2
  | .atTimeout _ => 3
  | .atCancel _ => 4

/-- The steps left to the caller when the stop flag is set. -/
def Caller.left : Caller α → Nat
  | .joining _ => 2
  | .settling _ => 1
  | _ => 0

/-- The steps that both threads have left. -/
def GuardedRun.left (s : GuardedRun α) : Nat := s.caller.left + s.watcher.left

/-- The flag is set when the caller joins the watcher, and stays so. -/
theorem left_pos_of_stopped (h : call.Sound s) (hstop : s.stopFlag = true) :
    (∃ frame, s.caller = .joining frame) ∨ (∃ frame, s.caller = .settling frame) ∨
      ∃ frame time outcome, s.caller = .returned frame time outcome := by
  have hcaller := h.caller
  unfold GuardedCall.CallerSound at hcaller
  rw [hstop] at hcaller
  split at hcaller
  case h_6 frame place => exact .inl ⟨frame, place⟩
  case h_7 frame place => exact .inr (.inl ⟨frame, place⟩)
  case h_8 frame time outcome place => exact .inr (.inr ⟨frame, time, outcome, place⟩)
  all_goals exact absurd hcaller.2 (by decide)

/-- A thread step uses up what is left; nothing adds to it. -/
theorem left_step (h : call.Sound s) (hstop : s.stopFlag = true) {label : GuardedStep α}
    (hstep : call.step s label = some s') :
    s'.stopFlag = true ∧ s'.left + (if label.ofThread then 1 else 0) ≤ s.left := by
  have hplace := left_pos_of_stopped h hstop
  cases guardedMove hstep with
  | tick passed => exact ⟨hstop, le_rfl⟩
  | cancel token => exact ⟨hstop, le_rfl⟩
  | @join frame reason gone place =>
      have hnext : (call.afterJoin s.now frame reason).left ≤ 1 := by
        cases reason with
        | none => exact le_rfl
        | some reason => exact Nat.zero_le 1
      have hjoining : s.caller.left = 2 := by rw [place]; rfl
      refine ⟨hstop, ?_⟩
      simp only [GuardedRun.left, hjoining, GuardedStep.ofThread, if_true]
      omega
  | settle place =>
      refine ⟨hstop, ?_⟩
      simp only [GuardedRun.left, place, Caller.left, GuardedStep.ofThread, if_true]
      omega
  | lookAtStop place =>
      refine ⟨hstop, ?_⟩
      simp [GuardedRun.left, place, hstop, Watcher.left, GuardedStep.ofThread]
  | lookAtCancel place =>
      refine ⟨hstop, ?_⟩
      cases s.cancelledAt with
      | none => simp [GuardedRun.left, place, Watcher.left, GuardedStep.ofThread]
      | some t => simp [GuardedRun.left, place, Watcher.left, GuardedStep.ofThread]
  | begin place | wake place due | sleep place early | timedOut place due | interrupt place =>
      refine ⟨hstop, ?_⟩
      simp [GuardedRun.left, place, Watcher.left, GuardedStep.ofThread]
  | check place | refuse err place | execute place | finish result place | stop place =>
      rw [place] at hplace
      simp at hplace

theorem left_run (h : call.Sound s) (hstop : s.stopFlag = true) {now : Nat} {cancelled : Bool}
    {labels : List (GuardedStep α)}
    (hrun : (guarded α call now cancelled).runFrom s labels = some s') :
    (call.Sound s' ∧ s'.stopFlag = true) ∧
      s'.left + labels.countP GuardedStep.ofThread ≤ s.left := by
  induction labels generalizing s with
  | nil =>
      cases hrun
      exact ⟨⟨h, hstop⟩, le_rfl⟩
  | cons label labels ih =>
      obtain ⟨next, hstep, hrest⟩ := Option.bind_eq_some_iff.mp hrun
      obtain ⟨hstop', hleft⟩ := left_step h hstop hstep
      obtain ⟨hend, hcount⟩ := ih (step_sound h hstep) hstop' hrest
      refine ⟨hend, ?_⟩
      rw [List.countP_cons]
      omega

theorem left_le (s : GuardedRun α) : s.left ≤ 6 := by
  have hcaller : s.caller.left ≤ 2 := by
    unfold Caller.left
    split <;> omega
  have hwatcher : s.watcher.left ≤ 4 := by
    unfold Watcher.left
    split <;> omega
  unfold GuardedRun.left
  omega

/-! ## Who can take a step -/

/-- One of the threads can take a step by itself. -/
def GuardedCall.CanStep (call : GuardedCall) (s : GuardedRun α) : Prop :=
  ∃ label : GuardedStep α, label.ofThread = true ∧ (call.step s label).isSome = true

/-- A watcher that cannot move is gone or sleeps. -/
theorem watcher_waits (hwatch : (call.watcherStep s).isSome = false) :
    s.watcher.joined?.isSome = true ∨
      ∃ since wake, s.watcher = .asleep since wake ∧ s.now < wake := by
  unfold GuardedCall.watcherStep at hwatch
  split at hwatch
  case h_5 since wake place =>
      refine .inr ⟨since, wake, place, ?_⟩
      split at hwatch
      · cases hwatch
      · next hearly => exact Nat.lt_of_not_le hearly
  case h_7 place => exact .inl (by rw [place]; rfl)
  case h_8 reason place => exact .inl (by rw [place]; rfl)
  all_goals cases hwatch

/-- The caller waits only for the watcher. -/
theorem returned_or_step (h : call.Sound s) (hstop : s.stopFlag = true) :
    (∃ frame time outcome, s.caller = .returned frame time outcome) ∨ call.CanStep s ∨
      ∃ since wake, s.watcher = .asleep since wake ∧ s.now < wake := by
  rcases left_pos_of_stopped h hstop with ⟨frame, place⟩ | ⟨frame, place⟩ | hreturned
  · by_cases hwatch : (call.watcherStep s).isSome
    · exact .inr (.inl ⟨.watch, rfl, hwatch⟩)
    · rcases watcher_waits (Bool.eq_false_iff.mpr hwatch) with hgone | hasleep
      · refine .inr (.inl ⟨.join, rfl, ?_⟩)
        simp only [GuardedCall.step, GuardedCall.callerStep, place]
        simpa using hgone
      · exact .inr (.inr hasleep)
  · refine .inr (.inl ⟨.settle, rfl, ?_⟩)
    simp only [GuardedCall.step, GuardedCall.callerStep, place]
    rfl
  · exact .inl hreturned

/-- **A call returns.** From the stop flag on, whatever the schedule. -/
theorem call_returns {now : Nat} {cancelled : Bool}
    (h : (guarded α call now cancelled).Reachable Machine.anyStep s) (hstop : s.stopFlag = true)
    (labels : List (GuardedStep α))
    (hrun : (guarded α call now cancelled).runFrom s labels = some s') :
    labels.countP GuardedStep.ofThread ≤ 6 ∧
      ((∃ frame time outcome, s'.caller = .returned frame time outcome) ∨ call.CanStep s' ∨
        ∃ since wake, s'.watcher = .asleep since wake ∧ s'.now < wake) := by
  have hsound := sound_of_reachable h
  obtain ⟨⟨hsound', hstop'⟩, hcount⟩ := left_run hsound hstop hrun
  have hbound := left_le s
  exact ⟨by omega, returned_or_step hsound' hstop'⟩

/-- A query that has ended while the watcher was on its way to the stop flag. -/
theorem selectOne_returns :
    ∃ s s' : GuardedRun Nat,
      (guarded Nat selectOne 0 false).runFrom s [.tick 5, .watch, .join] = some s' ∧
        ((∃ frame time outcome, s'.caller = .returned frame time outcome) ∨
          selectOne.CanStep s' ∨
          ∃ since wake, s'.watcher = .asleep since wake ∧ s'.now < wake) := by
  have hreach : (guarded Nat selectOne 0 false).Reachable Machine.anyStep
      ⟨0, none, true, [], .joining ⟨0, .ok 1, 0⟩, .atStop 0⟩ := by
    have hrun : (guarded Nat selectOne 0 false).runFrom (guarded Nat selectOne 0 false).start
        [.check, .connect (.ok ()), .watch, .finish (.ok 1), .stop] =
          some ⟨0, none, true, [], .joining ⟨0, .ok 1, 0⟩, .atStop 0⟩ := rfl
    exact Machine.reachable_of_runFrom .start (Machine.guardedFrom_anyStep _ _) hrun
  have hrun : (guarded Nat selectOne 0 false).runFrom
      ⟨0, none, true, [], .joining ⟨0, .ok 1, 0⟩, .atStop 0⟩ [.tick 5, .watch, .join] =
        some ⟨5, none, true, [], .settling ⟨0, .ok 1, 0⟩, .ended none⟩ := rfl
  exact ⟨_, _, hrun, (call_returns hreach rfl _ hrun).2⟩

/-! ## Prompt threads -/

/-- Time passes only while no thread can take a step by itself, and not past the end of the
    watcher's sleep. -/
def GuardedCall.Prompt (call : GuardedCall) (s : GuardedRun α) : GuardedStep α → Prop
  | .tick passed => ¬ call.CanStep s ∧
      ∀ since wake, s.watcher = .asleep since wake → s.now + passed ≤ wake
  | _ => True

/-- A time is within a poll interval of what an interrupt is due to. -/
structure GuardedCall.Due (call : GuardedCall) (s : GuardedRun α) (time : Nat) : Prop where
  timeout : 0 < call.hooks.timeout → ∀ started, s.caller.started? = some started →
    time < started + call.hooks.timeout + call.hooks.interruptPollInterval
  cancel : ∀ t started, s.cancelledAt = some t → s.caller.started? = some started →
    time ≤ max t started + call.hooks.interruptPollInterval

/-- What prompt threads add at each place of the watcher. -/
def GuardedCall.WatcherPrompt (call : GuardedCall) (s : GuardedRun α) : Prop :=
  match s.watcher with
  | .absent | .ended none => True
  | .spawned => s.caller.started? = some s.now ∧ call.Due s s.now
  | .atStop since | .atCancel since => s.caller.started? = some since ∧ call.Due s s.now
  | .atTimeout since =>
      s.caller.started? = some since ∧ call.Due s s.now ∧ ∀ t, s.cancelledAt = some t → s.now ≤ t
  | .interrupting _ => call.Due s s.now
  | .asleep since wake =>
      s.caller.started? = some since ∧ call.Due s wake ∧
        s.now ≤ wake ∧ wake ≤ s.now + call.hooks.interruptPollInterval
  | .ended (some _) => ∀ t ∈ s.interrupts, call.Due s t

/-- The watcher will see the stop flag within a poll interval. -/
def GuardedCall.SeesStop (call : GuardedCall) (s : GuardedRun α) (stopped : Nat) : Prop :=
  match s.watcher with
  | .atCancel _ | .atTimeout _ => s.now = stopped
  | .asleep _ wake => wake ≤ stopped + call.hooks.interruptPollInterval
  | _ => True

/-- What prompt threads add at each place of the caller: the latest time it is there. -/
def GuardedCall.CallerPrompt (call : GuardedCall) (s : GuardedRun α) : Prop :=
  match s.caller with
  | .joining frame =>
      s.now ≤ frame.stopped + call.hooks.interruptPollInterval ∧ call.SeesStop s frame.stopped
  | .settling frame => s.now ≤ frame.stopped + call.hooks.interruptPollInterval
  | .returned frame time _ => time ≤ frame.stopped + call.hooks.interruptPollInterval
  | _ => True

theorem GuardedCall.Due.frame {time : Nat} (h : call.Due s time)
    (hstarted : s'.caller.started? = s.caller.started?) (hcancelled : s'.cancelledAt = s.cancelledAt) :
    call.Due s' time := by
  refine ⟨?_, ?_⟩
  · rw [hstarted]; exact h.timeout
  · rw [hstarted, hcancelled]; exact h.cancel

theorem GuardedCall.Due.ofCancel {time : Nat} (h : call.Due s time)
    (htime : time ≤ s.now + call.hooks.interruptPollInterval) :
    call.Due { s with cancelledAt := s.cancelledAt.or (some s.now) } time := by
  refine ⟨h.timeout, fun t started ht hstarted => ?_⟩
  rcases Option.or_eq_some_iff.mp ht with hset | ⟨-, hnow⟩
  · exact h.cancel t started hset hstarted
  · cases hnow
    omega

/-- The watcher's part is kept by what others do while no time passes. -/
theorem watcherPrompt_frame (h : call.WatcherPrompt s) (hwatcher : s'.watcher = s.watcher)
    (hinterrupts : s'.interrupts = s.interrupts) (hnow : s'.now = s.now)
    (hstarted : s'.caller.started? = s.caller.started?)
    (hcancelled : s'.cancelledAt = s.cancelledAt) : call.WatcherPrompt s' := by
  unfold GuardedCall.WatcherPrompt at h ⊢
  rw [hwatcher, hinterrupts, hnow, hstarted]
  split at h
  case h_1 => trivial
  case h_2 => trivial
  case h_3 => exact ⟨h.1, h.2.frame hstarted hcancelled⟩
  case h_6 => exact ⟨h.1, h.2.1.frame hstarted hcancelled, by rw [hcancelled]; exact h.2.2⟩
  case h_7 => exact h.frame hstarted hcancelled
  case h_8 => exact ⟨h.1, h.2.1.frame hstarted hcancelled, h.2.2⟩
  case h_9 => exact fun t ht => (h t ht).frame hstarted hcancelled
  all_goals exact ⟨h.1, h.2.frame hstarted hcancelled⟩

theorem watcherPrompt_cancel (hsound : call.WatcherSound s) (h : call.WatcherPrompt s) :
    call.WatcherPrompt { s with cancelledAt := s.cancelledAt.or (some s.now) } := by
  have hbound := interrupts_le_now hsound
  unfold GuardedCall.WatcherPrompt at h ⊢
  dsimp only
  split at h
  case h_1 => trivial
  case h_2 => trivial
  case h_3 => exact ⟨h.1, h.2.ofCancel (Nat.le_add_right _ _)⟩
  case h_6 =>
      refine ⟨h.1, h.2.1.ofCancel (Nat.le_add_right _ _), fun t ht => ?_⟩
      rcases Option.or_eq_some_iff.mp ht with hset | ⟨-, hnow⟩
      · exact h.2.2 t hset
      · exact (Option.some.inj hnow).le
  case h_7 => exact h.ofCancel (Nat.le_add_right _ _)
  case h_8 => exact ⟨h.1, h.2.1.ofCancel h.2.2.2, h.2.2⟩
  case h_9 => exact fun t ht => (h t ht).ofCancel (Nat.le_add_right_of_le (hbound t ht))
  all_goals exact ⟨h.1, h.2.ofCancel (Nat.le_add_right _ _)⟩

/-- Time passes only past a watcher that is gone or asleep. -/
theorem watcherPrompt_tick {passed : Nat} (h : call.WatcherPrompt s)
    (hprompt : call.Prompt s (.tick passed)) :
    call.WatcherPrompt { s with now := s.now + passed } := by
  obtain ⟨hstuck, hwake⟩ := hprompt
  have hwatch : (call.watcherStep s).isSome = false :=
    Bool.eq_false_iff.mpr fun hstep => hstuck ⟨.watch, rfl, hstep⟩
  unfold GuardedCall.WatcherPrompt at h ⊢
  dsimp only
  rcases watcher_waits hwatch with hgone | ⟨since, wake, place, hearly⟩
  · split at h
    case h_1 => trivial
    case h_2 => trivial
    case h_9 => exact fun t ht => (h t ht).frame rfl rfl
    all_goals
      next place =>
        rw [place] at hgone
        cases hgone
  · rw [place] at h ⊢
    obtain ⟨hsince, hdue, hle, hsoon⟩ := h
    refine ⟨hsince, hdue.frame rfl rfl, hwake since wake place, ?_⟩
    omega

theorem watcherPrompt_execute :
    call.WatcherPrompt
      ({ s with caller := .executing s.now, watcher := call.watcherAtStart } : GuardedRun α) := by
  unfold GuardedCall.WatcherPrompt GuardedCall.watcherAtStart
  by_cases hwatched : 0 < call.hooks.timeout ∨ call.hooks.cancelToken
  · rw [if_pos hwatched]
    refine ⟨rfl, fun hlimited started hstarted => ?_, fun t started _ hstarted => ?_⟩
    · obtain rfl : s.now = started := Option.some.inj hstarted
      dsimp only
      omega
    · obtain rfl : s.now = started := Option.some.inj hstarted
      exact Nat.le_add_right_of_le (Nat.le_max_right _ _)
  · rw [if_neg hwatched]
    trivial

/-- The loop keeps to its poll interval. -/
theorem watcherPrompt_watch (hsound : call.WatcherSound s) (h : call.WatcherPrompt s)
    (hmove : GuardedMove call s .watch s') : call.WatcherPrompt s' := by
  unfold GuardedCall.WatcherPrompt at h
  unfold GuardedCall.WatcherSound at hsound
  cases hmove with
  | begin place => rw [place] at h; exact ⟨h.1, h.2.frame rfl rfl⟩
  | @lookAtStop since place =>
      rw [place] at h
      unfold GuardedCall.WatcherPrompt
      cases s.stopFlag with
      | true => trivial
      | false => exact ⟨h.1, h.2.frame rfl rfl⟩
  | @lookAtCancel since place =>
      rw [place] at h
      unfold GuardedCall.WatcherPrompt
      cases hcancelled : s.cancelledAt with
      | none => exact ⟨h.1, h.2.frame rfl hcancelled.symm, fun t ht => by cases ht⟩
      | some t => exact h.2.frame rfl hcancelled.symm
  | timedOut place due => rw [place] at h; exact h.2.1.frame rfl rfl
  | @sleep since place early =>
      rw [place] at h
      obtain ⟨hsince, hdue, hjust⟩ := h
      -- it has just looked, so a timeout or a cancellation is at most one interval old on waking
      refine ⟨hsince, ⟨fun hlimited started hstarted => ?_, fun t started ht hstarted => ?_⟩,
        Nat.le_add_right _ _, le_rfl⟩
      · obtain rfl : since = started := Option.some.inj (hsince.symm.trans hstarted)
        have hearly : s.now - since < call.hooks.timeout :=
          Nat.lt_of_not_le fun hle => early ⟨hlimited, hle⟩
        omega
      · have hnow := hjust t ht
        omega
  | wake place due =>
      rw [place] at h
      obtain ⟨hsince, hdue, hle, -⟩ := h
      obtain rfl := Nat.le_antisymm due hle
      exact ⟨hsince, hdue.frame rfl rfl⟩
  | interrupt place =>
      rw [place] at h hsound
      intro t ht
      rw [hsound.1] at ht
      cases List.mem_singleton.mp ht
      exact h.frame rfl rfl

/-! The caller's side: it waits for the watcher, and nothing else holds it up. -/

theorem canStep_join {frame : Frame α} (place : s.caller = .joining frame)
    (hgone : s.watcher.joined?.isSome = true) : call.CanStep s := by
  refine ⟨.join, rfl, ?_⟩
  simp only [GuardedCall.step, GuardedCall.callerStep, place]
  rw [Option.isSome_map]
  exact hgone

theorem canStep_settle {frame : Frame α} (place : s.caller = .settling frame) :
    call.CanStep s := by
  refine ⟨.settle, rfl, ?_⟩
  simp only [GuardedCall.step, GuardedCall.callerStep, place]
  rfl

theorem callerPrompt_tick {passed : Nat} (h : call.CallerPrompt s)
    (hprompt : call.Prompt s (.tick passed)) :
    call.CallerPrompt { s with now := s.now + passed } := by
  obtain ⟨hstuck, hwake⟩ := hprompt
  have hwatch : (call.watcherStep s).isSome = false :=
    Bool.eq_false_iff.mpr fun hstep => hstuck ⟨.watch, rfl, hstep⟩
  unfold GuardedCall.CallerPrompt at h ⊢
  dsimp only
  split at h
  case h_1 frame place =>
      rcases watcher_waits hwatch with hgone | ⟨since, wake, hasleep, hearly⟩
      · exact absurd (canStep_join place hgone) hstuck
      · obtain ⟨-, hsees⟩ := h
        unfold GuardedCall.SeesStop at hsees ⊢
        rw [hasleep] at hsees ⊢
        exact ⟨(hwake since wake hasleep).trans hsees, hsees⟩
  case h_2 frame place => exact absurd (canStep_settle place) hstuck
  case h_3 => exact h
  case h_4 => trivial

/-- The watcher is at most one sleep away from the stop flag. -/
theorem seesStop_stop (h : call.WatcherPrompt s) {next : Caller α} :
    call.SeesStop { s with caller := next, stopFlag := true } s.now := by
  unfold GuardedCall.SeesStop
  dsimp only
  split
  case h_3 since wake place =>
      unfold GuardedCall.WatcherPrompt at h
      rw [place] at h
      exact h.2.2.2
  all_goals trivial

/-- Once the stop flag is set, the watcher does not go round its loop again. -/
theorem seesStop_watch {stopped : Nat} (hstop : s.stopFlag = true)
    (h : call.SeesStop s stopped) (hmove : GuardedMove call s .watch s') :
    call.SeesStop s' stopped := by
  unfold GuardedCall.SeesStop at h
  cases hmove with
  | lookAtStop place =>
      unfold GuardedCall.SeesStop
      rw [hstop]
      trivial
  | lookAtCancel place =>
      rw [place] at h
      unfold GuardedCall.SeesStop
      cases s.cancelledAt with
      | none => exact h
      | some t => trivial
  | sleep place early =>
      rw [place] at h
      exact (congrArg (· + call.hooks.interruptPollInterval) h).le
  | begin | timedOut | wake | interrupt => trivial

theorem callerPrompt_watch (hsound : call.CallerSound s) (h : call.CallerPrompt s)
    (hmove : GuardedMove call s .watch s') : call.CallerPrompt s' := by
  obtain ⟨-, -, -, hcaller, -, hnow, -⟩ := watcherMove_place hmove
  unfold GuardedCall.CallerPrompt at h ⊢
  unfold GuardedCall.CallerSound at hsound
  rw [hcaller, hnow]
  split at h
  case h_1 frame place =>
      rw [place] at hsound
      exact ⟨h.1, seesStop_watch hsound.2.2 h.2 hmove⟩
  case h_2 => exact h
  case h_3 => exact h
  case h_4 => trivial

/-- What prompt threads add to what holds of every call. -/
structure GuardedCall.InTime (call : GuardedCall) (s : GuardedRun α) : Prop where
  sound : call.Sound s
  watcher : call.WatcherPrompt s
  caller : call.CallerPrompt s

/-- The caller's own steps keep when `execute` was called. -/
theorem started?_afterJoin (now : Nat) (frame : Frame α) (reason : Option InterruptReason) :
    (call.afterJoin now frame reason).started? = some frame.started := by
  cases reason with
  | none => rfl
  | some reason => rfl

theorem started?_afterCheck (cancelled : Bool) :
    (call.afterCheck cancelled : Caller α).started? = none := by
  rcases afterCheck_cases α call cancelled with ⟨hopening, -⟩ | ⟨err, hrefused, -⟩
  · rw [hopening]; rfl
  · rw [hrefused]; rfl

theorem inTime_step {label : GuardedStep α} (h : call.InTime s) (hprompt : call.Prompt s label)
    (hstep : call.step s label = some s') : call.InTime s' := by
  obtain ⟨hsound, hwatcher, hcaller⟩ := h
  refine ⟨step_sound hsound hstep, ?_, ?_⟩
  -- of the caller's moves the watcher sees only whether `execute` has begun
  · cases guardedMove hstep with
    | tick passed => exact watcherPrompt_tick hwatcher hprompt
    | cancel => exact watcherPrompt_cancel hsound.watcher hwatcher
    | execute place => exact watcherPrompt_execute
    | check place =>
        refine watcherPrompt_frame hwatcher rfl rfl rfl ?_ rfl
        rw [place]
        exact started?_afterCheck _
    | join gone place =>
        refine watcherPrompt_frame hwatcher rfl rfl rfl ?_ rfl
        rw [place]
        exact started?_afterJoin _ _ _
    | refuse _ place | finish _ place | stop place | settle place =>
        refine watcherPrompt_frame hwatcher rfl rfl rfl ?_ rfl
        rw [place]
        rfl
    | _ => exact watcherPrompt_watch hsound.watcher hwatcher (guardedMove hstep)
  · unfold GuardedCall.CallerPrompt at hcaller
    cases guardedMove hstep with
    | tick passed => exact callerPrompt_tick hcaller hprompt
    | cancel => exact hcaller
    | check place =>
        unfold GuardedCall.CallerPrompt
        rcases afterCheck_cases α call s.cancelledAt.isSome with ⟨hopening, -⟩ | ⟨err, hrefused, -⟩
        · rw [hopening]; trivial
        · rw [hrefused]; trivial
    | refuse | execute | finish => trivial
    | stop place => exact ⟨Nat.le_add_right _ _, seesStop_stop hwatcher⟩
    | @join frame reason gone place =>
        rw [place] at hcaller
        cases reason with
        | none => exact hcaller.1
        | some reason => exact hcaller.1
    | settle place =>
        rw [place] at hcaller
        exact hcaller
    | _ => exact callerPrompt_watch hsound.caller hcaller (guardedMove hstep)

theorem inTime_of_reachable {now : Nat} {cancelled : Bool}
    (h : (guarded α call now cancelled).Reachable call.Prompt s) : call.InTime s :=
  h.inv ⟨start_sound call now cancelled, trivial, trivial⟩
    fun _ _ _ hs hprompt hstep => inTime_step hs hprompt hstep

theorem GuardedCall.Due.mono {time time' : Nat} (h : call.Due s time') (hle : time ≤ time') :
    call.Due s time :=
  ⟨fun hlimited started hstarted => hle.trans_lt (h.timeout hlimited started hstarted),
    fun t started ht hstarted => hle.trans (h.cancel t started ht hstarted)⟩

/-- A query that runs without a watcher has nothing to be interrupted for. -/
theorem due_of_unwatched (h : call.Sound s) (hunwatched : call.watcherAtStart = .absent)
    (time : Nat) : call.Due s time := by
  unfold GuardedCall.watcherAtStart at hunwatched
  split at hunwatched
  · cases hunwatched
  · next hnever =>
      rw [not_or] at hnever
      exact ⟨fun hlimited => absurd hlimited hnever.1,
        fun t _ ht => absurd (h.cancelledBy t ht).1 hnever.2⟩

/-- A query that has run without an interrupt so far. -/
theorem due_of_executing (h : call.InTime s) {started : Nat} (place : s.caller = .executing started)
    (hquiet : s.interrupts = []) : call.Due s s.now := by
  obtain ⟨hsound, hwatcher, -⟩ := h
  have hwatcherSound := hsound.watcher
  have hcallerSound := hsound.caller
  unfold GuardedCall.WatcherPrompt at hwatcher
  unfold GuardedCall.WatcherSound at hwatcherSound
  unfold GuardedCall.CallerSound at hcallerSound
  rw [place] at hcallerSound
  split at hwatcher
  case h_1 habsent =>
      have hwatched := hsound.watched (by rw [place]; rfl)
      exact due_of_unwatched hsound (hwatched.mp habsent) _
  case h_2 hended =>
      rw [hended, hcallerSound.2] at hwatcherSound
      exact absurd hwatcherSound.2 (by decide)
  case h_3 => exact hwatcher.2
  case h_4 => exact hwatcher.2
  case h_5 => exact hwatcher.2
  case h_6 => exact hwatcher.2.1
  case h_7 => exact hwatcher
  case h_8 => exact hwatcher.2.1.mono hwatcher.2.2.1
  case h_9 hended =>
      rw [hended, hquiet] at hwatcherSound
      obtain ⟨t, -, hlist, -⟩ := hwatcherSound
      cases hlist

theorem due_of_interrupted (h : call.InTime s) : ∀ t ∈ s.interrupts, call.Due s t := by
  obtain ⟨hsound, hwatcher, -⟩ := h
  have hwatcherSound := hsound.watcher
  unfold GuardedCall.WatcherPrompt at hwatcher
  unfold GuardedCall.WatcherSound at hwatcherSound
  split at hwatcher
  case h_9 => exact hwatcher
  all_goals
    next place =>
      rw [place] at hwatcherSound
      have hquiet : s.interrupts = [] := by
        first | exact hwatcherSound | exact hwatcherSound.1
      rw [hquiet]
      exact fun t ht => absurd ht List.not_mem_nil

/-- **Interrupts come in time**, where the threads are prompt: within a poll interval of the
    time limit and of the cancellation (or of the start, where that is later); and the call
    returns within a poll interval of the stop flag. -/
theorem interrupt_in_time {now : Nat} {cancelled : Bool}
    (h : (guarded α call now cancelled).Reachable call.Prompt s) :
    (∀ started, s.caller = .executing started → s.interrupts = [] → call.Due s s.now) ∧
      (∀ t ∈ s.interrupts, call.Due s t) ∧
      ∀ frame time outcome, s.caller = .returned frame time outcome →
        time ≤ frame.stopped + call.hooks.interruptPollInterval := by
  have hin := inTime_of_reachable h
  refine ⟨fun started place hquiet => due_of_executing hin place hquiet, due_of_interrupted hin,
    fun frame time outcome place => ?_⟩
  have hcaller := hin.caller
  unfold GuardedCall.CallerPrompt at hcaller
  rw [place] at hcaller
  exact hcaller

/-- Time may pass while a query runs and the watcher sleeps. -/
theorem prompt_tick {started since wake passed : Nat} (hcaller : s.caller = .executing started)
    (hwatcher : s.watcher = .asleep since wake) (hasleep : s.now < wake)
    (hpassed : s.now + passed ≤ wake) : call.Prompt s (.tick passed) := by
  refine ⟨?_, fun since' wake' hplace => ?_⟩
  · rintro ⟨label, hthread, hstep⟩
    cases label with
    | tick | cancel | connect | finish => cases hthread
    | watch =>
        have hearly : ¬ wake ≤ s.now := Nat.not_le.mpr hasleep
        simp [GuardedCall.step, GuardedCall.watcherStep, hwatcher, hearly] at hstep
    | check | stop | join | settle =>
        simp [GuardedCall.step, GuardedCall.callerStep, hcaller] at hstep
  · rw [hwatcher] at hplace
    cases hplace
    exact hpassed

/-- `SELECT 1` while it runs. -/
def selectOneAt (now : Nat) (cancelledAt : Option Nat) (interrupts : List Nat)
    (watcher : Watcher) : GuardedRun Nat :=
  ⟨now, cancelledAt, false, interrupts, .executing 0, watcher⟩

/-- The token is set two milliseconds into the query, while the watcher sleeps; it finds the
    token when it wakes, three milliseconds later. -/
theorem selectOne_interrupt_in_time :
    ∃ s : GuardedRun Nat, s.caller = .executing 0 ∧ s.cancelledAt = some (millis 2) ∧
      s.interrupts = [millis 5] ∧ ∀ t ∈ s.interrupts, selectOne.Due s t := by
  have hasleep : (guarded Nat selectOne 0 false).Reachable selectOne.Prompt
      (selectOneAt 0 none [] (.asleep 0 (millis 5))) := by
    have hrun : (guarded Nat selectOne 0 false).runFrom (guarded Nat selectOne 0 false).start
        [.check, .connect (.ok ()), .watch, .watch, .watch, .watch] =
          some (selectOneAt 0 none [] (.asleep 0 (millis 5))) := rfl
    exact Machine.reachable_of_runFrom .start
      (Machine.guardedFrom_of_forall _ (by simp [GuardedCall.Prompt])) hrun
  have hdue : (guarded Nat selectOne 0 false).Reachable selectOne.Prompt
      (selectOneAt (millis 5) (some (millis 2)) [] (.asleep 0 (millis 5))) := by
    have hrun : (guarded Nat selectOne 0 false).runFrom
        (selectOneAt 0 none [] (.asleep 0 (millis 5)))
        [.tick (millis 2), .cancel, .tick (millis 3)] =
          some (selectOneAt (millis 5) (some (millis 2)) [] (.asleep 0 (millis 5))) := rfl
    have hearly : selectOne.Prompt (selectOneAt 0 none [] (.asleep 0 (millis 5)))
        (.tick (millis 2)) := prompt_tick rfl rfl (by decide) (by decide)
    have hlate : selectOne.Prompt
        (selectOneAt (millis 2) (some (millis 2)) [] (.asleep 0 (millis 5))) (.tick (millis 3)) :=
      prompt_tick rfl rfl (by decide) (by decide)
    refine Machine.reachable_of_runFrom hasleep ?_ hrun
    exact ⟨hearly, trivial, hlate, trivial⟩
  have hreach : (guarded Nat selectOne 0 false).Reachable selectOne.Prompt
      (selectOneAt (millis 5) (some (millis 2)) [millis 5] (.ended (some .cancelled))) := by
    have hrun : (guarded Nat selectOne 0 false).runFrom
        (selectOneAt (millis 5) (some (millis 2)) [] (.asleep 0 (millis 5)))
        [.watch, .watch, .watch, .watch] =
          some (selectOneAt (millis 5) (some (millis 2)) [millis 5]
            (.ended (some .cancelled))) := rfl
    exact Machine.reachable_of_runFrom hdue
      (Machine.guardedFrom_of_forall _ (by simp [GuardedCall.Prompt])) hrun
  exact ⟨_, rfl, rfl, rfl, (interrupt_in_time hreach).2.1⟩

end Ga4Mcp.Scratchpad
