/-
  LIBRARY. Machines: states, labelled steps that may be refused, and the states reached
  by runs.

  * `Machine.Reachable guard`: reached by a run all of whose steps meet `guard`. A guard
    is a condition on the state before a step and on its label.
  * `Reachable.inv`: an invariant kept by every step that meets the guard holds of every
    state reached.
  * `Reachable.mono`: a weaker guard reaches more.
  * `reachable_of_runFrom`: a run carried out label by label reaches its end.
  * `Machine.History guard past s`: such a run, with the states it went through;
    `History.within_peak`: a bound kept by the steps, that a step may raise to the limit of
    the state it is taken in, is the largest limit so far.
-/
import Mathlib.Tactic.Common

namespace Ga4Mcp.Lib

universe u v

/-- A start, and a step for each label that may be taken. -/
structure Machine (σ : Type u) (ι : Type v) where
  start : σ
  step : σ → ι → Option σ

namespace Machine

variable {σ : Type u} {ι : Type v} (M : Machine σ ι)

/-- No condition on the steps. -/
def anyStep (_ : σ) (_ : ι) : Prop := True

/-- The states of runs whose labels all meet a guard. -/
inductive Reachable (guard : σ → ι → Prop) : σ → Prop where
  | start : Reachable guard M.start
  | step {s s' : σ} {label : ι} (before : Reachable guard s) (meets : guard s label)
      (taken : M.step s label = some s') : Reachable guard s'

variable {M} {guard guard' : σ → ι → Prop}

/-- The rule of invariants. -/
theorem Reachable.inv {Inv : σ → Prop} (start : Inv M.start)
    (step : ∀ s s' label, Inv s → guard s label → M.step s label = some s' → Inv s')
    {s : σ} (h : M.Reachable guard s) : Inv s := by
  induction h with
  | start => exact start
  | step _ meets taken ih => exact step _ _ _ ih meets taken

theorem Reachable.mono (hguard : ∀ s label, guard s label → guard' s label) {s : σ}
    (h : M.Reachable guard s) : M.Reachable guard' s := by
  induction h with
  | start => exact .start
  | step _ meets taken ih => exact .step ih (hguard _ _ meets) taken

variable (M) in
/-- The run with the given labels from a state. -/
def runFrom : σ → List ι → Option σ
  | s, [] => some s
  | s, label :: labels => (M.step s label).bind fun s' => runFrom s' labels

variable (M) in
/-- Every step of the run with these labels meets the guard. -/
def GuardedFrom (guard : σ → ι → Prop) : σ → List ι → Prop
  | _, [] => True
  | s, label :: labels =>
      guard s label ∧
        match M.step s label with
        | some s' => GuardedFrom guard s' labels
        | none => True

instance decidableGuardedFrom [∀ s label, Decidable (guard s label)] :
    (s : σ) → (labels : List ι) → Decidable (M.GuardedFrom guard s labels)
  | _, [] => isTrue trivial
  | s, label :: labels =>
      have rest : Decidable (match M.step s label with
          | some s' => M.GuardedFrom guard s' labels
          | none => True) := by
        cases M.step s label with
        | some s' => exact decidableGuardedFrom s' labels
        | none => exact isTrue trivial
      inferInstanceAs (Decidable (_ ∧ _))

theorem reachable_of_runFrom {s s' : σ} {labels : List ι} (h : M.Reachable guard s)
    (hguard : M.GuardedFrom guard s labels) (hrun : M.runFrom s labels = some s') :
    M.Reachable guard s' := by
  induction labels generalizing s with
  | nil =>
      obtain rfl : s = s' := Option.some.inj hrun
      exact h
  | cons label labels ih =>
      rw [runFrom, Option.bind_eq_some_iff] at hrun
      obtain ⟨next, hstep, hrest⟩ := hrun
      have hmeets := hguard.2
      rw [hstep] at hmeets
      exact ih (.step h hguard.1 hstep) hmeets hrest

/-- The end of a run that can be carried out. -/
theorem reachable_get {labels : List ι} (hguard : M.GuardedFrom guard M.start labels)
    (h : (M.runFrom M.start labels).isSome) :
    M.Reachable guard ((M.runFrom M.start labels).get h) :=
  reachable_of_runFrom .start hguard (Option.some_get h).symm

theorem guardedFrom_anyStep (s : σ) (labels : List ι) : M.GuardedFrom anyStep s labels := by
  induction labels generalizing s with
  | nil => trivial
  | cons label labels ih =>
      refine ⟨trivial, ?_⟩
      cases M.step s label with
      | none => trivial
      | some s' => exact ih s'

/-- Labels that meet a guard in every state. -/
theorem guardedFrom_of_forall (s : σ) {labels : List ι}
    (h : ∀ label ∈ labels, ∀ s, guard s label) : M.GuardedFrom guard s labels := by
  induction labels generalizing s with
  | nil => trivial
  | cons label labels ih =>
      refine ⟨h label List.mem_cons_self s, ?_⟩
      cases M.step s label with
      | none => trivial
      | some s' => exact ih s' fun label hmem => h label (List.mem_cons_of_mem _ hmem)

/-! ## The states of a run -/

variable (M) in
/-- The state is reached by a run through the states of the list, the last one first. -/
inductive History (guard : σ → ι → Prop) : List σ → σ → Prop where
  | start : History guard [] M.start
  | step {past : List σ} {s s' : σ} {label : ι} (before : History guard past s)
      (meets : guard s label) (taken : M.step s label = some s') : History guard (s :: past) s'

/-- The largest value in a list of states. -/
def peak (f : σ → Nat) : List σ → Nat
  | [] => 0
  | s :: states => max (f s) (peak f states)

/-- The rule of limits that change on the way. -/
theorem History.within_peak {Within : Nat → σ → Prop} {limit : σ → Nat}
    (mono : ∀ s b b', b ≤ b' → Within b s → Within b' s)
    (start : Within (limit M.start) M.start)
    (step : ∀ s s' label b, limit s ≤ b → Within b s → guard s label →
      M.step s label = some s' → Within b s')
    {past : List σ} {s : σ} (h : M.History guard past s) : Within (peak limit (s :: past)) s := by
  induction h with
  | start => exact mono _ _ _ (Nat.le_max_left ..) start
  | @step past s s' label _ meets taken ih =>
      have hs' : Within (peak limit (s :: past)) s' :=
        step s s' label _ (Nat.le_max_left ..) ih meets taken
      exact mono _ _ _ (Nat.le_max_right ..) hs'

variable (M) in
/-- The run with the given labels, as far as it can be carried out: the states before its
    end, and the end. -/
def trail : List σ → σ → List ι → List σ × σ
  | past, s, [] => (past, s)
  | past, s, label :: labels =>
      match M.step s label with
      | some s' => trail (s :: past) s' labels
      | none => (past, s)

theorem history_trail {past : List σ} {s : σ} (h : M.History anyStep past s) (labels : List ι) :
    M.History anyStep (M.trail past s labels).1 (M.trail past s labels).2 := by
  induction labels generalizing past s with
  | nil => exact h
  | cons label labels ih =>
      rw [trail]
      split
      case h_1 s' taken => exact ih (.step h trivial taken)
      case h_2 => exact h

theorem reachable_anyStep_get {labels : List ι} (h : (M.runFrom M.start labels).isSome) :
    M.Reachable anyStep ((M.runFrom M.start labels).get h) :=
  reachable_get (guardedFrom_anyStep _ _) h

end Machine

end Ga4Mcp.Lib
