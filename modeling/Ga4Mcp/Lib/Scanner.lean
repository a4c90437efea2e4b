/-
  LIBRARY. Scanners: machines that read a list from the left in steps of one or
  more elements, with look-ahead, and write a list of outputs.

  * `Scanner`, `run`: one step consumes the head and possibly more of the tail.
    `run` is structural on the length, so a run on a literal input evaluates.
  * `run_cons`: the unfolding of one step. Proofs use this equation only.
  * `Always`: every step taken on a run satisfies a predicate.
  * `run_append`: scanning `xs ++ tail` is scanning `xs` and then `tail`, when no
    step looks across the seam; `run_append_of_always` rules that out step by step.
  * `run_inv`, `run_related`: an invariant of the states, and a relation between input
    and output, each kept by one step and so by a run.
  * `run_flatMap`, `run_copies`: a stretch that is read element by element in one state.
  * `run_simulates`: two scanners over one input, related step by step.

  Nothing here names a language.
-/
import Mathlib.Data.List.Basic
import Mathlib.Tactic.Common

namespace Ga4Mcp.Lib

universe u v w

/-- A scanner with states `σ`, inputs `α` and outputs `β`. `step s a rest` reads `a`
    with `rest` still ahead: what it writes, the next state, what is left to read. -/
structure Scanner (σ : Type u) (α : Type v) (β : Type w) where
  step : σ → α → List α → List β × σ × List α
  progress : ∀ s a rest, (step s a rest).2.2.length ≤ rest.length

namespace Scanner

variable {σ : Type u} {α : Type v} {β : Type w} (S : Scanner σ α β)

/-- The run of a scanner, for at most so many steps. -/
def runFuel : Nat → σ → List α → List β × σ
  | 0, s, _ => ([], s)
  | _ + 1, s, [] => ([], s)
  | n + 1, s, a :: rest =>
      let next := S.step s a rest
      let tail := runFuel n next.2.1 next.2.2
      (next.1 ++ tail.1, tail.2)

/-- The whole input from state `s`: all outputs and the last state. -/
def run (s : σ) (input : List α) : List β × σ := S.runFuel input.length s input

theorem runFuel_nil (n : Nat) (s : σ) : S.runFuel n s [] = ([], s) := by
  cases n <;> rfl

/-- More fuel than elements changes nothing. -/
theorem runFuel_eq_run (n : Nat) (s : σ) (input : List α) (h : input.length ≤ n) :
    S.runFuel n s input = S.run s input := by
  have key : ∀ (m n : Nat) (s : σ) (input : List α), input.length ≤ m → input.length ≤ n →
      S.runFuel m s input = S.runFuel n s input := by
    intro m
    induction m with
    | zero =>
        intro n s input hm _
        have : input = [] := List.eq_nil_of_length_eq_zero (Nat.le_zero.mp hm)
        rw [this, runFuel_nil, runFuel_nil]
    | succ m ih =>
        intro n s input hm hn
        cases input with
        | nil => rw [runFuel_nil, runFuel_nil]
        | cons a rest =>
            simp only [List.length_cons] at hm hn
            obtain ⟨n, rfl⟩ : ∃ k, n = k + 1 := ⟨n - 1, by omega⟩
            have hp := S.progress s a rest
            simp only [runFuel]
            rw [ih n _ _ (by omega) (by omega)]
  exact key n input.length s input h (Nat.le_refl _)

@[simp] theorem run_nil (s : σ) : S.run s [] = ([], s) := rfl

theorem run_cons (s : σ) (a : α) (rest : List α) :
    S.run s (a :: rest) =
      ((S.step s a rest).1 ++ (S.run (S.step s a rest).2.1 (S.step s a rest).2.2).1,
        (S.run (S.step s a rest).2.1 (S.step s a rest).2.2).2) := by
  have hp := S.progress s a rest
  rw [← S.runFuel_eq_run rest.length _ _ hp]
  rfl

/-- One step of a run, with the step's result given. -/
theorem run_step {s s' : σ} {a : α} {rest rest' : List α} {out : List β}
    (h : S.step s a rest = (out, s', rest')) :
    S.run s (a :: rest) = (out ++ (S.run s' rest').1, (S.run s' rest').2) := by
  rw [run_cons, h]

/-- Induction along a run: it is enough to go from what a step leaves to the input
    the step was taken on. -/
theorem run_induction {motive : σ → List α → Prop} (nil : ∀ s, motive s [])
    (cons : ∀ s a rest, motive (S.step s a rest).2.1 (S.step s a rest).2.2 →
      motive s (a :: rest)) : ∀ s input, motive s input := by
  have key : ∀ (n : Nat) (s : σ) (input : List α), input.length ≤ n → motive s input := by
    intro n
    induction n with
    | zero =>
        intro s input hn
        rw [List.eq_nil_of_length_eq_zero (Nat.le_zero.mp hn)]
        exact nil s
    | succ n ih =>
        intro s input hn
        cases input with
        | nil => exact nil s
        | cons a rest =>
            have hp := S.progress s a rest
            simp only [List.length_cons] at hn
            exact cons s a rest (ih _ _ (by omega))
  exact fun s input => key input.length s input (Nat.le_refl _)

/-! ## Predicates on every step of a run -/

section Always

variable (P : σ → α → List α → Prop)

/-- `P` holds before each of so many steps. -/
def alwaysFuel : Nat → σ → List α → Prop
  | 0, _, _ => True
  | _ + 1, _, [] => True
  | n + 1, s, a :: rest =>
      P s a rest ∧ alwaysFuel n (S.step s a rest).2.1 (S.step s a rest).2.2

/-- Every step of the run from `s` over `input` satisfies `P`. -/
def Always (s : σ) (input : List α) : Prop := S.alwaysFuel P input.length s input

/-- It is decided step by step. -/
def decideAlwaysFuel [∀ s a rest, Decidable (P s a rest)] :
    (n : Nat) → (s : σ) → (input : List α) → Decidable (S.alwaysFuel P n s input)
  | 0, _, _ => isTrue trivial
  | _ + 1, _, [] => isTrue trivial
  | n + 1, s, a :: rest =>
      @instDecidableAnd _ _ (inferInstanceAs (Decidable (P s a rest)))
        (decideAlwaysFuel n (S.step s a rest).2.1 (S.step s a rest).2.2)

instance [∀ s a rest, Decidable (P s a rest)] (s : σ) (input : List α) :
    Decidable (S.Always P s input) :=
  S.decideAlwaysFuel P input.length s input

theorem alwaysFuel_iff (n : Nat) (s : σ) (input : List α) (h : input.length ≤ n) :
    S.alwaysFuel P n s input ↔ S.Always P s input := by
  have key : ∀ (m n : Nat) (s : σ) (input : List α), input.length ≤ m → input.length ≤ n →
      (S.alwaysFuel P m s input ↔ S.alwaysFuel P n s input) := by
    intro m
    induction m with
    | zero =>
        intro n s input hm _
        rw [List.eq_nil_of_length_eq_zero (Nat.le_zero.mp hm)]
        cases n <;> exact Iff.rfl
    | succ m ih =>
        intro n s input hm hn
        cases input with
        | nil => cases n <;> exact Iff.rfl
        | cons a rest =>
            simp only [List.length_cons] at hm hn
            obtain ⟨n, rfl⟩ : ∃ k, n = k + 1 := ⟨n - 1, by omega⟩
            have hp := S.progress s a rest
            exact and_congr_right fun _ => ih n _ _ (by omega) (by omega)
  exact key n input.length s input h (Nat.le_refl _)

theorem always_cons (s : σ) (a : α) (rest : List α) :
    S.Always P s (a :: rest) ↔
      P s a rest ∧ S.Always P (S.step s a rest).2.1 (S.step s a rest).2.2 := by
  have hp := S.progress s a rest
  rw [← S.alwaysFuel_iff P rest.length _ _ hp]
  exact Iff.rfl

end Always

/-! ## Two inputs in a row -/

/-- When no step taken inside `xs` looks at `tail` or reads into it, scanning `xs ++ tail`
    is scanning `xs` and going on with `tail` in the state reached. `I` is an invariant
    of the states. -/
theorem run_append {I : σ → Prop} (tail : List α)
    (keep : ∀ s a rest, I s → I (S.step s a rest).2.1)
    (seam : ∀ s a rest, I s → S.step s a (rest ++ tail) =
      ((S.step s a rest).1, (S.step s a rest).2.1, (S.step s a rest).2.2 ++ tail)) :
    ∀ s xs, I s → S.run s (xs ++ tail) =
      ((S.run s xs).1 ++ (S.run (S.run s xs).2 tail).1, (S.run (S.run s xs).2 tail).2) := by
  intro s xs
  refine S.run_induction (motive := fun s xs => I s → S.run s (xs ++ tail) =
    ((S.run s xs).1 ++ (S.run (S.run s xs).2 tail).1, (S.run (S.run s xs).2 tail).2)) ?_ ?_ s xs
  · intro s _
    simp
  · intro s a rest ih hs
    rw [List.cons_append, S.run_step (seam s a rest hs), ih (keep s a rest hs), S.run_cons s a rest]
    simp only [List.append_assoc]

/-- The same, when every step inside `xs` satisfies a predicate that rules it out. -/
theorem run_append_of_always {P : σ → α → List α → Prop} (tail : List α)
    (seam : ∀ s a rest, P s a rest → S.step s a (rest ++ tail) =
      ((S.step s a rest).1, (S.step s a rest).2.1, (S.step s a rest).2.2 ++ tail)) :
    ∀ s xs, S.Always P s xs → S.run s (xs ++ tail) =
      ((S.run s xs).1 ++ (S.run (S.run s xs).2 tail).1, (S.run (S.run s xs).2 tail).2) := by
  intro s xs
  refine S.run_induction (motive := fun s xs => S.Always P s xs → S.run s (xs ++ tail) =
    ((S.run s xs).1 ++ (S.run (S.run s xs).2 tail).1, (S.run (S.run s xs).2 tail).2)) ?_ ?_ s xs
  · intro s _
    simp
  · intro s a rest ih hs
    rw [always_cons] at hs
    rw [List.cons_append, S.run_step (seam s a rest hs.1), ih hs.2, S.run_cons s a rest]
    simp only [List.append_assoc]

/-- An invariant of the states holds at the end of a run. -/
theorem run_inv {Inv : σ → Prop} (keep : ∀ s a rest, Inv s → Inv (S.step s a rest).2.1) :
    ∀ s xs, Inv s → Inv (S.run s xs).2 := by
  refine S.run_induction (motive := fun s xs => Inv s → Inv (S.run s xs).2) (fun s hs => hs) ?_
  intro s a rest ih hs
  rw [run_cons]
  exact ih (keep s a rest hs)

/-- A relation between what is read and what is written, extended by every step, holds
    between the input of a run and its output. -/
theorem run_related {I : σ → Prop} {R : List α → List β → Prop}
    (keep : ∀ s a rest, I s → I (S.step s a rest).2.1) (nil : R [] [])
    (step : ∀ s a rest out, I s → R (S.step s a rest).2.2 out →
      R (a :: rest) ((S.step s a rest).1 ++ out)) :
    ∀ s input, I s → R input (S.run s input).1 := by
  refine S.run_induction (motive := fun s input => I s → R input (S.run s input).1)
    (fun _ _ => nil) ?_
  intro s a rest ih hs
  rw [run_cons]
  exact step s a rest _ hs (ih (keep s a rest hs))

/-- A stretch on which every step reads one element and stays in its state: the outputs are
    written one after the other. -/
theorem run_flatMap {s : σ} (f : α → List β) (xs tail : List α)
    (each : ∀ a rest, a :: rest <:+ xs → S.step s a (rest ++ tail) = (f a, s, rest ++ tail)) :
    S.run s (xs ++ tail) = (xs.flatMap f ++ (S.run s tail).1, (S.run s tail).2) := by
  induction xs with
  | nil => rfl
  | cons a rest ih =>
      rw [List.cons_append, S.run_step (each a rest List.suffix_rfl),
        ih fun b suffix hs => each b suffix (hs.trans (List.suffix_cons a rest)),
        List.flatMap_cons, List.append_assoc]

/-- The same, where every step copies its element. -/
theorem run_copies (S : Scanner σ α α) {s : σ} (xs tail : List α)
    (copy : ∀ a rest, a :: rest <:+ xs → S.step s a (rest ++ tail) = ([a], s, rest ++ tail)) :
    S.run s (xs ++ tail) = (xs ++ (S.run s tail).1, (S.run s tail).2) := by
  rw [S.run_flatMap (fun a => [a]) xs tail copy, List.flatMap_singleton']

end Scanner

/-! ## Simulation -/

section Simulation

variable {σ τ : Type*} {α β γ : Type*} (S : Scanner σ α β) (T : Scanner τ α γ)

/-- `T` drives: for each of its steps, `S` reads the same elements, in any number of its
    own steps, and the two outputs agree up to `G`. Then the whole runs agree. The
    predicate `P` may be assumed of every step of `T`. -/
theorem run_simulates {R : σ → τ → List α → Prop} {G : List β → List γ → Prop}
    {P : τ → α → List α → Prop} (nil : G [] [])
    (append : ∀ {o₁ o₂ c₁ c₂}, G o₁ c₁ → G o₂ c₂ → G (o₁ ++ o₂) (c₁ ++ c₂))
    (step : ∀ s t a rest, R s t (a :: rest) → P t a rest → ∃ o s',
      S.run s (a :: rest) = (o ++ (S.run s' (T.step t a rest).2.2).1,
        (S.run s' (T.step t a rest).2.2).2) ∧
      G o (T.step t a rest).1 ∧ R s' (T.step t a rest).2.1 (T.step t a rest).2.2) :
    ∀ s t input, R s t input → T.Always P t input →
      G (S.run s input).1 (T.run t input).1 ∧ R (S.run s input).2 (T.run t input).2 [] := by
  have key : ∀ t input, ∀ s, R s t input → T.Always P t input →
      G (S.run s input).1 (T.run t input).1 ∧ R (S.run s input).2 (T.run t input).2 [] := by
    refine T.run_induction (motive := fun t input => ∀ s, R s t input → T.Always P t input →
      G (S.run s input).1 (T.run t input).1 ∧ R (S.run s input).2 (T.run t input).2 []) ?_ ?_
    · intro t s hR _
      exact ⟨nil, hR⟩
    · intro t a rest ih s hR hP
      rw [T.always_cons] at hP
      obtain ⟨o, s', hrun, hgood, hR'⟩ := step s t a rest hR hP.1
      obtain ⟨hgood', hend⟩ := ih s' hR' hP.2
      rw [hrun, T.run_cons]
      exact ⟨append hgood hgood', hend⟩
  exact fun s t input => key t input s

end Simulation

end Ga4Mcp.Lib
