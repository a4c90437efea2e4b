/-
  LIBRARY. Names for the columns of a table.

  `fillFrom` gives a fallback to every column without a name, by its position.
  `suffixRepeats` gives to a name that has occurred before a suffix with how often it has.

  * `nodup_fillFrom_iff`: filled names are distinct, unless a fallback is a given name.
  * `nodup_suffixRepeats_iff`: suffixed names are distinct, unless a suffixed name occurs
    among the names themselves.
-/
import Mathlib.Data.List.Nodup
import Mathlib.Data.List.Count
import Mathlib.Data.List.ReduceOption
import Mathlib.Tactic.Common

namespace Ga4Mcp.Lib

universe u

variable {α : Type u}

/-! ## Fallbacks -/

section Fill

variable {fallback : Nat → α}

/-- The names, with a fallback by position for those that are missing. -/
def fillFrom (fallback : Nat → α) (n : Nat) : List (Option α) → List α
  | [] => []
  | name :: names => name.getD (fallback n) :: fillFrom fallback (n + 1) names

/-- The positions without a name. -/
def blanksFrom (n : Nat) : List (Option α) → List Nat
  | [] => []
  | some _ :: names => blanksFrom (n + 1) names
  | none :: names => n :: blanksFrom (n + 1) names

theorem fillFrom_perm (n : Nat) (names : List (Option α)) :
    (fillFrom fallback n names).Perm
      (names.reduceOption ++ (blanksFrom n names).map fallback) := by
  induction names generalizing n with
  | nil => exact .refl _
  | cons name names ih =>
      cases name with
      | some name => exact (ih (n + 1)).cons name
      | none => exact ((ih (n + 1)).cons (fallback n)).trans List.perm_middle.symm

theorem le_of_mem_blanksFrom {n k : Nat} {names : List (Option α)} (h : k ∈ blanksFrom n names) :
    n ≤ k := by
  induction names generalizing n with
  | nil => cases h
  | cons name names ih =>
      cases name with
      | some name => exact Nat.le_trans (Nat.le_succ n) (ih h)
      | none =>
          rcases List.mem_cons.mp h with rfl | h
          · exact Nat.le_refl _
          · exact Nat.le_trans (Nat.le_succ n) (ih h)

theorem nodup_blanksFrom (n : Nat) (names : List (Option α)) : (blanksFrom n names).Nodup := by
  induction names generalizing n with
  | nil => exact .nil
  | cons name names ih =>
      cases name with
      | some name => exact ih (n + 1)
      | none =>
          exact List.nodup_cons.mpr
            ⟨fun hmem => Nat.not_succ_le_self n (le_of_mem_blanksFrom hmem), ih (n + 1)⟩

/-- **Filled names** are distinct, unless a fallback is one of the given names. -/
theorem nodup_fillFrom_iff (hfallback : Function.Injective fallback) {names : List (Option α)}
    (hnames : names.reduceOption.Nodup) (n : Nat) :
    (fillFrom fallback n names).Nodup ↔
      ∀ k ∈ blanksFrom n names, fallback k ∉ names.reduceOption := by
  have hblanks : ((blanksFrom n names).map fallback).Nodup :=
    (nodup_blanksFrom n names).map hfallback
  rw [(fillFrom_perm n names).nodup_iff, List.nodup_append_comm, List.nodup_append']
  constructor
  · rintro ⟨-, -, hdisjoint⟩ k hk hmem
    exact hdisjoint (List.mem_map_of_mem hk) hmem
  · refine fun h => ⟨hblanks, hnames, ?_⟩
    intro name hname hmem
    obtain ⟨k, hk, rfl⟩ := List.mem_map.mp hname
    exact h k hk hmem

theorem mem_fillFrom {n : Nat} {names : List (Option α)} {name : α} :
    name ∈ fillFrom fallback n names ↔
      name ∈ names.reduceOption ∨ ∃ k ∈ blanksFrom n names, fallback k = name := by
  rw [(fillFrom_perm n names).mem_iff, List.mem_append, List.mem_map]

end Fill

/-! ## Suffixes -/

section Suffix

variable [BEq α] [LawfulBEq α] {suffix : α → Nat → α}

/-- `seen` are the names before. -/
def suffixRepeats (suffix : α → Nat → α) (seen : List α) : List α → List α
  | [] => []
  | base :: rest =>
      (if seen.count base = 0 then base else suffix base (seen.count base + 1)) ::
        suffixRepeats suffix (base :: seen) rest

/-- The suffixes that are appended to a name. -/
def Suffixed (seen bases : List α) (base : α) (k : Nat) : Prop :=
  2 ≤ k ∧ seen.count base < k ∧ k ≤ seen.count base + bases.count base

/-- The names that stay as they are. -/
def Kept (seen bases : List α) (base : α) : Prop := base ∈ bases ∧ base ∉ seen

section Cons

variable {seen rest : List α} {base : α}

omit [BEq α] [LawfulBEq α] in
theorem kept_cons_iff (name : α) :
    Kept seen (base :: rest) name ↔ name = base ∧ base ∉ seen ∨ Kept (base :: seen) rest name := by
  unfold Kept
  rw [List.mem_cons, List.mem_cons]
  by_cases h : name = base
  · subst h
    simp
  · simp [h]

theorem suffixed_cons_iff (name : α) (k : Nat) :
    Suffixed seen (base :: rest) name k ↔
      name = base ∧ base ∈ seen ∧ k = seen.count base + 1 ∨
        Suffixed (base :: seen) rest name k := by
  unfold Suffixed
  by_cases h : name = base
  · subst h
    simp only [List.count_cons_self, ← List.count_pos_iff, true_and]
    omega
  · rw [List.count_cons_of_ne (Ne.symm h), List.count_cons_of_ne (Ne.symm h)]
    simp [h]

end Cons

theorem mem_suffixRepeats {seen bases : List α} {name : α} :
    name ∈ suffixRepeats suffix seen bases ↔
      Kept seen bases name ∨ ∃ base k, Suffixed seen bases base k ∧ suffix base k = name := by
  induction bases generalizing seen with
  | nil =>
      refine iff_of_false List.not_mem_nil ?_
      rintro (⟨hmem, -⟩ | ⟨base, k, ⟨-, hlt, hle⟩, -⟩)
      · cases hmem
      · exact Nat.not_le.mpr hlt hle
  | cons base rest ih =>
      rw [suffixRepeats, List.mem_cons, ih, kept_cons_iff]
      simp only [suffixed_cons_iff]
      by_cases h : base ∈ seen
      · rw [if_neg (Nat.ne_of_gt (List.count_pos_iff.mpr h))]
        constructor
        · rintro (rfl | hkept | ⟨b, k, hk, hname⟩)
          · exact .inr ⟨base, _, .inl ⟨rfl, h, rfl⟩, rfl⟩
          · exact .inl (.inr hkept)
          · exact .inr ⟨b, k, .inr hk, hname⟩
        · rintro ((⟨-, hnot⟩ | hkept) | ⟨b, k, ⟨rfl, -, rfl⟩ | hk, hname⟩)
          · exact absurd h hnot
          · exact .inr (.inl hkept)
          · exact .inl hname.symm
          · exact .inr (.inr ⟨b, k, hk, hname⟩)
      · rw [if_pos (List.count_eq_zero.mpr h)]
        constructor
        · rintro (rfl | hkept | ⟨b, k, hk, hname⟩)
          · exact .inl (.inl ⟨rfl, h⟩)
          · exact .inl (.inr hkept)
          · exact .inr ⟨b, k, .inr hk, hname⟩
        · rintro ((⟨rfl, -⟩ | hkept) | ⟨b, k, ⟨-, hmem, -⟩ | hk, hname⟩)
          · exact .inl rfl
          · exact .inr (.inl hkept)
          · exact absurd hmem h
          · exact .inr (.inr ⟨b, k, hk, hname⟩)

/-- One name more. -/
theorem nodup_suffixRepeats (hsuffix : Function.Injective2 suffix) (seen bases : List α) :
    (suffixRepeats suffix seen bases).Nodup ↔
      ∀ base k, Suffixed seen bases base k → ¬ Kept seen bases (suffix base k) := by
  induction bases generalizing seen with
  | nil =>
      refine iff_of_true .nil ?_
      rintro base k ⟨-, hlt, hle⟩
      exact absurd hle (Nat.not_le.mpr hlt)
  | cons base rest ih =>
      rw [suffixRepeats, List.nodup_cons, ih, mem_suffixRepeats]
      simp only [suffixed_cons_iff, kept_cons_iff]
      by_cases h : base ∈ seen
      · rw [if_neg (Nat.ne_of_gt (List.count_pos_iff.mpr h))]
        constructor
        · rintro ⟨hhead, htail⟩ b k hk (⟨-, hnot⟩ | hkept)
          · exact hnot h
          · rcases hk with ⟨rfl, -, rfl⟩ | hk
            · exact hhead (.inl hkept)
            · exact htail b k hk hkept
        · refine fun hall => ⟨?_, fun b k hk hkept => hall b k (.inr hk) (.inr hkept)⟩
          rintro (hkept | ⟨b, k, ⟨-, hlt, -⟩, heq⟩)
          · exact hall base _ (.inl ⟨rfl, h, rfl⟩) (.inr hkept)
          · obtain ⟨rfl, rfl⟩ := hsuffix heq
            rw [List.count_cons_self] at hlt
            exact Nat.lt_irrefl _ hlt
      · rw [if_pos (List.count_eq_zero.mpr h)]
        constructor
        · rintro ⟨hhead, htail⟩ b k (⟨-, hmem, -⟩ | hk) hkept
          · exact h hmem
          · rcases hkept with ⟨heq, -⟩ | hkept
            · exact hhead (.inr ⟨b, k, hk, heq⟩)
            · exact htail b k hk hkept
        · refine fun hall => ⟨?_, fun b k hk hkept => hall b k (.inr hk) (.inr hkept)⟩
          rintro (⟨-, hnot⟩ | ⟨b, k, hk, heq⟩)
          · exact hnot List.mem_cons_self
          · exact hall b k (.inr hk) (.inl ⟨heq, h⟩)

/-- **Suffixed names** are distinct, unless one of them occurs among the names. -/
theorem nodup_suffixRepeats_iff (hsuffix : Function.Injective2 suffix) (bases : List α) :
    (suffixRepeats suffix [] bases).Nodup ↔
      ∀ base k, 2 ≤ k → k ≤ bases.count base → suffix base k ∉ bases := by
  rw [nodup_suffixRepeats hsuffix]
  unfold Suffixed Kept
  simp only [List.count_nil, Nat.zero_add, List.not_mem_nil, not_false_eq_true, and_true, and_imp]
  exact forall₂_congr fun base k =>
    ⟨fun h htwo hle => h htwo (by omega) hle, fun h htwo _ hle => h htwo hle⟩

end Suffix

end Ga4Mcp.Lib
