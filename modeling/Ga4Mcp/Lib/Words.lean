/-
  LIBRARY. The words of a text: its longest parts without a separator.

  * `words_append_cons`, `words_intercalate`: the words on both sides of a separator.
  * `words_induction`: a text is one word, or a word, a separator and a text.
  * `occurs_iff_words`: a pattern without separators occurs in a text when it occurs in one of
    its words.
-/
import Mathlib.Data.List.Infix
import Mathlib.Tactic.Common

namespace Ga4Mcp.Lib

universe u

variable {α : Type u} {isSep : α → Bool}

/-- The parts between separators that are not empty. -/
def words (isSep : α → Bool) (t : List α) : List (List α) :=
  (t.splitOnP isSep).filter fun word => ¬ word.isEmpty

theorem words_append_cons {c : α} (hc : isSep c = true) (a b : List α) :
    words isSep (a ++ c :: b) = words isSep a ++ words isSep b := by
  rw [words, List.splitOnP_append_cons a b hc, List.filter_append]
  rfl

theorem words_of_free {t : List α} (h : ∀ c ∈ t, isSep c = false) (hne : t ≠ []) :
    words isSep t = [t] := by
  simp [words, List.splitOnP_eq_singleton h, hne]

theorem words_nil : words isSep [] = [] := rfl

theorem words_intercalate {c : α} (hc : isSep c = true) (parts : List (List α)) :
    words isSep (List.intercalate [c] parts) = parts.flatMap (words isSep) := by
  induction parts with
  | nil => rfl
  | cons part parts ih =>
      cases parts with
      | nil => simp
      | cons next parts =>
          have hsplit : List.intercalate [c] (part :: next :: parts) =
              part ++ c :: List.intercalate [c] (next :: parts) := by
            simp [List.intercalate]
          rw [hsplit, words_append_cons hc, ih]
          rfl

/-- A text is free of separators, or it has a first one. -/
theorem words_induction (isSep : α → Bool) {p : List α → Prop}
    (free : ∀ t, (∀ c ∈ t, isSep c = false) → p t)
    (cut : ∀ a c b, (∀ d ∈ a, isSep d = false) → isSep c = true → p b → p (a ++ c :: b)) :
    ∀ t, p t := by
  intro t
  induction hn : t.length using Nat.strongRecOn generalizing t with
  | ind n ih =>
      cases hfind : t.find? isSep with
      | none => exact free t fun c hc => by simpa using List.find?_eq_none.mp hfind c hc
      | some c =>
          obtain ⟨hc, a, b, rfl, ha⟩ := List.find?_eq_some_iff_append.mp hfind
          refine cut a c b (fun d hd => by simpa using ha d hd) hc (ih b.length ?_ b rfl)
          rw [← hn, List.length_append, List.length_cons]
          omega

theorem words_spec {t : List α} : ∀ word ∈ words isSep t,
    word ≠ [] ∧ ∀ c ∈ word, isSep c = false := by
  induction t using words_induction isSep with
  | free t hfree =>
      intro word hword
      rcases eq_or_ne t [] with rfl | hne
      · cases hword
      · rw [words_of_free hfree hne, List.mem_singleton] at hword
        exact hword ▸ ⟨hne, hfree⟩
  | cut a c b hfree hc ih =>
      intro word hword
      rw [words_append_cons hc, List.mem_append] at hword
      rcases hword with hword | hword
      · rcases eq_or_ne a [] with rfl | hne
        · cases hword
        · rw [words_of_free hfree hne, List.mem_singleton] at hword
          exact hword ▸ ⟨hne, hfree⟩
      · exact ih word hword

/-- Words that are put together again with a separator. -/
theorem words_intercalate_words {c : α} (hc : isSep c = true) {ws : List (List α)}
    (h : ∀ word ∈ ws, word ≠ [] ∧ ∀ d ∈ word, isSep d = false) :
    words isSep (List.intercalate [c] ws) = ws := by
  rw [words_intercalate hc]
  induction ws with
  | nil => rfl
  | cons word ws ih =>
      obtain ⟨⟨hne, hfree⟩, hws⟩ := List.forall_mem_cons.mp h
      rw [List.flatMap_cons, words_of_free hfree hne, ih hws, List.singleton_append]

/-! ## Patterns -/

/-- A pattern at the start of a text, or after a character where it may begin. -/
def Occurs (pattern : List α → Prop) (boundary : α → Prop) (t : List α) : Prop :=
  ∃ before found after, t = before ++ found ++ after ∧ pattern found ∧
    ∀ c ∈ before.getLast?, boundary c

section Patterns

variable {pattern : List α → Prop} {boundary : α → Prop}

theorem Occurs.append_left {a : List α} (h : Occurs pattern boundary a) (b : List α) :
    Occurs pattern boundary (a ++ b) := by
  obtain ⟨before, found, after, rfl, hfound, hbefore⟩ := h
  exact ⟨before, found, after ++ b, by simp, hfound, hbefore⟩

/-- A pattern may begin after a separator. -/
theorem Occurs.append_right {c : α} (hc : boundary c) {b : List α}
    (h : Occurs pattern boundary b) (a : List α) : Occurs pattern boundary (a ++ c :: b) := by
  obtain ⟨before, found, after, rfl, hfound, hbefore⟩ := h
  refine ⟨a ++ c :: before, found, after, by simp, hfound, ?_⟩
  intro d hd
  rcases List.eq_nil_or_concat before with rfl | ⟨init, last, rfl⟩
  · obtain rfl : c = d := by simpa using hd
    exact hc
  · refine hbefore d ?_
    rw [List.concat_eq_append, ← List.cons_append, ← List.append_assoc,
      List.getLast?_concat] at hd
    rwa [List.concat_eq_append, List.getLast?_concat]

/-- A part without separators lies on one side of a separator. -/
theorem occurs_append_cons {c : α} (hc : isSep c = true) (hboundary : boundary c)
    (hfree : ∀ found, pattern found → found ≠ [] ∧ ∀ d ∈ found, isSep d = false) (a b : List α) :
    Occurs pattern boundary (a ++ c :: b) ↔
      Occurs pattern boundary a ∨ Occurs pattern boundary b := by
  constructor
  · rintro ⟨before, found, after, hsplit, hfound, hbefore⟩
    obtain ⟨hne, hno⟩ := hfree found hfound
    have hnot : c ∉ found := fun hmem => by
      have := hno c hmem
      rw [hc] at this
      cases this
    rw [List.append_assoc, List.append_eq_append_iff] at hsplit
    rcases hsplit with ⟨m, rfl, hrest⟩ | ⟨m, rfl, hrest⟩
    · -- the part begins after the separator
      cases m with
      | nil =>
          obtain ⟨d, found', rfl⟩ := List.exists_cons_of_ne_nil hne
          obtain ⟨rfl, -⟩ := List.cons.inj hrest
          exact absurd List.mem_cons_self hnot
      | cons d m =>
          obtain ⟨rfl, rfl⟩ := List.cons.inj hrest
          refine .inr ⟨m, found, after, by simp, hfound, fun e he => hbefore e ?_⟩
          rcases List.eq_nil_or_concat m with rfl | ⟨init, last, rfl⟩
          · cases he
          · rw [List.concat_eq_append, List.getLast?_concat] at he
            rwa [List.concat_eq_append, ← List.cons_append, ← List.append_assoc,
              List.getLast?_concat]
    · -- the part begins before it, and ends before it
      rw [List.append_eq_append_iff] at hrest
      rcases hrest with ⟨n, rfl, -⟩ | ⟨n, rfl, hn⟩
      · exact .inl ⟨before, found, n, by simp, hfound, hbefore⟩
      · cases n with
        | nil => exact .inl ⟨before, m, [], by simp, by simpa using hfound, hbefore⟩
        | cons d n =>
            obtain ⟨rfl, -⟩ := List.cons.inj hn
            exact absurd (by simp) hnot
  · rintro (h | h)
    · exact h.append_left _
    · exact h.append_right hboundary a

/-- **A pattern without separators** occurs in a text when it occurs in one of its words. -/
theorem occurs_iff_words (hboundary : ∀ c, isSep c = true → boundary c)
    (hfree : ∀ found, pattern found → found ≠ [] ∧ ∀ d ∈ found, isSep d = false) (t : List α) :
    Occurs pattern boundary t ↔ ∃ word ∈ words isSep t, Occurs pattern boundary word := by
  have hnil : ¬ Occurs pattern boundary [] := by
    rintro ⟨before, found, after, hsplit, hfound, -⟩
    have hempty : before ++ found = [] := (List.append_eq_nil_iff.mp hsplit.symm).1
    exact (hfree found hfound).1 (List.append_eq_nil_iff.mp hempty).2
  have hword : ∀ a : List α, (∀ c ∈ a, isSep c = false) →
      (Occurs pattern boundary a ↔ ∃ word ∈ words isSep a, Occurs pattern boundary word) := by
    intro a ha
    rcases eq_or_ne a [] with rfl | hne
    · simp [hnil, words_nil]
    · simp [words_of_free ha hne]
  induction t using words_induction isSep with
  | free t ht => exact hword t ht
  | cut a c b ha hc ih =>
      rw [occurs_append_cons hc (hboundary c hc) hfree, hword a ha, words_append_cons hc]
      simp only [List.mem_append, or_and_right, exists_or, ih]

end Patterns

end Ga4Mcp.Lib
