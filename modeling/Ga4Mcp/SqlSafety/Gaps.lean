/-
  Surfaces that differ in the lengths of their gaps only.

  `SameWords` relates them byte by byte and gap by gap. `lexical_surface` masks tokens by
  white space, so that two texts with other tokens in the same places have such surfaces.

  * `SameWords.filter_eq`: they hold the same bytes besides white space.
  * `SameWords.containsForbiddenKeyword_eq`, `SameWords.containsForbiddenFunctionCall_eq`:
    the overlay does not tell them apart.
-/
import Ga4Mcp.SqlSafety.Policy

namespace Ga4Mcp.SqlSafety

open Ga4Mcp.Lib

/-! ## The relation -/

/-- A property of the five white bytes. -/
theorem forall_asciiWhitespace {p : UInt8 → Prop}
    (h : p Byte.tab ∧ p Byte.newline ∧ p Byte.formFeed ∧ p Byte.carriageReturn ∧ p Byte.space)
    (b : UInt8) (hb : isAsciiWhitespace b) : p b := by
  obtain ⟨htab, hnewline, hformFeed, hcarriageReturn, hspace⟩ := h
  simp only [isAsciiWhitespace, Bool.or_eq_true, decide_eq_true_eq] at hb
  rcases hb with (((rfl | rfl) | rfl) | rfl) | rfl <;> assumption

/-- White space between two words. -/
def Gap (gap : List UInt8) : Prop := gap ≠ [] ∧ ∀ b ∈ gap, isAsciiWhitespace b

/-- Two texts that differ in their gaps only. -/
inductive SameWords : List UInt8 → List UInt8 → Prop where
  | nil : SameWords [] []
  | byte (b : UInt8) {xs ys : List UInt8} (h : SameWords xs ys) : SameWords (b :: xs) (b :: ys)
  | gap {gap gap' xs ys : List UInt8} (hgap : Gap gap) (hgap' : Gap gap')
      (h : SameWords xs ys) : SameWords (gap ++ xs) (gap' ++ ys)

namespace SameWords

variable {xs ys xs' ys' : List UInt8}

theorem refl : ∀ xs, SameWords xs xs
  | [] => .nil
  | b :: xs => .byte b (refl xs)

theorem append (h : SameWords xs ys) (h' : SameWords xs' ys') :
    SameWords (xs ++ xs') (ys ++ ys') := by
  induction h with
  | nil => exact h'
  | byte b _ ih => exact .byte b ih
  | gap hgap hgap' _ ih =>
      rw [List.append_assoc, List.append_assoc]
      exact .gap hgap hgap' ih

theorem reverse (h : SameWords xs ys) : SameWords xs.reverse ys.reverse := by
  induction h with
  | nil => exact .nil
  | byte b _ ih =>
      rw [List.reverse_cons, List.reverse_cons]
      exact ih.append (refl [b])
  | @gap gap gap' xs ys hgap hgap' _ ih =>
      have hreverse : ∀ {gap}, Gap gap → Gap gap.reverse := fun h =>
        ⟨fun hnil => h.1 (List.reverse_eq_nil_iff.mp hnil),
          fun b hb => h.2 b (List.mem_reverse.mp hb)⟩
      have hgaps := SameWords.gap (hreverse hgap) (hreverse hgap') .nil
      rw [List.append_nil, List.append_nil] at hgaps
      rw [List.reverse_append, List.reverse_append]
      exact ih.append hgaps

/-- A map that leaves white space alone. -/
theorem map {f : UInt8 → UInt8} (hf : ∀ b, isAsciiWhitespace b → isAsciiWhitespace (f b))
    (h : SameWords xs ys) : SameWords (xs.map f) (ys.map f) := by
  induction h with
  | nil => exact .nil
  | byte b _ ih => exact .byte (f b) ih
  | gap hgap hgap' _ ih =>
      have hmap : ∀ {gap}, Gap gap → Gap (gap.map f) := by
        intro gap hgap
        refine ⟨fun hnil => hgap.1 (List.map_eq_nil_iff.mp hnil), fun b hb => ?_⟩
        obtain ⟨c, hc, rfl⟩ := List.mem_map.mp hb
        exact hf c (hgap.2 c hc)
      rw [List.map_append, List.map_append]
      exact .gap (hmap hgap) (hmap hgap') ih

/-- **Besides white space** the bytes are the same. -/
theorem filter_eq (h : SameWords xs ys) :
    xs.filter (fun b => ¬ isAsciiWhitespace b) = ys.filter fun b => ¬ isAsciiWhitespace b := by
  have hgap : ∀ {gap}, Gap gap → gap.filter (fun b => ¬ isAsciiWhitespace b) = [] := fun h =>
    List.filter_eq_nil_iff.mpr fun b hb => by simp [h.2 b hb]
  induction h with
  | nil => rfl
  | byte b _ ih => rw [List.filter_cons, List.filter_cons, ih]
  | gap hg hg' _ ih =>
      rw [List.filter_append, List.filter_append, hgap hg, hgap hg', ih]

/-! ## Words -/

/-- A word at the head, of bytes that are no white space. -/
theorem word {p : UInt8 → Bool} (hp : ∀ b, isAsciiWhitespace b → p b = false)
    (h : SameWords xs ys) :
    xs.takeWhile p = ys.takeWhile p ∧ SameWords (xs.dropWhile p) (ys.dropWhile p) := by
  induction h with
  | nil => exact ⟨rfl, .nil⟩
  | @byte b xs ys h ih =>
      rw [List.takeWhile_cons, List.takeWhile_cons, List.dropWhile_cons, List.dropWhile_cons]
      split
      · exact ⟨by rw [ih.1], ih.2⟩
      · exact ⟨rfl, .byte b h⟩
  | @gap gap gap' xs ys hgap hgap' h _ =>
      have hstop : ∀ {gap zs}, Gap gap → (gap ++ zs).takeWhile p = [] ∧
          (gap ++ zs).dropWhile p = gap ++ zs := by
        intro gap zs hgap
        obtain ⟨b, rest, rfl⟩ := List.exists_cons_of_ne_nil hgap.1
        have hb : ¬ p b = true := by
          rw [hp b (hgap.2 b List.mem_cons_self)]
          exact Bool.false_ne_true
        exact ⟨List.takeWhile_cons_of_neg hb, List.dropWhile_cons_of_neg hb⟩
      rw [(hstop hgap).1, (hstop hgap').1, (hstop hgap).2, (hstop hgap').2]
      exact ⟨rfl, .gap hgap hgap' h⟩

/-- White space at the head, with more bytes counted as such. -/
theorem dropWhile {p : UInt8 → Bool} (hp : ∀ b, isAsciiWhitespace b → p b = true)
    (h : SameWords xs ys) : SameWords (xs.dropWhile p) (ys.dropWhile p) := by
  induction h with
  | nil => exact .nil
  | @byte b xs ys h ih =>
      rw [List.dropWhile_cons, List.dropWhile_cons]
      split
      · exact ih
      · exact .byte b h
  | gap hgap hgap' _ ih =>
      rw [List.dropWhile_append_of_pos fun b hb => hp b (hgap.2 b hb),
        List.dropWhile_append_of_pos fun b hb => hp b (hgap'.2 b hb)]
      exact ih

theorem startsWith_eq {b : UInt8} (hb : isAsciiWhitespace b = false) (h : SameWords xs ys) :
    startsWith xs [b] = startsWith ys [b] := by
  cases h with
  | nil => rfl
  | byte c _ => rw [startsWith, startsWith, List.isPrefixOf, List.isPrefixOf, List.isPrefixOf,
      List.isPrefixOf]
  | @gap gap gap' xs ys hgap hgap' _ =>
      have hne : ∀ {gap zs}, Gap gap → startsWith (gap ++ zs) [b] = false := by
        intro gap zs hgap
        obtain ⟨c, rest, rfl⟩ := List.exists_cons_of_ne_nil hgap.1
        have hc : b ≠ c := by
          rintro rfl
          rw [hgap.2 b List.mem_cons_self] at hb
          cases hb
        simp [startsWith, List.isPrefixOf, hc]
      rw [hne hgap, hne hgap']

/-! ## The overlay -/

theorem isWhitespace_of_isAsciiWhitespace : ∀ b, isAsciiWhitespace b → isWhitespace b = true :=
  forall_asciiWhitespace (by decide)

theorem upperSurface (h : SameWords xs ys) :
    SameWords (SqlSafety.upperSurface xs) (SqlSafety.upperSurface ys) := by
  refine map (forall_asciiWhitespace (by decide)) ?_
  have hstart := h.dropWhile isWhitespace_of_isAsciiWhitespace
  exact (hstart.reverse.dropWhile isWhitespace_of_isAsciiWhitespace).reverse

/-- The pieces at separators: the first one, and the others without empty ones. -/
theorem splitOnP_eq {p : UInt8 → Bool} (hp : ∀ b, isAsciiWhitespace b → p b = true)
    (h : SameWords xs ys) : ∃ head tail tail', xs.splitOnP p = head :: tail ∧
      ys.splitOnP p = head :: tail' ∧ tail.filter (· ≠ []) = tail'.filter (· ≠ []) := by
  induction h with
  | nil => exact ⟨[], [], [], List.splitOnP_nil, List.splitOnP_nil, rfl⟩
  | @byte b xs ys _ ih =>
      obtain ⟨head, tail, tail', hxs, hys, htail⟩ := ih
      rw [List.splitOnP_cons_eq_if_modifyHead, List.splitOnP_cons_eq_if_modifyHead, hxs, hys]
      split
      · refine ⟨[], _, _, rfl, rfl, ?_⟩
        rw [List.filter_cons, List.filter_cons, htail]
      · exact ⟨b :: head, tail, tail', rfl, rfl, htail⟩
  | @gap gap gap' xs ys hgap hgap' _ ih =>
      obtain ⟨head, tail, tail', hxs, hys, htail⟩ := ih
      -- a gap leaves empty pieces behind the first one
      have hsplit : ∀ {gap zs pieces}, Gap gap → zs.splitOnP p = pieces → ∃ rest,
          (gap ++ zs).splitOnP p = [] :: rest ∧
            rest.filter (· ≠ []) = pieces.filter (· ≠ []) := by
        intro gap zs pieces hgap hzs
        obtain ⟨b, rest, rfl⟩ := List.exists_cons_of_ne_nil hgap.1
        have hall : ∀ gap : List UInt8, (∀ b ∈ gap, isAsciiWhitespace b) →
            ((gap ++ zs).splitOnP p).filter (· ≠ []) = pieces.filter (· ≠ []) := by
          intro gap hgap
          induction gap with
          | nil => rw [List.nil_append, hzs]
          | cons c gap ihgap =>
              rw [List.cons_append, List.splitOnP_cons_eq_if_modifyHead,
                if_pos (hp c (hgap c List.mem_cons_self)),
                List.filter_cons_of_neg (by simp)]
              exact ihgap fun d hd => hgap d (List.mem_cons_of_mem c hd)
        refine ⟨(rest ++ zs).splitOnP p, ?_, hall rest fun c hc =>
          hgap.2 c (List.mem_cons_of_mem b hc)⟩
        rw [List.cons_append, List.splitOnP_cons_eq_if_modifyHead,
          if_pos (hp b (hgap.2 b List.mem_cons_self))]
      obtain ⟨rest, hrest, hfilter⟩ := hsplit hgap hxs
      obtain ⟨rest', hrest', hfilter'⟩ := hsplit hgap' hys
      refine ⟨[], rest, rest', hrest, hrest', ?_⟩
      rw [hfilter, hfilter', List.filter_cons, List.filter_cons, htail]

theorem containsForbiddenKeyword_eq (h : SameWords xs ys) :
    containsForbiddenKeyword xs = containsForbiddenKeyword ys := by
  obtain ⟨head, tail, tail', hxs, hys, htail⟩ := h.splitOnP_eq
    (p := fun b => !(isAsciiAlphanumeric b || b = Byte.underscore))
    (forall_asciiWhitespace (by decide))
  rw [containsForbiddenKeyword, containsForbiddenKeyword, hxs, hys, List.filter_cons,
    List.filter_cons, htail]

/-- Bytes that start no identifier are passed over. -/
theorem run_callScanner_gap {gap : List UInt8} (hgap : ∀ b ∈ gap, isAsciiWhitespace b)
    (zs : List UInt8) : callScanner.run () (gap ++ zs) = callScanner.run () zs := by
  have hstart : ∀ b, isAsciiWhitespace b → isIdentifierStart b = false :=
    forall_asciiWhitespace (by decide)
  have hstep : ∀ b rest, b :: rest <:+ gap →
      callScanner.step () b (rest ++ zs) = ([], (), rest ++ zs) := by
    intro b rest hb
    have hb := hstart b (hgap b (hb.mem List.mem_cons_self))
    change callStep () b (rest ++ zs) = _
    rw [callStep, if_neg (by rw [hb]; exact Bool.false_ne_true)]
  rw [callScanner.run_flatMap (fun _ => []) gap zs hstep,
    List.flatMap_eq_nil_iff.mpr fun _ _ => rfl, List.nil_append]

theorem run_callScanner_eq (h : SameWords xs ys) :
    (callScanner.run () xs).1 = (callScanner.run () ys).1 := by
  induction hlength : xs.length using Nat.strongRecOn generalizing xs ys with
  | ind n ih =>
      cases h with
      | nil => rfl
      | @byte b xs ys h =>
          have hcontinue : ∀ b, isAsciiWhitespace b → isIdentifierContinue b = false :=
            forall_asciiWhitespace (by decide)
          obtain ⟨htake, hdrop⟩ := h.word hcontinue
          have hcall : startsWith ((xs.dropWhile isIdentifierContinue).dropWhile isAsciiWhitespace)
              [Byte.leftParen] =
              startsWith ((ys.dropWhile isIdentifierContinue).dropWhile isAsciiWhitespace)
                [Byte.leftParen] :=
            (hdrop.dropWhile fun _ h => h).startsWith_eq (by decide)
          have hle : (xs.dropWhile isIdentifierContinue).length ≤ xs.length :=
            (List.dropWhile_suffix _).length_le
          rw [callScanner.run_cons, callScanner.run_cons]
          change (callStep () b xs).1 ++ (callScanner.run _ (callStep () b xs).2.2).1 =
            (callStep () b ys).1 ++ (callScanner.run _ (callStep () b ys).2.2).1
          rw [List.length_cons] at hlength
          by_cases hb : isIdentifierStart b
          · rw [callStep, callStep, if_pos hb, if_pos hb]
            dsimp only
            rw [htake, hcall, ih _ (by omega) hdrop rfl]
          · rw [callStep, callStep, if_neg hb, if_neg hb, ih _ (by omega) h rfl]
      | @gap gap gap' xs ys hgap hgap' h =>
          have hpos := List.length_pos_of_ne_nil hgap.1
          rw [List.length_append] at hlength
          rw [run_callScanner_gap hgap.2, run_callScanner_gap hgap'.2, ih _ (by omega) h rfl]

theorem containsForbiddenFunctionCall_eq (h : SameWords xs ys) :
    containsForbiddenFunctionCall xs = containsForbiddenFunctionCall ys := by
  rw [containsForbiddenFunctionCall, containsForbiddenFunctionCall, h.run_callScanner_eq]

end SameWords

end Ga4Mcp.SqlSafety
