/-
  Runs of `lexical_surface`.

  * `run_length`: the surface has the length of the text.
  * `Bare`, `surfaceStep_bare`: a byte that opens no token where it stands is copied.
  * `run_inert`: outside tokens, text with none of the bytes that open one is copied.
  * `run_append_paren`: a text and a `)` after it are scanned one after the other, since
    no token of the scanner holds or looks across a parenthesis.
  * `surfaceStep_paren_masked`: a scanner inside a token masks a parenthesis.
-/
import Ga4Mcp.SqlSafety.Surface

namespace Ga4Mcp.SqlSafety

open Ga4Mcp.Lib

/-! ## Prefixes and tags -/

theorem startsWith_length_le {input pat : List UInt8} (h : startsWith input pat) :
    pat.length ≤ input.length :=
  (List.isPrefixOf_iff_prefix.mp h).length_le

theorem startsWith_one {x : UInt8} {rest : List UInt8} :
    startsWith rest [x] = true ↔ ∃ r, rest = x :: r := by
  rw [startsWith, List.isPrefixOf_iff_prefix]
  exact exists_congr fun r => eq_comm

theorem startsWith_cons {b x : UInt8} {rest pat : List UInt8} :
    startsWith (b :: rest) (x :: pat) = true ↔ b = x ∧ startsWith rest pat = true := by
  rw [startsWith, startsWith, List.isPrefixOf_iff_prefix, List.isPrefixOf_iff_prefix,
    List.cons_prefix_cons]
  exact and_congr_left' eq_comm

theorem startsWith_pair {b x y : UInt8} {rest : List UInt8} :
    startsWith (b :: rest) [x, y] = true ↔ b = x ∧ ∃ r, rest = y :: r := by
  rw [startsWith_cons, startsWith_one]

theorem maskByte_of_printable : ∀ b, isPrintable b → maskByte b = b :=
  forall_byte (by decide +kernel)

theorem isAsciiWhitespace_maskHiddenByte : ∀ b, isAsciiWhitespace (maskHiddenByte b) :=
  forall_byte (by decide +kernel)

theorem parseDollarTagLoop_le {input : List UInt8} {j n : Nat}
    (h : parseDollarTagLoop input j = some n) : j + 1 ≤ n ∧ n ≤ j + input.length := by
  induction input generalizing j with
  | nil => simp [parseDollarTagLoop] at h
  | cons c rest ih =>
      unfold parseDollarTagLoop at h
      simp only [List.length_cons]
      split at h
      · simp only [Option.some.injEq] at h
        omega
      · split at h
        · have := ih h
          omega
        · simp at h

theorem parseDollarTag_le {input : List UInt8} {n : Nat} (h : parseDollarTag input = some n) :
    2 ≤ n ∧ n ≤ input.length := by
  cases input with
  | nil => simp [parseDollarTag] at h
  | cons c rest =>
      simp only [parseDollarTag, Option.ite_none_right_eq_some] at h
      have := parseDollarTagLoop_le h.2
      simp only [List.length_cons]
      omega

theorem parseDollarTag_ne {b : UInt8} (h : b ≠ Byte.dollar) (rest : List UInt8) :
    parseDollarTag (b :: rest) = none := by
  simp [parseDollarTag, h]

/-- Only `$` and tag bytes are in a tag. -/
theorem notMem_tagLoop {x : UInt8} (hx : x ≠ Byte.dollar) (htag : ¬ isTagByte x)
    {input : List UInt8} {j n : Nat} (h : parseDollarTagLoop input j = some n) :
    x ∉ input.take (n - j) := by
  induction input generalizing j with
  | nil => simp
  | cons c rest ih =>
      unfold parseDollarTagLoop at h
      split at h
      case isTrue hc =>
        obtain rfl : j + 1 = n := by simpa using h
        simpa [hc] using hx
      case isFalse =>
        split at h
        case isTrue hc =>
          have hle := (parseDollarTagLoop_le h).1
          obtain ⟨k, rfl⟩ : ∃ k, n = j + 1 + k := ⟨n - (j + 1), by omega⟩
          have hrest := ih h
          simp only [show j + 1 + k - (j + 1) = k by omega] at hrest
          rw [show j + 1 + k - j = k + 1 by omega, List.take_succ_cons, List.mem_cons]
          refine not_or.mpr ⟨?_, hrest⟩
          rintro rfl
          exact htag hc
        case isFalse => simp at h

theorem notMem_tag {x : UInt8} (hx : x ≠ Byte.dollar) (htag : ¬ isTagByte x)
    {input : List UInt8} {n : Nat} (h : parseDollarTag input = some n) : x ∉ input.take n := by
  cases input with
  | nil => simp
  | cons c rest =>
      have hle := (parseDollarTag_le h).1
      obtain ⟨k, rfl⟩ : ∃ k, n = k + 1 := ⟨n - 1, by omega⟩
      simp only [parseDollarTag, Option.ite_none_right_eq_some] at h
      rw [List.take_succ_cons, List.mem_cons, h.1]
      exact not_or.mpr ⟨hx, notMem_tagLoop hx htag h.2⟩

/-! ## What the variables hold -/

/-- The tag kept in the variables is not empty and holds no parenthesis. -/
def Vars.Sound (v : Vars) : Prop :=
  ∀ tag, v.dollarTag = some tag → tag ≠ [] ∧ Byte.rightParen ∉ tag

theorem start_sound : Vars.start.Sound := by
  simp [Vars.Sound, Vars.start]

theorem sound_of_none (state : State) : Vars.Sound ⟨state, none⟩ := by
  simp [Vars.Sound]

theorem sound_of_tag {input : List UInt8} {n : Nat} (h : parseDollarTag input = some n) :
    Vars.Sound ⟨.normal, some (input.take n)⟩ := by
  rintro tag ⟨rfl⟩
  refine ⟨?_, notMem_tag (by decide) (by decide) h⟩
  have := parseDollarTag_le h
  rw [← List.length_pos_iff_ne_nil, List.length_take]
  omega

theorem surfaceStep_sound (v : Vars) (b : UInt8) (rest : List UInt8) (hv : v.Sound) :
    (surfaceStep v b rest).2.1.Sound := by
  unfold surfaceStep
  repeat' split
  all_goals first | exact hv | exact sound_of_none _ | exact sound_of_tag ‹_›

/-! ## Lengths -/

theorem one_le_of_pair {b x y : UInt8} {rest : List UInt8} (h : startsWith (b :: rest) [x, y]) :
    1 ≤ rest.length := by
  have := startsWith_length_le h
  simp only [List.length_cons, List.length_nil] at this
  omega

theorem one_le_of_one {x : UInt8} {rest : List UInt8} (h : startsWith rest [x]) :
    1 ≤ rest.length :=
  startsWith_length_le h

theorem surfaceStep_length (v : Vars) (b : UInt8) (rest : List UInt8) (hv : v.Sound) :
    (surfaceStep v b rest).1.length + (surfaceStep v b rest).2.2.length = rest.length + 1 := by
  have hdrop : ∀ n, 1 ≤ n → n ≤ rest.length + 1 → n + (rest.drop (n - 1)).length =
      rest.length + 1 := by
    intro n h1 h2
    rw [List.length_drop]
    omega
  unfold surfaceStep
  split
  case h_1 tag htag =>
    split
    case isTrue h =>
      have hpos := List.length_pos_iff_ne_nil.mpr (hv tag htag).1
      simpa using hdrop tag.length hpos (startsWith_length_le h)
    case isFalse => simp [Nat.add_comm]
  case h_2 =>
    repeat' split
    -- one byte, two bytes, a doubled quote, a dollar tag
    all_goals
      first
        | exact Nat.add_comm _ _
        | exact hdrop 2 (by omega) (Nat.succ_le_succ (one_le_of_pair ‹_›))
        | exact hdrop 2 (by omega) (Nat.succ_le_succ (one_le_of_one ‹_›))
        | (have hn := parseDollarTag_le ‹_›
           simpa using hdrop _ (by omega) hn.2)

/-- The surface has the length of the text. -/
theorem run_length (v : Vars) (sql : List UInt8) (hv : v.Sound) :
    (surface.run v sql).1.length = sql.length := by
  refine surface.run_related (I := Vars.Sound) (R := fun sql out => out.length = sql.length)
    surfaceStep_sound rfl ?_ v sql hv
  intro v b rest out hv hout
  rw [List.length_append, hout]
  exact surfaceStep_length v b rest hv

/-! ## Bare bytes -/

/-- Outside tokens, the byte `b` before `rest` opens none, and the mask leaves it. -/
structure Bare (b : UInt8) (rest : List UInt8) : Prop where
  shown : maskByte b = b
  notQuote : b ≠ Byte.quote
  notDoubleQuote : b ≠ Byte.doubleQuote
  notLineComment : ¬ startsWith (b :: rest) [Byte.minus, Byte.minus]
  notBlockComment : ¬ startsWith (b :: rest) [Byte.slash, Byte.star]
  noTag : parseDollarTag (b :: rest) = none

theorem surfaceStep_bare {b : UInt8} {rest : List UInt8} (h : Bare b rest) :
    surfaceStep Vars.start b rest = ([b], Vars.start, rest) := by
  simp only [surfaceStep, Vars.start, h.notLineComment, h.notBlockComment, h.notQuote,
    h.notDoubleQuote, h.noTag, h.shown]
  rfl

/-- A printable byte that opens no token. -/
def isInert (b : UInt8) : Bool :=
  isPrintable b && b ≠ Byte.quote && b ≠ Byte.doubleQuote && b ≠ Byte.dollar &&
    b ≠ Byte.minus && b ≠ Byte.slash

theorem bare_of_inert {b : UInt8} (hb : isInert b) (rest : List UInt8) : Bare b rest := by
  simp only [isInert, Bool.and_eq_true, decide_eq_true_eq, ne_eq] at hb
  obtain ⟨⟨⟨⟨⟨hprint, hquote⟩, hdq⟩, hdollar⟩, hminus⟩, hslash⟩ := hb
  exact {
    shown := maskByte_of_printable b hprint
    notQuote := hquote
    notDoubleQuote := hdq
    notLineComment := fun h => hminus (startsWith_pair.mp h).1
    notBlockComment := fun h => hslash (startsWith_pair.mp h).1
    noTag := parseDollarTag_ne hdollar rest }

theorem surfaceStep_inert {b : UInt8} (hb : isInert b) (rest : List UInt8) :
    surfaceStep Vars.start b rest = ([b], Vars.start, rest) :=
  surfaceStep_bare (bare_of_inert hb rest)

/-- Outside tokens, inert text is copied. -/
theorem run_inert {xs : List UInt8} (h : ∀ b ∈ xs, isInert b) (tail : List UInt8) :
    surface.run Vars.start (xs ++ tail) =
      (xs ++ (surface.run Vars.start tail).1, (surface.run Vars.start tail).2) :=
  surface.run_copies xs tail fun b _ hb => surfaceStep_inert (h b (hb.mem List.mem_cons_self)) _

/-! ## A parenthesis after the text -/

theorem startsWith_append_paren {pat : List UInt8} (h : Byte.rightParen ∉ pat)
    (xs post : List UInt8) :
    startsWith (xs ++ Byte.rightParen :: post) pat = startsWith xs pat := by
  induction pat generalizing xs with
  | nil => simp [startsWith]
  | cons p pat ih =>
      simp only [List.mem_cons, not_or] at h
      cases xs with
      | nil => simp [startsWith, List.isPrefixOf, Ne.symm h.1]
      | cons x xs =>
          have hxs := ih h.2 xs
          simp only [startsWith] at hxs
          simp [startsWith, List.isPrefixOf, hxs]

theorem parseDollarTagLoop_append_paren (xs post : List UInt8) (j : Nat) :
    parseDollarTagLoop (xs ++ Byte.rightParen :: post) j = parseDollarTagLoop xs j := by
  induction xs generalizing j with
  | nil => rfl
  | cons x xs ih => simp only [List.cons_append, parseDollarTagLoop, ih]

theorem parseDollarTag_append_paren (b : UInt8) (rest post : List UInt8) :
    parseDollarTag (b :: (rest ++ Byte.rightParen :: post)) = parseDollarTag (b :: rest) := by
  simp only [parseDollarTag, parseDollarTagLoop_append_paren]

theorem surfaceStep_append_paren (v : Vars) (b : UInt8) (rest post : List UInt8) (hv : v.Sound) :
    surfaceStep v b (rest ++ Byte.rightParen :: post) =
      ((surfaceStep v b rest).1, (surfaceStep v b rest).2.1,
        (surfaceStep v b rest).2.2 ++ Byte.rightParen :: post) := by
  have hpair : ∀ {x y : UInt8}, Byte.rightParen ∉ [x, y] →
      startsWith (b :: (rest ++ Byte.rightParen :: post)) [x, y] =
        startsWith (b :: rest) [x, y] :=
    fun h => startsWith_append_paren h (b :: rest) post
  have hdrop : ∀ n, n ≤ rest.length + 1 → (rest ++ Byte.rightParen :: post).drop (n - 1) =
      rest.drop (n - 1) ++ Byte.rightParen :: post :=
    fun n hn => List.drop_append_of_le_length (by omega)
  unfold surfaceStep
  split
  case h_1 tag htag =>
    rw [← List.cons_append, startsWith_append_paren (hv tag htag).2]
    split
    case isTrue h => rw [hdrop _ (startsWith_length_le h)]
    case isFalse => rfl
  case h_2 =>
    simp only [hpair (show Byte.rightParen ∉ [Byte.minus, Byte.minus] by decide),
      hpair (show Byte.rightParen ∉ [Byte.slash, Byte.star] by decide),
      hpair (show Byte.rightParen ∉ [Byte.star, Byte.slash] by decide),
      startsWith_append_paren (show Byte.rightParen ∉ [Byte.quote] by decide),
      startsWith_append_paren (show Byte.rightParen ∉ [Byte.doubleQuote] by decide),
      parseDollarTag_append_paren]
    repeat' split
    all_goals
      first
        | rfl
        | exact congrArg (_, _, ·) (hdrop 2 (Nat.succ_le_succ (one_le_of_pair ‹_›)))
        | exact congrArg (_, _, ·) (hdrop 2 (Nat.succ_le_succ (one_le_of_one ‹_›)))
        | (have hn := (parseDollarTag_le ‹_›).2
           rw [hdrop _ hn, ← List.cons_append, List.take_append_of_le_length hn])

/-- A text and a parenthesis after it are scanned one after the other. -/
theorem run_append_paren (v : Vars) (xs post : List UInt8) (hv : v.Sound) :
    surface.run v (xs ++ Byte.rightParen :: post) =
      ((surface.run v xs).1 ++ (surface.run (surface.run v xs).2 (Byte.rightParen :: post)).1,
        (surface.run (surface.run v xs).2 (Byte.rightParen :: post)).2) :=
  surface.run_append (I := Vars.Sound) (Byte.rightParen :: post) surfaceStep_sound
    (fun v b rest hv => surfaceStep_append_paren v b rest post hv) v xs hv

/-- Inside a token, a parenthesis is masked. -/
theorem surfaceStep_paren_masked {v : Vars} (hv : v.Sound) (hne : v ≠ Vars.start)
    (post : List UInt8) : (surfaceStep v Byte.rightParen post).1 = [Byte.space] := by
  have hpat : ∀ pat, pat ≠ [] → Byte.rightParen ∉ pat →
      ¬ startsWith (Byte.rightParen :: post) pat := by
    intro pat hpat hparen
    rw [← List.nil_append (Byte.rightParen :: post), startsWith_append_paren hparen]
    cases pat with
    | nil => exact absurd rfl hpat
    | cons p pat => simp [startsWith]
  obtain ⟨state, dollarTag⟩ := v
  cases dollarTag with
  | some tag =>
      obtain ⟨htag, hparen⟩ := hv tag rfl
      simp only [surfaceStep, hpat tag htag hparen]
      rfl
  | none =>
      cases state with
      | normal => exact absurd rfl hne
      | singleQuote => rfl
      | doubleQuote => rfl
      | lineComment => rfl
      | blockComment depth => rfl

end Ga4Mcp.SqlSafety
