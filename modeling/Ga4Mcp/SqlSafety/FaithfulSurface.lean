/-
  What `lexical_surface` shows of a text: each byte as it is or a blank in its place, and
  nothing that a second look would take for a token.

  * `Surfaced`: a text and its surface, byte by byte; `run_surfaced`: every run pairs the two.
  * `Surfaced.bare`: no byte of a surface opens a token, since a blank in place of a byte
    completes none.
  * `run_bare`: a text whose bytes open no token is its own surface.
  * `lexicalSurface_faithful`: what every accepted surface promises of its text.
-/
import Ga4Mcp.SqlSafety.SurfaceRuns

namespace Ga4Mcp.SqlSafety

open Ga4Mcp.Lib

/-! ## Text and surface -/

/-- What a masked byte can become. -/
def isMask (c : UInt8) : Bool :=
  c = Byte.newline || c = Byte.carriageReturn || c = Byte.tab || c = Byte.space

/-- A text and its surface: a byte that is bare in the text, or a blank that keeps newlines
    where they are. -/
inductive Surfaced : List UInt8 → List UInt8 → Prop where
  | nil : Surfaced [] []
  | shown {b : UInt8} {sql out : List UInt8} (bare : Bare b sql) (tail : Surfaced sql out) :
      Surfaced (b :: sql) (b :: out)
  | masked {b c : UInt8} {sql out : List UInt8} (mask : isMask c)
      (line : c = Byte.newline ↔ b = Byte.newline) (tail : Surfaced sql out) :
      Surfaced (b :: sql) (c :: out)

theorem maskHiddenByte_masked : ∀ b, isMask (maskHiddenByte b) ∧
    (maskHiddenByte b = Byte.newline ↔ b = Byte.newline) :=
  forall_byte (by decide +kernel)

theorem maskByte_eq_or_masked : ∀ b, maskByte b = b ∨
    isMask (maskByte b) ∧ (maskByte b = Byte.newline ↔ b = Byte.newline) :=
  forall_byte (by decide +kernel)

theorem isAsciiWhitespace_of_mask : ∀ c, isMask c → isAsciiWhitespace c :=
  forall_byte (by decide +kernel)

theorem not_inTag_of_mask : ∀ c, isMask c → c ≠ Byte.dollar ∧ ¬ isTagByte c :=
  forall_byte (by decide +kernel)

theorem not_opens_of_mask : ∀ c, isMask c → maskByte c = c ∧ c ≠ Byte.quote ∧
    c ≠ Byte.doubleQuote ∧ c ≠ Byte.minus ∧ c ≠ Byte.slash ∧ c ≠ Byte.dollar :=
  forall_byte (by decide +kernel)

theorem lt_of_maskByte : ∀ b, maskByte b = b → b < 0x80 :=
  forall_byte (by decide +kernel)

/-- A byte hidden by a token. -/
theorem Surfaced.hidden (b : UInt8) {sql out : List UInt8} (tail : Surfaced sql out) :
    Surfaced (b :: sql) (maskHiddenByte b :: out) :=
  .masked (maskHiddenByte_masked b).1 (maskHiddenByte_masked b).2 tail

theorem Surfaced.space {b : UInt8} (hb : b ≠ Byte.newline) {sql out : List UInt8}
    (tail : Surfaced sql out) : Surfaced (b :: sql) (Byte.space :: out) :=
  .masked rfl (iff_of_false (by decide) hb) tail

/-- A delimiter, on one line, is a row of spaces. -/
theorem Surfaced.spaces {sql out : List UInt8} (tail : Surfaced sql out) {bytes : List UInt8}
    (line : Byte.newline ∉ bytes) :
    Surfaced (bytes ++ sql) (List.replicate bytes.length Byte.space ++ out) := by
  induction bytes with
  | nil => exact tail
  | cons b bytes ih =>
      rw [List.mem_cons, not_or] at line
      exact (ih line.2).space (Ne.symm line.1)

/-- The same, where the delimiter is found at the head. -/
theorem Surfaced.delimiter {b : UInt8} {rest out pat : List UInt8}
    (h : startsWith (b :: rest) pat) (ne : pat ≠ []) (line : Byte.newline ∉ pat)
    (tail : Surfaced (rest.drop (pat.length - 1)) out) :
    Surfaced (b :: rest) (List.replicate pat.length Byte.space ++ out) := by
  obtain ⟨sql, hsql⟩ := List.isPrefixOf_iff_prefix.mp h
  have hdrop : rest.drop (pat.length - 1) = sql := by
    obtain ⟨n, hn⟩ := Nat.exists_eq_add_one.mpr (List.length_pos_iff_ne_nil.mpr ne)
    have := congrArg (List.drop pat.length) hsql
    rw [List.drop_left, hn, List.drop_succ_cons] at this
    rw [hn]
    exact this.symm
  rw [hdrop] at tail
  rw [← hsql]
  exact tail.spaces line

/-! ## One iteration -/

/-- The tag kept in the variables is on one line. -/
def Vars.OneLine (v : Vars) : Prop := ∀ tag, v.dollarTag = some tag → Byte.newline ∉ tag

theorem oneLine_of_none (state : State) : Vars.OneLine ⟨state, none⟩ := by
  simp [Vars.OneLine]

theorem oneLine_of_tag {input : List UInt8} {n : Nat} (h : parseDollarTag input = some n) :
    Vars.OneLine ⟨.normal, some (input.take n)⟩ := by
  rintro tag ⟨rfl⟩
  exact notMem_tag (by decide) (by decide) h

theorem surfaceStep_oneLine (v : Vars) (b : UInt8) (rest : List UInt8) (hv : v.OneLine) :
    (surfaceStep v b rest).2.1.OneLine := by
  unfold surfaceStep
  repeat' split
  all_goals first | exact hv | exact oneLine_of_none _ | exact oneLine_of_tag ‹_›

/-- Outside tokens. -/
theorem surfaceStep_surfaced_normal (b : UInt8) (rest out : List UInt8) :
    Surfaced (surfaceStep Vars.start b rest).2.2 out →
      Surfaced (b :: rest) ((surfaceStep Vars.start b rest).1 ++ out) := by
  simp only [surfaceStep, Vars.start]
  split
  case isTrue h => exact fun tail => tail.delimiter h (by decide) (by decide)
  case isFalse hline =>
  split
  case isTrue h => exact fun tail => tail.delimiter h (by decide) (by decide)
  case isFalse hblock =>
  split
  case isTrue h => exact fun tail => tail.space (by rw [h]; decide)
  case isFalse hquote =>
  split
  case isTrue h => exact fun tail => tail.space (by rw [h]; decide)
  case isFalse hdouble =>
  split
  case h_1 n htag =>
    intro tail
    have hlen : ((b :: rest).take n).length = n :=
      List.length_take_of_le (parseDollarTag_le htag).2
    have hhead : startsWith (b :: rest) ((b :: rest).take n) :=
      List.isPrefixOf_iff_prefix.mpr (List.take_prefix n _)
    have htail : Surfaced (rest.drop (((b :: rest).take n).length - 1)) out := by rwa [hlen]
    have := htail.delimiter hhead (sound_of_tag htag _ rfl).1 (oneLine_of_tag htag _ rfl)
    rwa [hlen] at this
  case h_2 htag =>
    intro tail
    rcases maskByte_eq_or_masked b with heq | ⟨hmask, hnewline⟩
    · rw [heq]
      exact .shown ⟨heq, hquote, hdouble, hline, hblock, htag⟩ tail
    · exact .masked hmask hnewline tail

/-- Inside quotes `q`: a doubled one, the closing one, any other byte. -/
theorem surfaceStep_surfaced_quoted {q : UInt8} (hq : q ≠ Byte.newline) (v : Vars) (b : UInt8)
    (rest out : List UInt8) {step : List UInt8 × Vars × List UInt8}
    (h : step = if b = q then
        if startsWith rest [q] then ([Byte.space, Byte.space], v, rest.drop 1)
        else ([Byte.space], ⟨.normal, none⟩, rest)
      else ([maskHiddenByte b], v, rest)) :
    Surfaced step.2.2 out → Surfaced (b :: rest) (step.1 ++ out) := by
  subst h
  split
  case isTrue hb =>
    rw [hb]
    split
    case isTrue h =>
      have hpair : startsWith (q :: rest) [q, q] := startsWith_pair.mpr ⟨rfl, startsWith_one.mp h⟩
      exact fun tail => tail.delimiter hpair (List.cons_ne_nil _ _) (by simpa using hq.symm)
    case isFalse => exact fun tail => tail.space hq
  case isFalse => exact fun tail => tail.hidden b

/-- One iteration extends the surface of what it leaves to the surface of what it read. -/
theorem surfaceStep_surfaced (v : Vars) (b : UInt8) (rest out : List UInt8) (hv : v.Sound)
    (hline : v.OneLine) : Surfaced (surfaceStep v b rest).2.2 out →
      Surfaced (b :: rest) ((surfaceStep v b rest).1 ++ out) := by
  obtain ⟨state, dollarTag⟩ := v
  cases dollarTag with
  | some tag =>
      simp only [surfaceStep]
      split
      case isTrue h => exact fun tail => tail.delimiter h (hv tag rfl).1 (hline tag rfl)
      case isFalse => exact fun tail => tail.hidden b
  | none =>
      cases state with
      | normal => exact surfaceStep_surfaced_normal b rest out
      | singleQuote => exact surfaceStep_surfaced_quoted (by decide) _ b rest out rfl
      | doubleQuote => exact surfaceStep_surfaced_quoted (by decide) _ b rest out rfl
      | lineComment =>
          simp only [surfaceStep]
          split
          case isTrue h => exact fun tail => tail.masked rfl (iff_of_true rfl h)
          case isFalse h => exact fun tail => tail.space h
      | blockComment depth =>
          simp only [surfaceStep]
          split
          case isTrue h => exact fun tail => tail.delimiter h (by decide) (by decide)
          case isFalse =>
          split
          case isTrue h => exact fun tail => tail.delimiter h (by decide) (by decide)
          case isFalse => exact fun tail => tail.hidden b

/-- **Every run pairs** the text with its surface. -/
theorem run_surfaced (sql : List UInt8) : Surfaced sql (surface.run Vars.start sql).1 :=
  surface.run_related (I := fun v => v.Sound ∧ v.OneLine)
    (fun v b rest hv =>
      ⟨surfaceStep_sound v b rest hv.1, surfaceStep_oneLine v b rest hv.2⟩)
    .nil (fun v b rest out hv => surfaceStep_surfaced v b rest out hv.1 hv.2)
    Vars.start sql ⟨start_sound, oneLine_of_none .normal⟩

/-! ## No token in the surface -/

/-- A delimiter in the surface is one of the text. -/
theorem Surfaced.startsWith_text {sql out : List UInt8} (h : Surfaced sql out)
    {pat : List UInt8} (hpat : pat.any isMask = false) (hout : startsWith out pat) :
    startsWith sql pat := by
  induction h generalizing pat with
  | nil => exact hout
  | shown bare tail ih =>
      cases pat with
      | nil => rfl
      | cons x pat =>
          rw [List.any_cons, Bool.or_eq_false_iff] at hpat
          obtain ⟨hx, hrest⟩ := startsWith_cons.mp hout
          exact startsWith_cons.mpr ⟨hx, ih hpat.2 hrest⟩
  | masked mask line tail ih =>
      cases pat with
      | nil => rfl
      | cons x pat =>
          rw [List.any_cons, Bool.or_eq_false_iff] at hpat
          obtain ⟨rfl, -⟩ := startsWith_cons.mp hout
          exact absurd mask (Bool.eq_false_iff.mp hpat.1)

/-- So is a tag. -/
theorem Surfaced.tagLoop_text {sql out : List UInt8} (h : Surfaced sql out) {j n : Nat}
    (hout : parseDollarTagLoop out j = some n) : parseDollarTagLoop sql j = some n := by
  induction h generalizing j with
  | nil => exact hout
  | @shown b sql out bare tail ih =>
      rw [parseDollarTagLoop] at hout ⊢
      split at hout
      case isTrue hb => rwa [if_pos hb]
      case isFalse hb =>
        split at hout
        case isTrue htag => rw [if_neg hb, if_pos htag, ih hout]
        case isFalse => cases hout
  | @masked b c sql out mask line tail ih =>
      -- a mask neither ends a tag nor goes on with it
      obtain ⟨hdollar, htag⟩ := not_inTag_of_mask c mask
      rw [parseDollarTagLoop, if_neg hdollar, if_neg htag] at hout
      cases hout

/-- What is bare in the text is bare in the surface. -/
theorem Bare.of_text {b : UInt8} {sql out : List UInt8} (h : Bare b sql) (tail : Surfaced sql out) :
    Bare b out where
  shown := h.shown
  notQuote := h.notQuote
  notDoubleQuote := h.notDoubleQuote
  notLineComment hout := h.notLineComment ((Surfaced.shown h tail).startsWith_text rfl hout)
  notBlockComment hout := h.notBlockComment ((Surfaced.shown h tail).startsWith_text rfl hout)
  noTag := by
    refine Option.eq_none_iff_forall_ne_some.mpr fun n hout => ?_
    simp only [parseDollarTag, Option.ite_none_right_eq_some] at hout
    have htext : parseDollarTag (b :: sql) = some n := by
      rw [parseDollarTag, if_pos hout.1, tail.tagLoop_text hout.2]
    rw [h.noTag] at htext
    cases htext

/-- A mask is bare wherever it stands. -/
theorem bare_mask {c : UInt8} (hc : isMask c) (rest : List UInt8) : Bare c rest := by
  obtain ⟨hshown, hquote, hdouble, hminus, hslash, hdollar⟩ := not_opens_of_mask c hc
  exact {
    shown := hshown
    notQuote := hquote
    notDoubleQuote := hdouble
    notLineComment := fun h => hminus (startsWith_pair.mp h).1
    notBlockComment := fun h => hslash (startsWith_pair.mp h).1
    noTag := parseDollarTag_ne hdollar rest }

/-- Every byte of a surface is bare. -/
theorem Surfaced.bare {sql out : List UInt8} (h : Surfaced sql out) {b : UInt8}
    {rest : List UInt8} (hb : b :: rest <:+ out) : Bare b rest := by
  induction h with
  | nil => exact absurd (List.suffix_nil.mp hb) (List.cons_ne_nil b rest)
  | shown bare tail ih =>
      rcases List.suffix_cons_iff.mp hb with heq | hb
      · obtain ⟨rfl, rfl⟩ := List.cons.inj heq
        exact bare.of_text tail
      · exact ih hb
  | masked mask line tail ih =>
      rcases List.suffix_cons_iff.mp hb with heq | hb
      · obtain ⟨rfl, rfl⟩ := List.cons.inj heq
        exact bare_mask mask rest
      · exact ih hb

/-- A text whose bytes are bare is its own surface. -/
theorem run_bare {out : List UInt8} (h : ∀ b rest, b :: rest <:+ out → Bare b rest) :
    surface.run Vars.start out = (out, Vars.start) := by
  have hcopy : ∀ b rest, b :: rest <:+ out →
      surface.step Vars.start b (rest ++ []) = ([b], Vars.start, rest ++ []) := by
    intro b rest hb
    rw [List.append_nil]
    exact surfaceStep_bare (h b rest hb)
  simpa using surface.run_copies out [] hcopy

/-! ## Index by index -/

theorem Surfaced.kept {sql out : List UInt8} (h : Surfaced sql out) {i : Nat} {b : UInt8}
    (hb : out[i]? = some b) : sql[i]? = some b ∨ isAsciiWhitespace b := by
  induction h generalizing i with
  | nil => cases hb
  | shown bare tail ih =>
      cases i with
      | zero => exact .inl hb
      | succ i => exact ih hb
  | masked mask line tail ih =>
      cases i with
      | zero =>
          obtain rfl := Option.some.inj hb
          exact .inr (isAsciiWhitespace_of_mask _ mask)
      | succ i => exact ih hb

theorem Surfaced.newlines {sql out : List UInt8} (h : Surfaced sql out) (i : Nat) :
    out[i]? = some Byte.newline ↔ sql[i]? = some Byte.newline := by
  induction h generalizing i with
  | nil => exact Iff.rfl
  | shown bare tail ih =>
      cases i with
      | zero => exact Iff.rfl
      | succ i => exact ih i
  | masked mask line tail ih =>
      cases i with
      | zero => simpa using line
      | succ i => exact ih i

/-- What stands together in a surface starts with a bare byte. -/
theorem Surfaced.bare_of_infix {sql out : List UInt8} (h : Surfaced sql out) {b : UInt8}
    {bytes : List UInt8} (hpart : b :: bytes <:+: out) : ∃ rest, Bare b (bytes ++ rest) := by
  obtain ⟨before, rest, hout⟩ := hpart
  exact ⟨rest, h.bare ⟨before, by rw [← hout, List.append_assoc]; rfl⟩⟩

theorem parseDollarTagLoop_tag {tag : List UInt8} (htag : ∀ b ∈ tag, isTagByte b)
    (rest : List UInt8) (j : Nat) :
    parseDollarTagLoop (tag ++ Byte.dollar :: rest) j = some (j + tag.length + 1) := by
  induction tag generalizing j with
  | nil => rfl
  | cons b tag ih =>
      rw [List.forall_mem_cons] at htag
      have hdollar : b ≠ Byte.dollar := by
        rintro rfl
        exact absurd htag.1 (by decide)
      rw [List.cons_append, parseDollarTagLoop, if_neg hdollar, if_pos htag.1, ih htag.2,
        List.length_cons]
      congr 1
      omega

/-! ## The accepted surfaces -/

/-- What the surface `out` promises of the text `sql`. -/
structure FaithfulSurface (sql out : List UInt8) : Prop where
  ascii : ∀ b ∈ out, b < 0x80
  length : out.length = sql.length
  kept : ∀ (i : Nat) (b : UInt8), out[i]? = some b → sql[i]? = some b ∨ isAsciiWhitespace b
  newlines : ∀ i : Nat, out[i]? = some Byte.newline ↔ sql[i]? = some Byte.newline
  noQuote : Byte.quote ∉ out
  noDoubleQuote : Byte.doubleQuote ∉ out
  noLineComment : ¬ [Byte.minus, Byte.minus] <:+: out
  noBlockComment : ¬ [Byte.slash, Byte.star] <:+: out
  noTag : ∀ tag : List UInt8, (∀ b ∈ tag, isTagByte b) →
    ¬ Byte.dollar :: (tag ++ [Byte.dollar]) <:+: out
  stable : lexicalSurface out = .ok out

/-- **Every accepted surface is faithful and stable.** -/
theorem lexicalSurface_faithful {sql out : List UInt8} (h : lexicalSurface sql = .ok out) :
    FaithfulSurface sql out := by
  obtain ⟨-, rfl⟩ := lexicalSurface_ok_iff.mp h
  have hsurfaced := run_surfaced sql
  have hmem : ∀ b ∈ (surface.run Vars.start sql).1, ∃ rest, Bare b rest := by
    intro b hb
    obtain ⟨before, rest, hout⟩ := List.append_of_mem hb
    exact ⟨rest, hsurfaced.bare ⟨before, hout.symm⟩⟩
  exact {
    ascii := fun b hb => (hmem b hb).elim fun _ hbare => lt_of_maskByte b hbare.shown
    length := run_length Vars.start sql start_sound
    kept := fun i b hb => hsurfaced.kept hb
    newlines := hsurfaced.newlines
    noQuote := fun hb => (hmem _ hb).elim fun _ hbare => hbare.notQuote rfl
    noDoubleQuote := fun hb => (hmem _ hb).elim fun _ hbare => hbare.notDoubleQuote rfl
    noLineComment := fun hpart => (hsurfaced.bare_of_infix hpart).elim fun _ hbare =>
      hbare.notLineComment rfl
    noBlockComment := fun hpart => (hsurfaced.bare_of_infix hpart).elim fun _ hbare =>
      hbare.notBlockComment rfl
    noTag := fun tag htag hpart => by
      obtain ⟨rest, hbare⟩ := hsurfaced.bare_of_infix hpart
      have hloop := parseDollarTagLoop_tag htag rest 1
      have hnone := hbare.noTag
      rw [List.append_assoc, List.singleton_append, parseDollarTag, if_pos rfl, hloop] at hnone
      cases hnone
    stable := by
      have hrun := run_bare fun b rest hb => hsurfaced.bare hb
      exact lexicalSurface_ok_iff.mpr ⟨by rw [hrun]; rfl, by rw [hrun]⟩ }

theorem lexicalSurface_faithful_mixed : FaithfulSurface
    (ascii "SELECT $a, a - b, '--' /* \n ' */ FROM $t_1$ ; ' $t_1$ -- " ++ [0xC3, 0xA9])
    (ascii "SELECT $a, a - b,         \n      FROM" ++ List.replicate 22 Byte.space) :=
  lexicalSurface_faithful (by decide +kernel)

end Ga4Mcp.SqlSafety
