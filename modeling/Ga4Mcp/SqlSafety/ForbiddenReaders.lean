/-
  Calls of the forbidden DuckDB readers against the scan of the overlay.

  DuckDB takes `read_csv(..)` and `"read_csv"(..)` for the same call. Both are defined on
  the classes of the reference lexer (`BareCall`, `QuotedCall`). The overlay scans the
  masked surface, so
  * `overlayRefuses_of_bareCall`: on a plain text it finds every bare call, in any letter
    case, with any white space and comments before the parenthesis;
  * it finds no quoted call, since the name is masked.
  `readersBlocked_iff` puts the two together.
-/
import Ga4Mcp.SqlSafety.Masking
import Ga4Mcp.SqlSafety.Policy
import Mathlib.Data.List.Chain

namespace Ga4Mcp.SqlSafety

open Ga4Mcp.Lib

/-! ## Calls -/

/-- What may stand between a function's name and its parenthesis. -/
def IsGap (gap : List LexedByte) : Prop :=
  ∀ x ∈ gap, (x.2 = .code ∧ isBlank x.1) ∨ x.2 = .comment

instance (gap : List LexedByte) : Decidable (IsGap gap) :=
  inferInstanceAs (Decidable (∀ x ∈ gap, _))

/-- A token of class `cls` that spells the name of a forbidden reader, with a
    parenthesis after it. The token begins where the class does. -/
def CallWritten (cls : ByteClass) (spelling : List UInt8 → List UInt8) (sql : List UInt8) : Prop :=
  ∃ pre name gap post,
    lexed sql = pre ++ (classed cls (spelling name) ++ (gap ++ (Byte.leftParen, .code) :: post)) ∧
      toAsciiUppercase name ∈ duckdbForbiddenFunctions ∧
      (∀ x ∈ pre.getLast?, x.2 ≠ cls) ∧ IsGap gap

/-- `read_csv (..`. -/
def BareCall (sql : List UInt8) : Prop := CallWritten .word id sql

/-- `"read_csv" (..`. -/
def QuotedCall (sql : List UInt8) : Prop :=
  CallWritten .quoted (fun name => Byte.doubleQuote :: name ++ [Byte.doubleQuote]) sql

/-- A forbidden function is called, under a bare or a quoted name. -/
def CallsReader (sql : List UInt8) : Prop := BareCall sql ∨ QuotedCall sql

/-- Whatever the authority answers, an accepted text calls no forbidden reader. -/
def ReadersBlocked (sql : List UInt8) : Prop :=
  ∀ tk maxSqlBytes, validateScratchpadSql tk sql maxSqlBytes = .ok () → ¬ CallsReader sql

/-- The checks of the overlay refuse the text without asking the authority. -/
def OverlayRefuses (sql : List UInt8) : Prop :=
  ∀ lexical, lexicalSurface sql = .ok lexical →
    containsForbiddenKeyword (upperSurface lexical) ∨
      containsForbiddenFunctionCall (upperSurface lexical)

/-! ## The token scan -/

/-- An identifier as the overlay reads it. -/
def isToken : List UInt8 → Bool
  | [] => false
  | b :: rest => isIdentifierStart b && rest.all isIdentifierContinue

theorem isToken_forbiddenFunctions : ∀ name ∈ duckdbForbiddenFunctions, isToken name := by
  decide +kernel

/-- How the classes of bytes of the overlay and of the reference lexer lie to each other. -/
theorem byte_classes : ∀ b,
    (isIdentifierStart b → isIdentifierContinue b ∧ ¬ isWhitespace b ∧
      Ident.none.next b ≠ .none) ∧
    (isIdentifierContinue b → (maskByte b = b ∧ isBlank b = false) ∧
      Ident.escapePrefix.next b ≠ .none ∧ Ident.running.next b ≠ .none) ∧
    (isIdentifierContinue (maskByte b) → maskByte b = b) ∧
    (isAsciiWhitespace b → isIdentifierContinue b = false ∧
      isAsciiWhitespace (toAsciiUppercaseByte b)) ∧
    (isBlank b → isAsciiWhitespace (maskByte b)) ∧
    isIdentifierStart (toAsciiUppercaseByte b) = isIdentifierStart b ∧
    isIdentifierContinue (toAsciiUppercaseByte b) = isIdentifierContinue b :=
  forall_byte (by decide +kernel)

theorem isIdentifierContinue_of_start (b : UInt8) (h : isIdentifierStart b) :
    isIdentifierContinue b :=
  ((byte_classes b).1 h).1

theorem not_continue_of_whitespace (b : UInt8) (h : isAsciiWhitespace b) :
    isIdentifierContinue b = false :=
  ((byte_classes b).2.2.2.1 h).1

/-- `takeWhile` and `dropWhile` stop inside `xs`. -/
theorem span_append {p : UInt8 → Bool} {xs : List UInt8} (h : ¬ ∀ x ∈ xs, p x)
    (ys : List UInt8) : (xs ++ ys).takeWhile p = xs.takeWhile p ∧
      (xs ++ ys).dropWhile p = xs.dropWhile p ++ ys := by
  induction xs with
  | nil => simp at h
  | cons x xs ih =>
      by_cases hx : p x
      · simp only [List.mem_cons, forall_eq_or_imp, hx, true_and] at h
        simp [hx, ih h]
      · simp [hx]

/-- A token at the head, with white space and a parenthesis after it, is written. -/
theorem mem_callScanner_head {name gap post : List UInt8} (hname : isToken name)
    (hgap : ∀ b ∈ gap, isAsciiWhitespace b) :
    name ∈ (callScanner.run () (name ++ (gap ++ Byte.leftParen :: post))).1 := by
  have hstop : (gap ++ Byte.leftParen :: post).takeWhile isIdentifierContinue = [] := by
    cases gap with
    | nil => rfl
    | cons w gap => simp [not_continue_of_whitespace w (hgap w (by simp))]
  have hrest := List.takeWhile_append_dropWhile (p := isIdentifierContinue)
    (l := gap ++ Byte.leftParen :: post)
  rw [hstop, List.nil_append] at hrest
  have hlook : startsWith ((gap ++ Byte.leftParen :: post).dropWhile isAsciiWhitespace)
      [Byte.leftParen] := by
    rw [List.dropWhile_append_of_pos hgap]
    rfl
  cases name with
  | nil => simp [isToken] at hname
  | cons b tail =>
      simp only [isToken, Bool.and_eq_true, List.all_eq_true] at hname
      rw [List.cons_append, callScanner.run_cons]
      simp only [callScanner, callStep, hname.1, if_true, hlook, hstop, hrest,
        List.takeWhile_append_of_pos hname.2, List.dropWhile_append_of_pos hname.2]
      simp

/-- The scan reaches a token as such when no token before it runs into it. -/
theorem mem_callScanner {pre name gap : List UInt8} (post : List UInt8) (hname : isToken name)
    (hgap : ∀ b ∈ gap, isAsciiWhitespace b)
    (hpre : ∀ tok, tok <:+ pre → isToken tok = false) :
    name ∈ (callScanner.run () (pre ++ (name ++ (gap ++ Byte.leftParen :: post)))).1 := by
  induction hn : pre.length using Nat.strong_induction_on generalizing pre with
  | _ n ih =>
    cases pre with
    | nil => exact mem_callScanner_head hname hgap
    | cons b pre =>
        simp only [List.length_cons] at hn
        rw [List.cons_append, callScanner.run_cons, List.mem_append]
        right
        by_cases hb : isIdentifierStart b
        · -- the token that starts at `b` ends inside `pre`
          have hbreak : ¬ ∀ c ∈ pre, isIdentifierContinue c := by
            intro hall
            have := hpre (b :: pre) (List.suffix_refl _)
            rw [isToken, hb, Bool.true_and, List.all_eq_true.mpr hall] at this
            exact Bool.noConfusion this
          simp only [callScanner, callStep, hb, if_true, span_append hbreak]
          have hsuf := List.dropWhile_suffix (l := pre) isIdentifierContinue
          have hlen := hsuf.length_le
          exact ih _ (by omega)
            (fun tok htok => hpre tok (htok.trans (hsuf.trans (List.suffix_cons _ _)))) rfl
        · simp only [callScanner, callStep, hb]
          exact ih pre.length (by omega)
            (fun tok htok => hpre tok (htok.trans (List.suffix_cons _ _))) rfl

/-! ## Words of the reference lexer -/

/-- A letter or an underscore in code belongs to a word. -/
def WordStart (x : LexedByte) : Prop := x.2.isCode → isIdentifierStart x.1 → x.2 = .word

/-- What can continue a word does. -/
def WordNext (x y : LexedByte) : Prop :=
  x.2 = .word → y.2.isCode → isIdentifierContinue y.1 → y.2 = .word

theorem next_of_identifierContinue {ident : Ident} (h : ident ≠ .none) (b : UInt8)
    (hb : isIdentifierContinue b) : ident.next b ≠ .none := by
  obtain ⟨-, hescape, hrunning⟩ := (byte_classes b).2.1 hb
  cases ident with
  | none => exact absurd rfl h
  | escapePrefix => exact hescape
  | running => exact hrunning

theorem next_of_identifierStart (ident : Ident) (b : UInt8) (h : isIdentifierStart b) :
    ident.next b ≠ .none := by
  obtain ⟨hcontinue, -, hnone⟩ := (byte_classes b).1 h
  by_cases hident : ident = .none
  · rwa [hident]
  · exact next_of_identifierContinue hident b hcontinue

theorem snd_of_mem_classed {cls : ByteClass} {bytes : List UInt8} {x : LexedByte}
    (h : x ∈ classed cls bytes) : x.2 = cls := by
  simp only [classed, List.mem_map] at h
  obtain ⟨b, _, rfl⟩ := h
  rfl

/-- A byte that stands outside words. -/
def Between (x : LexedByte) : Prop :=
  x.2 ≠ .word ∧ (x.2.isCode → isIdentifierContinue x.1 = false)

theorem between_classed {cls : ByteClass} (hc : cls.isCode = false) (bytes : List UInt8) :
    ∀ x ∈ classed cls bytes, Between x := by
  intro x hx
  rw [Between, snd_of_mem_classed hx, hc]
  refine ⟨?_, fun h => Bool.noConfusion h⟩
  rintro rfl
  exact Bool.noConfusion hc

theorem wordStart_of_between {x : LexedByte} (h : Between x) : WordStart x := by
  intro hc hs
  have := h.2 hc
  rw [isIdentifierContinue_of_start _ hs] at this
  exact Bool.noConfusion this

/-- What a step writes: bytes outside words, or one code byte, which belongs to a word
    exactly when an identifier is running. -/
theorem lexStep_words (m : Mode) (b : UInt8) (rest : List UInt8) :
    (∀ x ∈ (lexStep m b rest).1, Between x) ∨
      ∃ ident, m = .code ident ∧ (lexStep m b rest).2.1 = .code (ident.next b) ∧
        (lexStep m b rest).1 = [(b, if ident.next b = .none then .code else .word)] := by
  have hend : b = Byte.newline ∨ b = Byte.carriageReturn →
      ∀ x ∈ [(b, ByteClass.code)], Between x := by
    rintro (rfl | rfl) <;> simp [Between] <;> decide
  unfold lexStep
  split
  case h_1 ident =>
    repeat' split
    case h_2.isTrue h => exact .inr ⟨ident, rfl, rfl, by rw [if_pos h]⟩
    case h_2.isFalse h => exact .inr ⟨ident, rfl, rfl, by rw [if_neg h]⟩
    all_goals
      first
        | exact .inl (between_classed rfl _)
        | exact .inl (between_classed rfl [b])
  all_goals
    repeat' split
    all_goals
      first
        | exact .inl (between_classed rfl _)
        | exact .inl (between_classed rfl [b])
        | exact .inl (hend (by assumption))

theorem lexStep_ne_nil (m : Mode) (b : UInt8) (rest : List UInt8) : (lexStep m b rest).1 ≠ [] := by
  intro h
  have hb := congrArg List.length (lexStep_bytes m b rest)
  have hp := lexStep_progress m b rest
  simp only [h, List.map_nil, List.nil_append, List.length_cons] at hb
  omega

/-- After a running identifier, a byte of code that can continue it does. -/
def Continues (m : Mode) (out : List LexedByte) : Prop :=
  ∀ ident, m = .code ident → ident ≠ .none →
    ∀ x ∈ out.head?, x.2.isCode → isIdentifierContinue x.1 → x.2 = .word

/-- Words are whole on a run: no identifier byte of code stands next to a word without
    belonging to it. -/
theorem run_words (m : Mode) (sql : List UInt8) :
    (∀ x ∈ (duckLexer.run m sql).1, WordStart x) ∧ (duckLexer.run m sql).1.IsChain WordNext ∧
      Continues m (duckLexer.run m sql).1 := by
  refine duckLexer.run_induction (motive := fun m sql =>
    (∀ x ∈ (duckLexer.run m sql).1, WordStart x) ∧ (duckLexer.run m sql).1.IsChain WordNext ∧
      Continues m (duckLexer.run m sql).1) ?_ ?_ m sql
  · intro m
    simp [Continues]
  · intro m b rest ⟨hstart, hchain, hhead⟩
    change Continues (lexStep m b rest).2.1 _ at hhead
    rw [duckLexer.run_cons]
    rcases lexStep_words m b rest with hno | ⟨ident, rfl, hmode, hout⟩
    · refine ⟨?_, List.isChain_append.2 ⟨?_, hchain, ?_⟩, ?_⟩
      · intro x hx
        rcases List.mem_append.mp hx with hx | hx
        · exact wordStart_of_between (hno x hx)
        · exact hstart x hx
      · refine (List.pairwise_of_forall_mem_list ?_).isChain
        exact fun x hx y _ hw => absurd hw (hno x hx).1
      · intro x hx y _ hw
        exact absurd hw (hno x (List.mem_of_mem_getLast? hx)).1
      · intro ident _ _ x hx hc hcont
        rw [List.head?_append_of_ne_nil (duckLexer.step m b rest).1
          (lexStep_ne_nil m b rest)] at hx
        have := (hno x (List.mem_of_mem_head? hx)).2 hc
        rw [hcont] at this
        exact Bool.noConfusion this
    · rw [show (duckLexer.step (.code ident) b rest).1 = _ from hout]
      rw [hmode] at hhead
      refine ⟨?_, ?_, ?_⟩
      · intro x hx
        rcases List.mem_cons.mp hx with rfl | hx
        · intro _ hs
          simp [next_of_identifierStart ident b hs]
        · exact hstart x hx
      · refine List.isChain_append.2 ⟨.singleton _, hchain, ?_⟩
        intro x hx y hy hw
        obtain rfl : (b, _) = x := by simpa using hx
        exact hhead (ident.next b) rfl (by simpa using hw) y hy
      · rintro _ ⟨rfl⟩ hne x hx _ hcont
        obtain rfl : (b, _) = x := by simpa using hx
        simp [next_of_identifierContinue hne b hcont]

/-! ## Bare calls on the surface -/

theorem exists_of_forall₂_append {α β : Type} {R : α → β → Prop} {l : List α} {l₁ l₂ : List β}
    (h : List.Forall₂ R l (l₁ ++ l₂)) :
    ∃ a b, l = a ++ b ∧ List.Forall₂ R a l₁ ∧ List.Forall₂ R b l₂ :=
  ⟨l.take l₁.length, l.drop l₁.length, (List.take_append_drop _ _).symm,
    List.forall₂_take_append l l₁ l₂ h, List.forall₂_drop_append l l₁ l₂ h⟩

/-- A byte of the surface that can stand in an identifier is the byte of the text, and
    that byte is code. -/
theorem shows_identifier {o : UInt8} {x : LexedByte} (h : Shows o x)
    (ho : isIdentifierContinue o) : o = x.1 ∧ x.2.isCode := by
  have key := (byte_classes x.1).2.2.1
  unfold Shows at h
  split at h
  case isTrue hc =>
    rcases h with rfl | ⟨rfl, _⟩
    · exact ⟨key ho, hc⟩
    · exact absurd ho (by decide)
  case isFalse hc =>
    rw [not_continue_of_whitespace o h] at ho
    exact Bool.noConfusion ho

/-- What the surface shows as one token is one word. -/
theorem word_of_shown_token {o : List UInt8} {seg : List LexedByte} (h : ShowsAll o seg)
    (ho : isToken o) (hstart : ∀ x ∈ seg, WordStart x) (hchain : seg.IsChain WordNext) :
    ∀ x ∈ seg, x.2 = .word := by
  have hcont : ∀ (o : List UInt8) (x : LexedByte) (seg : List LexedByte), x.2 = .word →
      ShowsAll o seg → (∀ b ∈ o, isIdentifierContinue b) → (x :: seg).IsChain WordNext →
      ∀ y ∈ seg, y.2 = .word := by
    intro o x seg hx hs
    induction hs generalizing x with
    | nil => simp
    | cons hb _ ih =>
        intro ho hchain
        simp only [List.mem_cons, forall_eq_or_imp, List.isChain_cons_cons] at ho hchain ⊢
        obtain ⟨heq, hcode⟩ := shows_identifier hb ho.1
        have hy := hchain.1 hx hcode (heq ▸ ho.1)
        exact ⟨hy, ih _ hy ho.2 hchain.2⟩
  cases h with
  | nil => simp
  | @cons b x o seg hb hs =>
      simp only [isToken, Bool.and_eq_true, List.all_eq_true] at ho
      obtain ⟨heq, hcode⟩ := shows_identifier hb (isIdentifierContinue_of_start _ ho.1)
      have hx := hstart x (by simp) hcode (heq ▸ ho.1)
      simp only [List.mem_cons, forall_eq_or_imp]
      exact ⟨hx, hcont o x seg hx hs ho.2 hchain⟩

theorem shown_name {name o : List UInt8} (hname : ∀ b ∈ name, isIdentifierContinue b)
    (h : ShowsAll o (classed .word name)) : o = name := by
  induction name generalizing o with
  | nil => simpa [classed] using h
  | cons b name ih =>
      simp only [List.mem_cons, forall_eq_or_imp] at hname
      obtain ⟨⟨hmask, hblank⟩, -⟩ := (byte_classes b).2.1 hname.1
      cases h with
      | cons hb hs =>
          rw [ih hname.2 hs]
          simp only [Shows, ByteClass.isCode, if_true, hmask, hblank] at hb
          simpa using hb

theorem shown_gap {gap : List LexedByte} {o : List UInt8} (hgap : IsGap gap)
    (h : ShowsAll o gap) : ∀ b ∈ o, isAsciiWhitespace b := by
  induction h with
  | nil => simp
  | cons hb _ ih =>
      simp only [IsGap, List.mem_cons, forall_eq_or_imp] at hgap ih ⊢
      refine ⟨?_, ih hgap.2⟩
      unfold Shows at hb
      rcases hgap.1 with ⟨hc, hblank⟩ | hc
      · rw [hc] at hb
        rcases hb with rfl | ⟨rfl, _⟩
        · exact (byte_classes _).2.2.2.2.1 hblank
        · rfl
      · rwa [hc] at hb

theorem isToken_toAsciiUppercase (tok : List UInt8) :
    isToken (toAsciiUppercase tok) = isToken tok := by
  have hstart : ∀ b, isIdentifierStart (toAsciiUppercaseByte b) = isIdentifierStart b :=
    fun b => (byte_classes b).2.2.2.2.2.1
  have hcont : ∀ b, isIdentifierContinue (toAsciiUppercaseByte b) = isIdentifierContinue b :=
    fun b => (byte_classes b).2.2.2.2.2.2
  cases tok with
  | nil => rfl
  | cons b rest =>
      simp [isToken, toAsciiUppercase, hstart, List.all_map, Function.comp_def, hcont]

/-- No token of the surface runs from the text before a word into the word. -/
theorem no_token_before {pre seg : List LexedByte} {o : List UInt8}
    (hstart : ∀ x ∈ pre ++ seg, WordStart x) (hchain : (pre ++ seg).IsChain WordNext)
    (hlast : ∀ x ∈ pre.getLast?, x.2 ≠ .word) (hs : ShowsAll o pre) :
    ∀ tok, tok <:+ o → isToken tok = false := by
  rintro tok ⟨before, rfl⟩
  by_contra htok
  simp only [Bool.not_eq_false] at htok
  obtain ⟨a, t, rfl, _, ht⟩ := exists_of_forall₂_append (R := fun x b => Shows b x) hs.flip
  have hsub : t <:+: a ++ t ++ seg := ⟨a, seg, by simp⟩
  have hchainT := List.IsChain.infix hchain hsub
  have hword := word_of_shown_token ht.flip htok (fun x hx => hstart x (hsub.mem hx)) hchainT
  have hne : t ≠ [] := by
    rintro rfl
    cases ht
    exact Bool.noConfusion htok
  refine hlast (t.getLast hne) ?_ (hword _ (List.getLast_mem hne))
  rw [List.getLast?_append, List.getLast?_eq_some_getLast hne]
  rfl

theorem dropWhile_append_stop {p : UInt8 → Bool} {x : UInt8} (hx : ¬ p x)
    (xs ys : List UInt8) : (xs ++ x :: ys).dropWhile p = xs.dropWhile p ++ x :: ys := by
  rw [List.dropWhile_append]
  split
  case isTrue h => simp [List.isEmpty_iff.mp h, hx]
  case isFalse h => rfl

/-- Trimming stops at the two ends of what begins and ends with other bytes. -/
theorem trimSurface_append {x y : UInt8} (hx : ¬ isWhitespace x) (hy : ¬ isWhitespace y)
    (pre mid post : List UInt8) :
    trimSurface (pre ++ x :: (mid ++ y :: post)) =
      pre.dropWhile isWhitespace ++ x :: (mid ++ y :: post.rdropWhile isWhitespace) := by
  unfold trimSurface
  rw [dropWhile_append_stop hx]
  unfold List.rdropWhile
  have : (pre.dropWhile isWhitespace ++ x :: (mid ++ y :: post)).reverse =
      post.reverse ++ y :: (pre.dropWhile isWhitespace ++ x :: mid).reverse := by simp
  rw [this, dropWhile_append_stop hy]
  simp

theorem continue_of_isToken {tok : List UInt8} (h : isToken tok) :
    ∀ b ∈ tok, isIdentifierContinue b := by
  cases tok with
  | nil => simp
  | cons b rest =>
      simp only [isToken, Bool.and_eq_true, List.all_eq_true] at h
      simp only [List.mem_cons, forall_eq_or_imp]
      exact ⟨isIdentifierContinue_of_start b h.1, h.2⟩

theorem upper_gap {gap : List UInt8} (h : ∀ b ∈ gap, isAsciiWhitespace b) :
    ∀ b ∈ toAsciiUppercase gap, isAsciiWhitespace b := by
  simpa [toAsciiUppercase] using fun b hb => ((byte_classes b).2.2.2.1 (h b hb)).2

/-- Trimming takes nothing from a token, from a parenthesis, and from what is between. -/
theorem trimSurface_call {name : List UInt8} (hname : isToken name) (pre gap post : List UInt8) :
    trimSurface (pre ++ (name ++ (gap ++ Byte.leftParen :: post))) =
      pre.dropWhile isWhitespace ++
        (name ++ (gap ++ Byte.leftParen :: post.rdropWhile isWhitespace)) := by
  cases name with
  | nil => exact Bool.noConfusion hname
  | cons b tail =>
      simp only [isToken, Bool.and_eq_true] at hname
      have := trimSurface_append ((byte_classes b).1 hname.1).2.1
        (show ¬ isWhitespace Byte.leftParen by decide)
        pre (tail ++ gap) post
      simpa only [List.cons_append, List.append_assoc] using this

/-- **The overlay refuses every plain text with a bare call.** -/
theorem overlayRefuses_of_bareCall {sql : List UInt8} (h : Plain sql) (hcall : BareCall sql) :
    OverlayRefuses sql := by
  intro lexical hl
  right
  obtain ⟨pre, name, gap, post, heq, hmem, hlast, hgap⟩ := hcall
  obtain ⟨hstart, hchain, _⟩ := run_words (.code .none) sql
  change ∀ x ∈ lexed sql, WordStart x at hstart
  change (lexed sql).IsChain WordNext at hchain
  have hs := lexicalSurface_shows h hl
  rw [heq] at hstart hchain hs
  obtain ⟨oPre, o, rfl, hsPre, hs⟩ := exists_of_forall₂_append hs
  obtain ⟨oName, o, rfl, hsName, hs⟩ := exists_of_forall₂_append hs
  obtain ⟨oGap, o, rfl, hsGap, hs⟩ := exists_of_forall₂_append hs
  obtain ⟨paren, oPost, hsParen, _, rfl⟩ := List.forall₂_cons_right_iff.mp hs
  obtain rfl := shows_printable hsParen rfl rfl
  have htoken : isToken name := by
    rw [← isToken_toAsciiUppercase]
    exact isToken_forbiddenFunctions _ hmem
  obtain rfl := shown_name (continue_of_isToken htoken) hsName
  have hbefore : ∀ tok, tok <:+ toAsciiUppercase (oPre.dropWhile isWhitespace) →
      isToken tok = false := by
    intro tok htok
    obtain ⟨t, ht, rfl⟩ := List.suffix_map_iff.mp htok
    change isToken (toAsciiUppercase t) = false
    rw [isToken_toAsciiUppercase]
    exact no_token_before hstart hchain hlast hsPre t (ht.trans (List.dropWhile_suffix _))
  have hfound := mem_callScanner (toAsciiUppercase (oPost.rdropWhile isWhitespace))
    (isToken_forbiddenFunctions _ hmem) (upper_gap (shown_gap hgap hsGap)) hbefore
  rw [containsForbiddenFunctionCall, List.any_eq_true]
  refine ⟨_, ?_, List.contains_iff_mem.mpr hmem⟩
  rw [upperSurface, trimSurface_call htoken]
  simpa [toAsciiUppercase, show toAsciiUppercaseByte Byte.leftParen = Byte.leftParen from rfl]
    using hfound

/-! ## The readers -/

/-- An authority that lets every text through. -/
def permissive : Toolkit := ⟨fun _ => none, fun _ => ⟨true, none⟩⟩

/-- **When no forbidden reader gets through**: the overlay refuses the text by itself, or
    the text has no quoted call, and no bare call either in case it is not plain. -/
theorem readersBlocked_iff (sql : List UInt8) :
    ReadersBlocked sql ↔
      OverlayRefuses sql ∨ (¬ QuotedCall sql ∧ (Plain sql ∨ ¬ BareCall sql)) := by
  constructor
  · intro hblocked
    by_cases hrefuses : OverlayRefuses sql
    · exact .inl hrefuses
    · simp only [OverlayRefuses, not_forall, not_or, Bool.not_eq_true] at hrefuses
      obtain ⟨lexical, hl, hkeyword, hcall⟩ := hrefuses
      have hno := hblocked permissive (sql.length + 1) (validateScratchpadSql_ok_iff.mpr
        ⟨by omega, by omega, lexical, hl, rfl, hkeyword, hcall⟩)
      exact .inr ⟨fun h => hno (.inr h), .inr fun h => hno (.inl h)⟩
  · intro hcond tk maxSqlBytes hok hcalls
    obtain ⟨_, _, lexical, hl, _, hkeyword, hcall⟩ := validateScratchpadSql_ok_iff.mp hok
    have hpass : ¬ OverlayRefuses sql := by
      intro h
      rcases h lexical hl with h | h
      · rw [hkeyword] at h
        exact Bool.noConfusion h
      · rw [hcall] at h
        exact Bool.noConfusion h
    rcases hcond with h | ⟨hquoted, hplain⟩
    · exact hpass h
    · rcases hcalls with hbare | hq
      · rcases hplain with hplain | hno
        · exact hpass (overlayRefuses_of_bareCall hplain hbare)
        · exact hno hbare
      · exact hquoted hq

/-- The quoted spelling gets through an authority that lets it. -/
theorem not_readersBlocked_quoted :
    ¬ ReadersBlocked (ascii "SELECT * FROM \"read_csv\"('a.csv')") := by
  intro h
  refine h permissive 1024 (by decide +kernel) (.inr ?_)
  refine ⟨lexed (ascii "SELECT * FROM "), ascii "read_csv", [],
    (lexed (ascii "SELECT * FROM \"read_csv\"('a.csv')")).drop 25, ?_, ?_, ?_, ?_⟩
  all_goals decide +kernel

end Ga4Mcp.SqlSafety
