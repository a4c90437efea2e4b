/-
  The mask of `lexical_surface` against the reference lexer.

  `MaskingAgrees sql`: every printable byte that DuckDB takes for code stands unmasked
  in the surface. It fails on a text with one of four rare tokens, on which the two
  scanners part:
  * a comment ended by a carriage return with more code on the same line;
  * `\'` in an `E'..'` string;
  * a dollar tag that only one of the two accepts (`$1$`, a tag with a byte from `0x80`
    on, or `$` inside an identifier);
  * block comments nested `2^32` deep.
  `Plain` excludes them, step by step along the reference lexer, and on a plain text the
  two scanners run in lock step (`run_coupled`).
-/
import Ga4Mcp.SqlSafety.DuckLexer
import Ga4Mcp.SqlSafety.SurfaceRuns

namespace Ga4Mcp.SqlSafety

open Ga4Mcp.Lib

/-! ## The agreement -/

/-- Every byte of `sql` that the reference lexer classifies as code and that is printable
    is found at the same index of the surface. -/
def MaskingAgrees (sql : List UInt8) : Prop :=
  ∀ out, lexicalSurface sql = .ok out →
    ∀ (i : Nat) (b : UInt8) (cls : ByteClass), sql[i]? = some b → (classes sql)[i]? = some cls →
      cls.isCode → isPrintable b → out[i]? = some b

/-! ## Plain texts -/

/-- After a carriage return that ends a comment: blanks up to the end of the line or of
    the text, or up to the next line comment. -/
def harmlessReturn : List UInt8 → Bool
  | [] => true
  | b :: rest =>
      if b = Byte.newline then true
      else if isBlank b then harmlessReturn rest
      else startsWith (b :: rest) [Byte.minus, Byte.minus]

/-- The step of the reference lexer reads none of the rare tokens. -/
def plainStep (m : Mode) (b : UInt8) (rest : List UInt8) : Prop :=
  match m with
  | .code ident =>
      b = Byte.dollar →
        parseDollarTag (b :: rest) = if ident = .none then dollarDelimiter (b :: rest) else none
  | .string escapes => ¬ (escapes ∧ b = Byte.backslash ∧ startsWith rest [Byte.quote])
  | .quoted => True
  | .lineComment => b = Byte.carriageReturn → harmlessReturn rest
  | .blockComment depth =>
      startsWith (b :: rest) [Byte.slash, Byte.star] → depth + 1 < 2 ^ 32
  | .dollar _ => True

instance (m : Mode) (b : UInt8) (rest : List UInt8) : Decidable (plainStep m b rest) := by
  cases m <;> unfold plainStep <;> infer_instance

/-- The text has none of the rare tokens. -/
def Plain (sql : List UInt8) : Prop := duckLexer.Always plainStep (.code .none) sql

instance (sql : List UInt8) : Decidable (Plain sql) :=
  inferInstanceAs (Decidable (duckLexer.Always _ _ _))

/-! ## One byte of the surface -/

/-- What the surface may show for a byte. The blank in the second case is written between
    a carriage return that ends a comment and the end of its line. -/
def Shows (out : UInt8) (x : LexedByte) : Prop :=
  if x.2.isCode then out = maskByte x.1 ∨ (out = Byte.space ∧ isBlank x.1)
  else isAsciiWhitespace out

/-- The two outputs agree byte by byte. -/
abbrev ShowsAll : List UInt8 → List LexedByte → Prop := List.Forall₂ Shows

theorem eq_space_of_blank_printable : ∀ b, isBlank b → isPrintable b → b = Byte.space :=
  forall_byte (by decide +kernel)

/-- A printable code byte is shown as it is. -/
theorem shows_printable {out b : UInt8} {cls : ByteClass} (h : Shows out (b, cls))
    (hc : cls.isCode) (hp : isPrintable b) : out = b := by
  simp only [Shows, hc, if_true] at h
  rcases h with h | ⟨h, hb⟩
  · rw [h, maskByte_of_printable b hp]
  · rw [h, eq_space_of_blank_printable b hb hp]

theorem shows_hidden {out b : UInt8} {cls : ByteClass} (hc : cls.isCode = false)
    (h : isAsciiWhitespace out) : Shows out (b, cls) := by
  simp [Shows, hc, h]

theorem shows_code {b : UInt8} {cls : ByteClass} (hc : cls.isCode) :
    Shows (maskByte b) (b, cls) := by
  simp [Shows, hc]

/-- Blanks for a hidden chunk. -/
theorem showsAll_classed {cls : ByteClass} (hc : cls.isCode = false) (bytes : List UInt8) :
    ShowsAll (List.replicate bytes.length Byte.space) (classed cls bytes) := by
  induction bytes with
  | nil => exact .nil
  | cons b bytes ih => exact .cons (shows_hidden hc (by decide)) ih

/-! ## Tags -/

theorem dollarDelimiter_ne {b : UInt8} (h : b ≠ Byte.dollar) (rest : List UInt8) :
    dollarDelimiter (b :: rest) = none := by
  simp [dollarDelimiter, h]

/-! ## The two scanners in lock step -/

/-- The states the two scanners reach together, with the text still ahead. -/
inductive Coupled : Vars → Mode → List UInt8 → Prop where
  | code (ident : Ident) (rest : List UInt8) : Coupled ⟨.normal, none⟩ (.code ident) rest
  | string (escapes : Bool) (rest : List UInt8) :
      Coupled ⟨.singleQuote, none⟩ (.string escapes) rest
  | quoted (rest : List UInt8) : Coupled ⟨.doubleQuote, none⟩ .quoted rest
  | lineComment (rest : List UInt8) : Coupled ⟨.lineComment, none⟩ .lineComment rest
  | blockComment (depth : Nat) (pos : 0 < depth) (lt : depth < 2 ^ 32) (rest : List UInt8) :
      Coupled ⟨.blockComment (UInt32.ofNat depth), none⟩ (.blockComment depth) rest
  | dollar (tag : List UInt8) (ne : tag ≠ []) (rest : List UInt8) :
      Coupled ⟨.normal, some tag⟩ (.dollar tag) rest
  -- the comment has ended for DuckDB only, with nothing but blanks on the line
  | afterReturn (rest : List UInt8) (h : harmlessReturn rest) :
      Coupled ⟨.lineComment, none⟩ (.code .none) rest

theorem lexStep_blank {b : UInt8} (hb : isBlank b) (rest : List UInt8) :
    lexStep (.code .none) b rest = ([(b, .code)], .code .none, rest) := by
  have key : ∀ b, isBlank b → b ≠ Byte.minus ∧ b ≠ Byte.slash ∧ b ≠ Byte.quote ∧
      b ≠ Byte.doubleQuote ∧ b ≠ Byte.dollar ∧ Ident.none.next b = .none :=
    forall_byte (by decide +kernel)
  obtain ⟨h1, h2, h3, h4, h5, h6⟩ := key b hb
  have h1' : ¬ startsWith (b :: rest) [Byte.minus, Byte.minus] := fun h =>
    h1 (startsWith_pair.mp h).1
  have h2' : ¬ startsWith (b :: rest) [Byte.slash, Byte.star] := fun h =>
    h2 (startsWith_pair.mp h).1
  simp [lexStep, h1', h2', h3, h4, dollarDelimiter_ne h5, h6]

/-- What a step of the reference lexer asks of the surface scanner. -/
def Follows (v : Vars) (m : Mode) (b : UInt8) (rest : List UInt8) : Prop :=
  ∃ o v', surface.run v (b :: rest) = (o ++ (surface.run v' (lexStep m b rest).2.2).1,
      (surface.run v' (lexStep m b rest).2.2).2) ∧
    ShowsAll o (lexStep m b rest).1 ∧ Coupled v' (lexStep m b rest).2.1 (lexStep m b rest).2.2

/-- One step of each, over the same bytes. -/
theorem follows_of_step {v v' : Vars} {m m' : Mode} {b : UInt8} {rest rest' : List UInt8}
    {o : List UInt8} {c : List LexedByte} (hs : surfaceStep v b rest = (o, v', rest'))
    (hl : lexStep m b rest = (c, m', rest')) (hc : ShowsAll o c) (hR : Coupled v' m' rest') :
    Follows v m b rest := by
  refine ⟨o, v', ?_, ?_, ?_⟩
  · rw [hl]
    exact surface.run_step hs
  · rw [hl]
    exact hc
  · rw [hl]
    exact hR

/-- Two steps of the surface scanner, over the two bytes of one step of the lexer. -/
theorem follows_of_two_steps {v v' v'' : Vars} {m m' : Mode} {b c : UInt8}
    {rest : List UInt8} {o p : List UInt8} {cs : List LexedByte}
    (hs : surfaceStep v b (c :: rest) = (o, v', c :: rest))
    (hs' : surfaceStep v' c rest = (p, v'', rest))
    (hl : lexStep m b (c :: rest) = (cs, m', rest)) (hc : ShowsAll (o ++ p) cs)
    (hR : Coupled v'' m' rest) : Follows v m b (c :: rest) := by
  refine ⟨o ++ p, v'', ?_, ?_, ?_⟩
  · rw [hl, surface.run_step hs, surface.run_step hs', List.append_assoc]
  · rw [hl]
    exact hc
  · rw [hl]
    exact hR

theorem showsAll_hidden {cls : ByteClass} (hc : cls.isCode = false) (b : UInt8) :
    ShowsAll [maskHiddenByte b] [(b, cls)] :=
  .cons (shows_hidden hc (isAsciiWhitespace_maskHiddenByte b)) .nil

theorem showsAll_space {cls : ByteClass} (hc : cls.isCode = false) (b : UInt8) :
    ShowsAll [Byte.space] [(b, cls)] :=
  .cons (shows_hidden hc (by decide)) .nil

theorem showsAll_two_spaces {cls : ByteClass} (hc : cls.isCode = false) (b c : UInt8) :
    ShowsAll [Byte.space, Byte.space] [(b, cls), (c, cls)] :=
  .cons (shows_hidden hc (by decide)) (showsAll_space hc c)

theorem follows_code (ident : Ident) (b : UInt8) (rest : List UInt8)
    (hp : plainStep (.code ident) b rest) : Follows ⟨.normal, none⟩ (.code ident) b rest := by
  by_cases h1 : startsWith (b :: rest) [Byte.minus, Byte.minus]
  · obtain ⟨rfl, r, rfl⟩ := startsWith_pair.mp h1
    exact follows_of_step rfl rfl (showsAll_two_spaces rfl _ _) (.lineComment _)
  by_cases h2 : startsWith (b :: rest) [Byte.slash, Byte.star]
  · obtain ⟨rfl, r, rfl⟩ := startsWith_pair.mp h2
    exact follows_of_step rfl rfl (showsAll_two_spaces rfl _ _)
      (.blockComment 1 (by decide) (by decide) _)
  by_cases h3 : b = Byte.quote
  · subst h3
    exact follows_of_step rfl rfl (showsAll_space rfl _) (.string _ _)
  by_cases h4 : b = Byte.doubleQuote
  · subst h4
    exact follows_of_step rfl rfl (showsAll_space rfl _) (.quoted _)
  have htag : parseDollarTag (b :: rest) =
      if ident = .none then dollarDelimiter (b :: rest) else none := by
    by_cases hb : b = Byte.dollar
    · exact hp hb
    · rw [parseDollarTag_ne hb, dollarDelimiter_ne hb, ite_self]
  cases hn : parseDollarTag (b :: rest) with
  | some n =>
      obtain ⟨h2n, hn'⟩ := parseDollarTag_le hn
      have hlen : ((b :: rest).take n).length = n := by
        rw [List.length_take]
        omega
      refine follows_of_step (by simp only [surfaceStep, h1, h2, h3, h4, hn]; rfl)
        (by simp only [lexStep, h1, h2, h3, h4, ← htag, hn]; rfl) ?_ (.dollar _ ?_ _)
      · conv => arg 1; rw [← hlen]
        exact showsAll_classed rfl _
      · rw [← List.length_pos_iff_ne_nil, hlen]
        omega
  | none =>
      refine follows_of_step (by simp only [surfaceStep, h1, h2, h3, h4, hn]; rfl)
        (by simp only [lexStep, h1, h2, h3, h4, ← htag, hn]; rfl) (.cons (shows_code ?_) .nil)
        (.code _ _)
      split <;> rfl

/-- Between the carriage return and the end of the line the surface scanner still is in
    the comment. -/
theorem follows_afterReturn (b : UInt8) (rest : List UInt8) (h : harmlessReturn (b :: rest)) :
    Follows ⟨.lineComment, none⟩ (.code .none) b rest := by
  by_cases hnl : b = Byte.newline
  · subst hnl
    exact follows_of_step rfl rfl (.cons (Or.inl rfl) .nil) (.code _ _)
  by_cases hb : isBlank b
  · simp only [harmlessReturn, hnl, hb, if_true, if_false] at h
    refine follows_of_step (by simp only [surfaceStep, hnl]; rfl)
      (lexStep_blank hb rest) (.cons (Or.inr ⟨rfl, hb⟩) .nil) (.afterReturn _ h)
  · simp only [harmlessReturn, hnl, hb] at h
    obtain ⟨rfl, r, rfl⟩ := startsWith_pair.mp h
    exact follows_of_two_steps rfl rfl rfl (showsAll_two_spaces rfl _ _) (.lineComment _)

theorem follows_string (escapes : Bool) (b : UInt8) (rest : List UInt8)
    (hp : plainStep (.string escapes) b rest) :
    Follows ⟨.singleQuote, none⟩ (.string escapes) b rest := by
  by_cases he : escapes ∧ b = Byte.backslash
  · obtain ⟨rfl, rfl⟩ := he
    cases rest with
    | nil => exact follows_of_step rfl rfl (showsAll_hidden rfl _) (.string _ _)
    | cons c r =>
        have hc : c ≠ Byte.quote := fun hc => hp ⟨rfl, rfl, startsWith_one.mpr ⟨r, by rw [hc]⟩⟩
        refine follows_of_two_steps rfl (p := [maskHiddenByte c])
          (by simp only [surfaceStep, hc]; rfl) rfl ?_ (.string _ _)
        exact .cons (shows_hidden rfl (isAsciiWhitespace_maskHiddenByte _)) (showsAll_hidden rfl c)
  by_cases hq : b = Byte.quote
  · subst hq
    by_cases h2 : startsWith rest [Byte.quote]
    · obtain ⟨r, rfl⟩ := startsWith_one.mp h2
      exact follows_of_step rfl (by simp only [lexStep, he]; rfl) (showsAll_two_spaces rfl _ _)
        (.string _ _)
    · exact follows_of_step (by simp only [surfaceStep, h2]; rfl)
        (by simp only [lexStep, he, h2]; rfl) (showsAll_space rfl _) (.code _ _)
  · exact follows_of_step (by simp only [surfaceStep, hq]; rfl)
      (by simp only [lexStep, he, hq]; rfl) (showsAll_hidden rfl _) (.string _ _)

theorem follows_quoted (b : UInt8) (rest : List UInt8) :
    Follows ⟨.doubleQuote, none⟩ .quoted b rest := by
  by_cases hq : b = Byte.doubleQuote
  · subst hq
    by_cases h2 : startsWith rest [Byte.doubleQuote]
    · obtain ⟨r, rfl⟩ := startsWith_one.mp h2
      exact follows_of_step rfl rfl (showsAll_two_spaces rfl _ _) (.quoted _)
    · exact follows_of_step (by simp only [surfaceStep, h2]; rfl)
        (by simp only [lexStep, h2]; rfl) (showsAll_space rfl _) (.code _ _)
  · exact follows_of_step (by simp only [surfaceStep, hq]; rfl)
      (by simp only [lexStep, hq]; rfl) (showsAll_hidden rfl _) (.quoted _)

theorem follows_lineComment (b : UInt8) (rest : List UInt8)
    (hp : plainStep .lineComment b rest) : Follows ⟨.lineComment, none⟩ .lineComment b rest := by
  by_cases hnl : b = Byte.newline
  · subst hnl
    exact follows_of_step rfl rfl (.cons (Or.inl rfl) .nil) (.code _ _)
  by_cases hcr : b = Byte.carriageReturn
  · subst hcr
    exact follows_of_step rfl rfl (.cons (Or.inr ⟨rfl, rfl⟩) .nil) (.afterReturn _ (hp rfl))
  · exact follows_of_step (by simp only [surfaceStep, hnl]; rfl)
      (by simp only [lexStep, hnl, hcr]; rfl) (showsAll_space rfl _) (.lineComment _)

theorem ofNat_eq_one_iff {d : Nat} (h : d < 2 ^ 32) : UInt32.ofNat d = 1 ↔ d = 1 := by
  rw [← UInt32.toNat_inj, UInt32.toNat_ofNat_of_lt' h]
  rfl

theorem follows_blockComment (depth : Nat) (pos : 0 < depth) (lt : depth < 2 ^ 32) (b : UInt8)
    (rest : List UInt8) (hp : plainStep (.blockComment depth) b rest) :
    Follows ⟨.blockComment (UInt32.ofNat depth), none⟩ (.blockComment depth) b rest := by
  by_cases h1 : startsWith (b :: rest) [Byte.slash, Byte.star]
  · have hlt := hp h1
    obtain ⟨rfl, r, rfl⟩ := startsWith_pair.mp h1
    refine follows_of_step rfl rfl (showsAll_two_spaces rfl _ _) ?_
    rw [show (1 : UInt32) = UInt32.ofNat 1 from rfl, ← UInt32.ofNat_add]
    exact .blockComment _ (by omega) hlt _
  by_cases h2 : startsWith (b :: rest) [Byte.star, Byte.slash]
  · obtain ⟨rfl, r, rfl⟩ := startsWith_pair.mp h2
    refine follows_of_step rfl rfl (showsAll_two_spaces rfl _ _) ?_
    simp only [ofNat_eq_one_iff lt]
    split
    · exact .code _ _
    · rw [show (1 : UInt32) = UInt32.ofNat 1 from rfl, ← UInt32.ofNat_sub pos]
      exact .blockComment _ (by omega) (by omega) _
  · exact follows_of_step (by simp only [surfaceStep, h1, h2]; rfl)
      (by simp only [lexStep, h1, h2]; rfl) (showsAll_hidden rfl _) (.blockComment _ pos lt _)

theorem follows_dollar (tag : List UInt8) (ne : tag ≠ []) (b : UInt8) (rest : List UInt8) :
    Follows ⟨.normal, some tag⟩ (.dollar tag) b rest := by
  by_cases h : startsWith (b :: rest) tag
  · have hlen : (b :: rest.take (tag.length - 1)).length = tag.length := by
      have hle := (List.isPrefixOf_iff_prefix.mp h).length_le
      have hpos := List.length_pos_iff_ne_nil.mpr ne
      simp only [List.length_cons, List.length_take] at hle ⊢
      omega
    refine follows_of_step (by simp only [surfaceStep, h]; rfl)
      (by simp only [lexStep, h]; rfl) ?_ (.code _ _)
    conv => arg 1; rw [← hlen]
    exact showsAll_classed rfl _
  · exact follows_of_step (by simp only [surfaceStep, h]; rfl)
      (by simp only [lexStep, h]; rfl) (showsAll_hidden rfl _) (.dollar _ ne _)

/-- Each step of the reference lexer that reads no rare token is followed. -/
theorem follows_of_coupled {v : Vars} {m : Mode} {b : UInt8} {rest : List UInt8}
    (hR : Coupled v m (b :: rest)) (hp : plainStep m b rest) : Follows v m b rest := by
  cases hR with
  | code ident => exact follows_code ident b rest hp
  | string escapes => exact follows_string escapes b rest hp
  | quoted => exact follows_quoted b rest
  | lineComment => exact follows_lineComment b rest hp
  | blockComment depth pos lt => exact follows_blockComment depth pos lt b rest hp
  | dollar tag ne => exact follows_dollar tag ne b rest
  | afterReturn _ h => exact follows_afterReturn b rest h

/-- On a plain text the surface shows every byte as the reference lexer classifies it. -/
theorem run_coupled {sql : List UInt8} (h : Plain sql) :
    ShowsAll (surface.run Vars.start sql).1 (lexed sql) ∧
      Coupled (surface.run Vars.start sql).2 (duckLexer.run (.code .none) sql).2 [] :=
  run_simulates surface duckLexer (R := Coupled) (G := ShowsAll) (P := plainStep) .nil
    (fun h₁ h₂ => List.rel_append h₁ h₂) (fun _ _ _ _ hR hp => follows_of_coupled hR hp)
    Vars.start (.code .none) sql (.code _ _) h

theorem lexicalSurface_shows {sql out : List UInt8} (h : Plain sql)
    (ho : lexicalSurface sql = .ok out) : ShowsAll out (lexed sql) := by
  rw [← (lexicalSurface_ok_iff.mp ho).2]
  exact (run_coupled h).1

/-- **The mask agrees with the reference lexer on every plain text.** -/
theorem maskingAgrees_of_plain (sql : List UInt8) (h : Plain sql) : MaskingAgrees sql := by
  intro out ho i b cls hb hc hcode hp
  have hshow := lexicalSurface_shows h ho
  have hx := lexed_getElem? hb hc
  have hi : i < out.length := by
    rw [hshow.length_eq]
    exact (List.getElem?_eq_some_iff.mp hx).1
  have hs := (List.forall₂_iff_get.mp hshow).2 i hi (List.getElem?_eq_some_iff.mp hx).1
  rw [List.getElem?_eq_getElem hi]
  simp only [List.get_eq_getElem, (List.getElem?_eq_some_iff.mp hx).2] at hs
  rw [shows_printable hs hcode hp]

/-- `maskingAgrees_of_plain` on a text with every kind of token, and a comment that ends
    at a carriage return and a line feed. -/
theorem maskingAgrees_mixed : MaskingAgrees
    (ascii "SELECT \"a\"\"b\", E'x\\n', $t$ -- $t$ /* a /* b */ c */ --\r\nFROM t -- end") :=
  maskingAgrees_of_plain _ (by decide +kernel)

/-- One code byte of the text that the surface hides. -/
theorem not_maskingAgrees_of_hidden {sql : List UInt8} (i : Nat) (b c : UInt8) (cls : ByteClass)
    (out : List UInt8) (ho : lexicalSurface sql = .ok out) (hx : (lexed sql)[i]? = some (b, cls))
    (hcode : cls.isCode) (hp : isPrintable b) (hi : out[i]? = some c) (hne : b ≠ c) :
    ¬ MaskingAgrees sql := by
  intro h
  have hb : sql[i]? = some b := by
    rw [← lexed_bytes sql, List.getElem?_map, hx]
    rfl
  have hc : (classes sql)[i]? = some cls := by
    rw [classes, List.getElem?_map, hx]
    rfl
  have := h out ho i b cls hb hc hcode hp
  rw [hi] at this
  exact hne (Option.some.inj this).symm

/-- DuckDB runs what follows a comment that only a carriage return ends, what follows the
    string `E'\''`, and what stands between `a$b$` and `c$b$`; the surface hides it. -/
theorem not_maskingAgrees_rareTokens :
    ¬ MaskingAgrees (ascii "SELECT 1 --\rFROM read_csv('a')") ∧
    ¬ MaskingAgrees (ascii "SELECT E'\\'' FROM read_csv(x) /*'*/") ∧
    ¬ MaskingAgrees (ascii "SELECT a$b$ FROM read_csv(c$b$)") := by
  refine ⟨?_, ?_, ?_⟩
  · exact not_maskingAgrees_of_hidden 12 0x46 0x20 .word
      (ascii "SELECT 1 " ++ List.replicate 21 Byte.space) (by decide +kernel)
      (by decide +kernel) rfl rfl (by decide +kernel) (by decide)
  · exact not_maskingAgrees_of_hidden 13 0x46 0x20 .word
      (ascii "SELECT E" ++ List.replicate 25 Byte.space ++ ascii "*/") (by decide +kernel)
      (by decide +kernel) rfl rfl (by decide +kernel) (by decide)
  · exact not_maskingAgrees_of_hidden 12 0x46 0x20 .word
      (ascii "SELECT a" ++ List.replicate 22 Byte.space ++ ascii ")") (by decide +kernel)
      (by decide +kernel) rfl rfl (by decide +kernel) (by decide)

end Ga4Mcp.SqlSafety
