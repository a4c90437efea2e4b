/-
  The tokens that DuckDB's scanner makes of a SQL text: what `DuckLexer` divides into words,
  names, strings and comments, read word by word.

  Like the lexer a statement of DuckDB's rules, not a translation of the repository.

  * `tokens`: words in upper case, quoted names and strings by their content, the other bytes
    that are no white space one by one.
  * `tokens_fixed`, `tokens_name`, `tokens_string`: fixed and quoted text is read without a look
    at what comes after them, a quoted text as what it was made from.
-/
import Ga4Mcp.SqlSafety.DuckLexer
import Ga4Mcp.SqlSafety.SurfaceRuns
import Ga4Mcp.SqlSafety.Policy
import Mathlib.Data.List.SplitBy

namespace Ga4Mcp.SqlSafety

open Ga4Mcp.Lib

/-! ## Tokens -/

/-- A token of the engine. -/
inductive DuckToken where
  /-- In upper case. -/
  | word (bytes : List UInt8)
  | name (bytes : List UInt8)
  | string (bytes : List UInt8)
  | symbol (byte : UInt8)
deriving DecidableEq, Repr

/-- Bytes that belong to one token: those of words, names and strings. -/
def sameToken (x y : LexedByte) : Bool :=
  x.2 = y.2 && x.2 ≠ .code && x.2 ≠ .comment

/-- Two quotes in a row stand for one. -/
def undoubled (q : UInt8) : List UInt8 → List UInt8
  | [] => []
  | [b] => [b]
  | b :: c :: rest => if b = q ∧ c = q then q :: undoubled q rest else b :: undoubled q (c :: rest)

/-- What stands between two quotes. -/
def unquoted (q : UInt8) (bytes : List UInt8) : List UInt8 := undoubled q bytes.tail.dropLast

/-- The token of the bytes that belong together. -/
def tokenOf : List LexedByte → List DuckToken
  | [] => []
  | (b, cls) :: rest =>
      let bytes := b :: rest.map Prod.fst
      match cls with
      | .word => [.word (toAsciiUppercase bytes)]
      | .quoted => [.name (unquoted Byte.doubleQuote bytes)]
      | .string => [.string (unquoted Byte.quote bytes)]
      | .code => if isBlank b then [] else [.symbol b]
      | .comment => []

/-- The tokens of classed bytes. -/
def tokensOf (bytes : List LexedByte) : List DuckToken := (bytes.splitBy sameToken).flatMap tokenOf

/-- The tokens of a text. Two strings with nothing between them are read as one. -/
def tokens (sql : List UInt8) : List DuckToken := tokensOf (lexed sql)

example : tokens (ascii "Select \"a\"\"b\", count(*) from t -- 'x'") =
    [.word (ascii "SELECT"), .name (ascii "a\"b"), .symbol 0x2C, .word (ascii "COUNT"),
      .symbol 0x28, .symbol 0x2A, .symbol 0x29, .word (ascii "FROM"), .word (ascii "T")] := by
  decide +kernel

/-! ## Reading on -/

theorem tokensOf_append {xs ys : List LexedByte}
    (h : ∀ x ∈ xs.getLast?, ∀ y ∈ ys.head?, sameToken x y = false) :
    tokensOf (xs ++ ys) = tokensOf xs ++ tokensOf ys := by
  rw [tokensOf, List.splitBy_append h, List.flatMap_append]
  rfl

/-- No quote, no dollar, and nothing that may begin a comment. -/
def isPlain (b : UInt8) : Bool :=
  b ≠ Byte.minus && b ≠ Byte.slash && b ≠ Byte.quote && b ≠ Byte.doubleQuote && b ≠ Byte.dollar

theorem step_plain {b : UInt8} (h : isPlain b = true) (ident : Ident) (rest : List UInt8) :
    duckLexer.step (.code ident) b rest =
      ([(b, if ident.next b = .none then .code else .word)], .code (ident.next b), rest) := by
  simp only [isPlain, Bool.and_eq_true, decide_eq_true_eq, ne_eq] at h
  obtain ⟨⟨⟨⟨hminus, hslash⟩, hquote⟩, hdouble⟩, hdollar⟩ := h
  have hone : ∀ {x y : UInt8}, b ≠ x → startsWith (b :: rest) [x, y] = false := by
    intro x y hne
    simp [startsWith, List.isPrefixOf, Ne.symm hne]
  have hdelimiter : (if ident = .none then dollarDelimiter (b :: rest) else none) = none := by
    split
    · simp [dollarDelimiter, hdollar]
    · rfl
  simp [duckLexer, lexStep, hone hminus, hone hslash, hquote, hdouble, hdelimiter]

theorem run_plain {bytes : List UInt8} (h : ∀ b ∈ bytes, isPlain b = true) (ident : Ident)
    (tail : List UInt8) :
    ∃ ident', (duckLexer.run (.code ident) bytes).2 = .code ident' ∧
      duckLexer.run (.code ident) (bytes ++ tail) =
        ((duckLexer.run (.code ident) bytes).1 ++ (duckLexer.run (.code ident') tail).1,
          (duckLexer.run (.code ident') tail).2) := by
  induction bytes generalizing ident with
  | nil => exact ⟨ident, rfl, rfl⟩
  | cons b bytes ih =>
      have hb := step_plain (h b List.mem_cons_self) ident
      obtain ⟨ident', hend, hrun⟩ :=
        ih (fun c hc => h c (List.mem_cons_of_mem b hc)) (ident.next b)
      -- what follows plain text matters to no step on it
      refine ⟨ident', ?_, ?_⟩
      · rw [duckLexer.run_step (hb bytes), hend]
      · rw [List.cons_append, duckLexer.run_step (hb (bytes ++ tail)), hrun,
          duckLexer.run_step (hb bytes), List.append_assoc]

/-- Plain text that ends behind a token. -/
def isFixed (bytes : List UInt8) : Bool :=
  bytes.all isPlain && (duckLexer.run (.code .none) bytes).2 = .code .none &&
    (duckLexer.run (.code .none) bytes).1.getLast?.all fun x => x.2 = .code

theorem tokens_fixed {bytes : List UInt8} (h : isFixed bytes = true) (tail : List UInt8) :
    tokens (bytes ++ tail) = tokens bytes ++ tokens tail := by
  simp only [isFixed, Bool.and_eq_true, decide_eq_true_eq, List.all_eq_true] at h
  obtain ⟨⟨hplain, hend⟩, hlast⟩ := h
  obtain ⟨ident', hend', hrun⟩ := run_plain hplain .none tail
  obtain rfl : ident' = .none := by
    rw [hend] at hend'
    exact (Mode.code.inj hend').symm
  rw [tokens, lexed, hrun]
  refine tokensOf_append fun x hx y _ => ?_
  rw [Option.mem_def.mp hx] at hlast
  have hcode : x.2 = .code := by simpa using hlast
  simp [sameToken, hcode]

/-! ## Quoted text -/

/-- A byte that opens and closes a token, and stands for itself when it is doubled. -/
structure QuotedBy (q : UInt8) (mode : Mode) (cls : ByteClass) : Prop where
  opens : ∀ rest, duckLexer.step (.code .none) q rest = ([(q, cls)], mode, rest)
  inside : ∀ b rest, duckLexer.step mode b rest =
    if b = q then
      if startsWith rest [q] then (classed cls ((b :: rest).take 2), mode, rest.drop 1)
      else ([(b, cls)], .code .none, rest)
    else ([(b, cls)], mode, rest)

theorem quotedBy_double : QuotedBy Byte.doubleQuote .quoted .quoted := ⟨fun _ => rfl, fun _ _ => rfl⟩

theorem quotedBy_single : QuotedBy Byte.quote (.string false) .string where
  opens _ := rfl
  inside b rest := by simp [duckLexer, lexStep]

/-- A quoted text: each quote in it is written twice. -/
inductive Doubled (q : UInt8) : List UInt8 → List UInt8 → Prop where
  | nil : Doubled q [] []
  | quote {raw bytes : List UInt8} (rest : Doubled q raw bytes) :
      Doubled q (q :: raw) (q :: q :: bytes)
  | other {b : UInt8} {raw bytes : List UInt8} (ne : b ≠ q) (rest : Doubled q raw bytes) :
      Doubled q (b :: raw) (b :: bytes)

namespace Doubled

variable {q : UInt8} {raw bytes : List UInt8}

theorem append {raw' bytes' : List UInt8} (h : Doubled q raw bytes) (h' : Doubled q raw' bytes') :
    Doubled q (raw ++ raw') (bytes ++ bytes') := by
  induction h with
  | nil => exact h'
  | quote _ ih => exact .quote ih
  | other ne _ ih => exact .other ne ih

theorem of_notMem (h : q ∉ raw) : Doubled q raw raw := by
  induction raw with
  | nil => exact .nil
  | cons b raw ih =>
      rw [List.mem_cons, not_or] at h
      exact .other (Ne.symm h.1) (ih h.2)

theorem undoubled_eq (h : Doubled q raw bytes) : undoubled q bytes = raw := by
  induction h with
  | nil => rfl
  | quote rest ih => simp [undoubled, ih]
  | @other b raw bytes ne rest ih =>
      cases bytes with
      | nil => rw [← ih]; rfl
      | cons c bytes => rw [undoubled, if_neg fun hboth => ne hboth.1, ih]

theorem run {mode : Mode} {cls : ByteClass} (hq : QuotedBy q mode cls) (h : Doubled q raw bytes)
    (tail : List UInt8) :
    duckLexer.run mode (bytes ++ tail) =
      (classed cls bytes ++ (duckLexer.run mode tail).1, (duckLexer.run mode tail).2) := by
  induction h with
  | nil => rfl
  | @quote raw bytes rest ih =>
      have hstep : duckLexer.step mode q (q :: (bytes ++ tail)) =
          (classed cls [q, q], mode, bytes ++ tail) := by
        rw [hq.inside, if_pos rfl, if_pos (startsWith_one.mpr ⟨_, rfl⟩)]
        rfl
      rw [List.cons_append, List.cons_append, duckLexer.run_step hstep, ih]
      rfl
  | @other b raw bytes ne rest ih =>
      have hstep : duckLexer.step mode b (bytes ++ tail) = ([(b, cls)], mode, bytes ++ tail) := by
        rw [hq.inside, if_neg ne]
      rw [List.cons_append, duckLexer.run_step hstep, ih]
      rfl

end Doubled

section Quoted

variable {q : UInt8} {mode : Mode} {cls : ByteClass} {raw bytes : List UInt8}

theorem run_quoted (hq : QuotedBy q mode cls) (h : Doubled q raw bytes) {tail : List UInt8}
    (htail : tail.head? ≠ some q) :
    duckLexer.run (.code .none) (q :: (bytes ++ q :: tail)) =
      (classed cls (q :: (bytes ++ [q])) ++ (duckLexer.run (.code .none) tail).1,
        (duckLexer.run (.code .none) tail).2) := by
  have hclose : duckLexer.step mode q tail = ([(q, cls)], .code .none, tail) := by
    rw [hq.inside, if_pos rfl, if_neg]
    intro hstarts
    obtain ⟨rest, rfl⟩ := startsWith_one.mp hstarts
    exact htail rfl
  rw [duckLexer.run_step (hq.opens _), h.run hq, duckLexer.run_step hclose]
  simp [classed]

/-- The first token of plain text is neither quoted nor a string. -/
theorem head_run_plain {tail : List UInt8} (h : tail.head?.all isPlain = true) :
    ∀ y ∈ (duckLexer.run (.code .none) tail).1.head?, y.2 = .code ∨ y.2 = .word := by
  cases tail with
  | nil => intro y hy; cases hy
  | cons b tail =>
      intro y hy
      rw [duckLexer.run_step (step_plain h .none tail)] at hy
      cases hy
      dsimp only
      split
      · exact .inl rfl
      · exact .inr rfl

theorem tokens_quoted (hq : QuotedBy q mode cls) (hcls : cls = .quoted ∨ cls = .string)
    (hplain : isPlain q = false) (h : Doubled q raw bytes) {tail : List UInt8}
    (htail : tail.head?.all isPlain = true) :
    tokens (q :: (bytes ++ q :: tail)) =
      tokenOf (classed cls (q :: (bytes ++ [q]))) ++ tokens tail := by
  have hne : tail.head? ≠ some q := by
    intro heq
    rw [heq, Option.all_some, hplain] at htail
    cases htail
  have hsame : ∀ b c : UInt8, sameToken (b, cls) (c, cls) = true := by
    rcases hcls with rfl | rfl
    all_goals exact fun _ _ => rfl
  have hchain : (classed cls (q :: (bytes ++ [q]))).IsChain fun x y => sameToken x y = true := by
    refine List.Pairwise.isChain (List.pairwise_map.mpr ?_)
    exact List.pairwise_of_forall fun b c => hsame b c
  rw [tokens, lexed, run_quoted hq h hne, tokensOf_append]
  · rw [tokensOf, List.splitBy_of_isChain (by simp [classed]) hchain, List.flatMap_singleton]
    rfl
  · intro x hx y hy
    obtain ⟨b, -, rfl⟩ := List.mem_map.mp (List.mem_of_getLast? hx)
    rcases head_run_plain htail y hy with hy | hy
    all_goals
      rcases hcls with rfl | rfl
      all_goals simp [sameToken, hy]

theorem unquoted_doubled (h : Doubled q raw bytes) : unquoted q (q :: (bytes ++ [q])) = raw := by
  rw [unquoted, List.tail_cons, List.dropLast_concat, h.undoubled_eq]

/-- **A quoted name is read as what it was made from**, whatever that holds. -/
theorem tokens_name (h : Doubled Byte.doubleQuote raw bytes) {tail : List UInt8}
    (htail : tail.head?.all isPlain = true) :
    tokens (Byte.doubleQuote :: (bytes ++ Byte.doubleQuote :: tail)) =
      .name raw :: tokens tail := by
  rw [tokens_quoted quotedBy_double (.inl rfl) rfl h htail, classed, List.map_cons, tokenOf]
  simp [Function.comp_def, unquoted_doubled h]

theorem tokens_string (h : Doubled Byte.quote raw bytes) {tail : List UInt8}
    (htail : tail.head?.all isPlain = true) :
    tokens (Byte.quote :: (bytes ++ Byte.quote :: tail)) = .string raw :: tokens tail := by
  rw [tokens_quoted quotedBy_single (.inr rfl) rfl h htail, classed, List.map_cons, tokenOf]
  simp [Function.comp_def, unquoted_doubled h]

end Quoted

end Ga4Mcp.SqlSafety
