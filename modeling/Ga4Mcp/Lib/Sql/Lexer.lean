/-
  Tokens of SQL texts: words, quoted names, strings, numbers and symbols.

  The lexer reads one character after the other (`Lexer.step`), so that a text is read
  piece by piece. Comments and dollar quotes are not read. What quoted tokens and numbers
  carry is a parameter, `Carrier`: the characters, or something that stands for them.

  * `Carrier.Hom.step`, `Carrier.Hom.foldlM`: a change of carriers commutes with reading.
  * `foldlM_quoted`: a quoted text is read back, whatever it holds.
  * `foldlM_digits`: so are digits.
-/
import Mathlib.Data.List.Basic

namespace Ga4Mcp.Lib.Sql

/-! ## Tokens -/

/-- The marks and operators. -/
inductive Symbol where
  | leftParen
  | rightParen
  | leftBracket
  | rightBracket
  | comma
  | star
  | plus
  | minus
  | slash
  | equal
  | notEqual
  | less
  | lessEqual
  | greater
  | greaterEqual
  | concat
deriving DecidableEq, Repr

/-- Bare words are folded to lower case. -/
inductive Token (ν : Type) where
  | word (folded : List Char)
  | quoted (name : ν)
  | string (value : ν)
  | number (value : ν)
  | symbol (s : Symbol)
deriving DecidableEq, Repr

/-- The token with its payload replaced. -/
def Token.map {ν μ : Type} (f : ν → μ) : Token ν → Token μ
  | .word folded => .word folded
  | .quoted name => .quoted (f name)
  | .string value => .string (f value)
  | .number value => .number (f value)
  | .symbol s => .symbol s

/-! ## Carriers -/

/-- What stands for characters; `text?` gives them back where they are known. -/
structure Carrier (ν : Type) where
  ofText : List Char → ν
  text? : ν → Option (List Char)

/-- Payloads that are the texts themselves. -/
def Carrier.text : Carrier (List Char) := ⟨id, some⟩

/-- A change of what stands for characters. -/
structure Carrier.Hom {ν μ : Type} (k : Carrier ν) (k' : Carrier μ) (f : ν → μ) : Prop where
  ofText : ∀ t, f (k.ofText t) = k'.ofText t
  text? : ∀ v t, k.text? v = some t → k'.text? (f v) = some t

/-! ## The lexer -/

/-- A quote, with the tokens it makes. -/
inductive Quote where
  | name
  | string
deriving DecidableEq, Repr

/-- The character of a quote. -/
def Quote.char : Quote → Char
  | .name => '"'
  | .string => '\''

/-- The token between two quotes. -/
def Quote.token {ν : Type} : Quote → ν → Token ν
  | .name => .quoted
  | .string => .string

/-- Where the lexer is in the text. -/
inductive Mode (ν : Type) where
  | blank
  /-- Behind an opening quote; the last character comes first. -/
  | inside (quote : Quote) (content : List Char)
  /-- A token that the next character may go on with. -/
  | ending (token : Token ν)
  /-- The first character of an operator. -/
  | operator (first : Char)
deriving DecidableEq, Repr

/-- The state of the lexer between two characters. -/
structure Lexer (ν : Type) where
  mode : Mode ν
  /-- The last token comes first. -/
  tokens : List (Token ν)
deriving DecidableEq, Repr

/-- The mode with its payload replaced. -/
def Mode.map {ν μ : Type} (f : ν → μ) : Mode ν → Mode μ
  | .blank => .blank
  | .inside quote content => .inside quote content
  | .ending token => .ending (token.map f)
  | .operator first => .operator first

/-- The state with its payloads replaced. -/
def Lexer.map {ν μ : Type} (f : ν → μ) (s : Lexer ν) : Lexer μ :=
  ⟨s.mode.map f, s.tokens.map (Token.map f)⟩

/-- Blanks between tokens. -/
def isBlank (c : Char) : Bool := c = ' ' || c = '\n' || c = '\t' || c = '\r'

/-- The first character of a word. -/
def isWordStart (c : Char) : Bool := c.isAlpha || c = '_'

/-- A further character of a word. -/
def isWordContinue (c : Char) : Bool := c.isAlphanum || c = '_'

/-- Symbols that stand alone. -/
def alone : Char → Option Symbol
  | '(' => some .leftParen
  | ')' => some .rightParen
  | '[' => some .leftBracket
  | ']' => some .rightBracket
  | ',' => some .comma
  | '*' => some .star
  | '+' => some .plus
  | '=' => some .equal
  | _ => none

/-- Operators of one character that may begin another one, or a comment. -/
def single : Char → Option Symbol
  | '-' => some .minus
  | '/' => some .slash
  | '<' => some .less
  | '>' => some .greater
  | _ => none

/-- Operators of two characters. -/
def double : Char → Char → Option Symbol
  | '<', '=' => some .lessEqual
  | '<', '>' => some .notEqual
  | '!', '=' => some .notEqual
  | '>', '=' => some .greaterEqual
  | '|', '|' => some .concat
  | _, _ => none

/-- The two openings of a comment; the language has none. -/
def opensComment (first next : Char) : Bool :=
  (first = '-' && next = '-') || (first = '/' && next = '*')

section

variable {ν : Type} (k : Carrier ν)

/-- A character that begins a token, or a blank. -/
def opened (tokens : List (Token ν)) (c : Char) : Option (Lexer ν) :=
  if isBlank c then some ⟨.blank, tokens⟩
  else if c = '\'' then some ⟨.inside .string [], tokens⟩
  else if c = '"' then some ⟨.inside .name [], tokens⟩
  else if isWordStart c then some ⟨.ending (.word [c.toLower]), tokens⟩
  else if c.isDigit then some ⟨.ending (.number (k.ofText [c])), tokens⟩
  else
    match alone c with
    | some s => some ⟨.blank, .symbol s :: tokens⟩
    | none => if (single c).isSome || c = '!' || c = '|' then some ⟨.operator c, tokens⟩ else none

/-- A character behind a token: it goes on with the token, or begins another one. -/
def followed (tokens : List (Token ν)) (c : Char) : Token ν → Option (Lexer ν)
  | .word folded =>
      if isWordContinue c then some ⟨.ending (.word (folded ++ [c.toLower])), tokens⟩
      else opened k (.word folded :: tokens) c
  | .number value =>
      if isWordContinue c || c = '.' then
        if isWordStart c then none
        else (k.text? value).map fun t => ⟨.ending (.number (k.ofText (t ++ [c]))), tokens⟩
      else opened k (.number value :: tokens) c
  | .quoted name =>
      if c = '"' then (k.text? name).map fun t => ⟨.inside .name (c :: t.reverse), tokens⟩
      else opened k (.quoted name :: tokens) c
  | .string value =>
      if c = '\'' then (k.text? value).map fun t => ⟨.inside .string (c :: t.reverse), tokens⟩
      else opened k (.string value :: tokens) c
  | .symbol s => opened k (.symbol s :: tokens) c

/-- The state behind the next character. -/
def Lexer.step (s : Lexer ν) (c : Char) : Option (Lexer ν) :=
  match s.mode with
  | .blank => opened k s.tokens c
  | .inside quote content =>
      if c = quote.char then some ⟨.ending (quote.token (k.ofText content.reverse)), s.tokens⟩
      else some ⟨.inside quote (c :: content), s.tokens⟩
  | .ending token => followed k s.tokens c token
  | .operator first =>
      match double first c with
      | some symbol => some ⟨.blank, .symbol symbol :: s.tokens⟩
      | none =>
          if opensComment first c then none
          else (single first).bind fun symbol => opened k (.symbol symbol :: s.tokens) c

/-- Before the first character. -/
def Lexer.start : Lexer ν := ⟨.blank, []⟩

/-- The tokens, when the text may end here. -/
def Lexer.finish (s : Lexer ν) : Option (List (Token ν)) :=
  match s.mode with
  | .blank => some s.tokens.reverse
  | .inside _ _ => none
  | .ending token => some (token :: s.tokens).reverse
  | .operator first => (single first).map fun symbol => (.symbol symbol :: s.tokens).reverse

end

/-- The tokens of a text. -/
def lex (t : List Char) : Option (List (Token (List Char))) :=
  (t.foldlM (Lexer.step Carrier.text) Lexer.start).bind Lexer.finish

example : lex "Lower(\"a\"\"b\") <> 'x' || 1.5".toList =
    some [.word "lower".toList, .symbol .leftParen, .quoted "a\"b".toList, .symbol .rightParen,
      .symbol .notEqual, .string "x".toList, .symbol .concat, .number "1.5".toList] := by
  decide +kernel

/-! ## Change of carriers -/

namespace Carrier.Hom

variable {ν μ : Type} {k : Carrier ν} {k' : Carrier μ} {f : ν → μ}

theorem opened (h : Hom k k' f) {tokens : List (Token ν)} {c : Char} {s : Lexer ν}
    (hs : Sql.opened k tokens c = some s) :
    Sql.opened k' (tokens.map (Token.map f)) c = some (s.map f) := by
  unfold Sql.opened at hs ⊢
  repeat' split at hs
  all_goals
    first
    | cases hs
      simp_all [Lexer.map, Mode.map, Token.map, h.ofText]
    | cases hs

theorem followed (h : Hom k k' f) {tokens : List (Token ν)} {c : Char} {token : Token ν}
    {s : Lexer ν} (hs : Sql.followed k tokens c token = some s) :
    Sql.followed k' (tokens.map (Token.map f)) c (token.map f) = some (s.map f) := by
  -- a token whose characters are asked for
  have hknown : ∀ {v : ν} {g : List Char → Lexer ν} {g' : List Char → Lexer μ},
      (∀ t, g' t = (g t).map f) → (k.text? v).map g = some s →
        (k'.text? (f v)).map g' = some (s.map f) := by
    intro v g g' hg hs
    obtain ⟨t, ht, rfl⟩ := Option.map_eq_some_iff.mp hs
    rw [h.text? v t ht, Option.map_some, hg]
  cases token with
  | word folded =>
      rw [Sql.followed] at hs
      rw [Token.map, Sql.followed]
      split at hs
      case isTrue hc =>
        cases hs
        rw [if_pos hc]
        rfl
      case isFalse hc =>
        rw [if_neg hc]
        exact h.opened hs
  | number value =>
      rw [Sql.followed] at hs
      rw [Token.map, Sql.followed]
      split at hs
      case isTrue hc =>
        rw [if_pos hc]
        split at hs
        case isTrue => cases hs
        case isFalse hstart =>
          rw [if_neg hstart]
          refine hknown (fun t => ?_) hs
          rw [Lexer.map, Mode.map, Token.map, h.ofText]
      case isFalse hc =>
        rw [if_neg hc]
        exact h.opened hs
  | quoted name =>
      rw [Sql.followed] at hs
      rw [Token.map, Sql.followed]
      split at hs
      case isTrue hc =>
        rw [if_pos hc]
        exact hknown (fun t => rfl) hs
      case isFalse hc =>
        rw [if_neg hc]
        exact h.opened hs
  | string value =>
      rw [Sql.followed] at hs
      rw [Token.map, Sql.followed]
      split at hs
      case isTrue hc =>
        rw [if_pos hc]
        exact hknown (fun t => rfl) hs
      case isFalse hc =>
        rw [if_neg hc]
        exact h.opened hs
  | symbol symbol => exact h.opened hs

/-- **Reading** commutes with a change of carriers, where nothing is asked that is not known. -/
theorem step (h : Hom k k' f) {s s' : Lexer ν} {c : Char} (hs : s.step k c = some s') :
    (s.map f).step k' c = some (s'.map f) := by
  obtain ⟨mode, tokens⟩ := s
  cases mode with
  | blank => exact h.opened hs
  | inside quote content =>
      rw [Lexer.step] at hs
      rw [Lexer.step, Lexer.map, Mode.map]
      dsimp only at hs ⊢
      split at hs
      case isTrue hc =>
        cases hs
        rw [if_pos hc]
        cases quote <;> simp [Lexer.map, Mode.map, Token.map, Quote.token, h.ofText]
      case isFalse hc =>
        cases hs
        rw [if_neg hc]
        rfl
  | ending token => exact h.followed hs
  | operator first =>
      rw [Lexer.step] at hs
      rw [Lexer.step, Lexer.map, Mode.map]
      dsimp only at hs ⊢
      split at hs
      case h_1 symbol hdouble =>
        cases hs
        rfl
      case h_2 hdouble =>
        split at hs
        case isTrue => cases hs
        case isFalse hcomment =>
          rw [if_neg hcomment]
          obtain ⟨symbol, hsingle, hs⟩ := Option.bind_eq_some_iff.mp hs
          rw [hsingle]
          exact h.opened hs

theorem foldlM (h : Hom k k' f) {t : List Char} {s s' : Lexer ν}
    (hs : t.foldlM (Lexer.step k) s = some s') :
    t.foldlM (Lexer.step k') (s.map f) = some (s'.map f) := by
  induction t generalizing s with
  | nil =>
      cases hs
      rfl
  | cons c t ih =>
      rw [List.foldlM_cons] at hs ⊢
      obtain ⟨s₁, hstep, hs⟩ := Option.bind_eq_some_iff.mp hs
      rw [h.step hstep]
      exact ih hs

theorem finish {s : Lexer ν} {tokens : List (Token ν)} (hs : s.finish = some tokens) :
    (s.map f).finish = some (tokens.map (Token.map f)) := by
  obtain ⟨mode, read⟩ := s
  cases mode with
  | blank =>
      cases hs
      rw [Lexer.finish, Lexer.map, Mode.map, List.map_reverse]
  | inside quote content => cases hs
  | ending token =>
      cases hs
      rw [Lexer.finish, Lexer.map, Mode.map, List.map_reverse, List.map_cons]
  | operator first =>
      obtain ⟨symbol, hsingle, rfl⟩ := Option.map_eq_some_iff.mp hs
      rw [Lexer.finish, Lexer.map, Mode.map]
      dsimp only
      rw [hsingle, Option.map_some, List.map_reverse, List.map_cons]
      rfl

end Carrier.Hom

/-! ## Quoted text -/

/-- A text between quotes: quotes in it are doubled. -/
theorem foldlM_quoted (quote : Quote) (raw content : List Char)
    (tokens : List (Token (List Char))) :
    (raw.flatMap fun d => if d = quote.char then [quote.char, quote.char] else [d]).foldlM
      (Lexer.step Carrier.text) ⟨.inside quote content, tokens⟩ =
      some ⟨.inside quote (raw.reverse ++ content), tokens⟩ := by
  induction raw generalizing content with
  | nil => rfl
  | cons d raw ih =>
      rw [List.flatMap_cons, List.foldlM_append]
      by_cases hd : d = quote.char
      · have hpair : [quote.char, quote.char].foldlM (Lexer.step Carrier.text)
            ⟨.inside quote content, tokens⟩ =
            some ⟨.inside quote (quote.char :: content), tokens⟩ := by
          rw [List.foldlM_cons, Lexer.step]
          dsimp only
          rw [if_pos rfl]
          cases quote <;>
            simp [Lexer.step, Sql.followed, Quote.token, Quote.char, Carrier.text]
        rw [if_pos hd, hpair, List.reverse_cons, List.append_assoc, hd]
        exact ih _
      · have hone : [d].foldlM (Lexer.step Carrier.text) ⟨.inside quote content, tokens⟩ =
            some ⟨.inside quote (d :: content), tokens⟩ := by
          rw [List.foldlM_cons, Lexer.step]
          dsimp only
          rw [if_neg hd]
          rfl
        rw [if_neg hd, hone, List.reverse_cons, List.append_assoc]
        exact ih _

/-! ## Digits -/

theorem isWordStart_of_isDigit {c : Char} (h : c.isDigit) : isWordStart c = false := by
  simp only [Char.isDigit, Bool.and_eq_true, decide_eq_true_eq, UInt32.le_iff_toNat_le] at h
  have hle : c.val.toNat ≤ 57 := h.2
  have hne : c ≠ '_' := by
    rintro rfl
    revert hle
    decide
  have halpha : c.isAlpha = false := by
    rw [Bool.eq_false_iff]
    intro halpha
    rcases Bool.or_eq_true_iff.mp halpha with hupper | hlower
    · have hge : 'A'.val ≤ c.val := (of_decide_eq_true hupper).1
      exact absurd (Nat.le_trans (UInt32.le_iff_toNat_le.mp hge) hle) (by decide)
    · have hge : 'a'.val ≤ c.val := of_decide_eq_true (Bool.and_eq_true_iff.mp hlower).1
      exact absurd (Nat.le_trans (UInt32.le_iff_toNat_le.mp hge) hle) (by decide)
  rw [isWordStart, halpha, Bool.false_or, decide_eq_false_iff_not]
  exact hne

/-- A digit is none of the characters that are looked for before. -/
theorem opened_digit {c : Char} (hc : c.isDigit) (tokens : List (Token (List Char))) :
    opened Carrier.text tokens c = some ⟨.ending (.number [c]), tokens⟩ := by
  have hne : ∀ d : Char, d.isDigit = false → c ≠ d := by
    rintro d hd rfl
    rw [hc] at hd
    cases hd
  have hstart : isWordStart c = false := isWordStart_of_isDigit hc
  have hblank : isBlank c = false := by
    simp [isBlank, hne ' ' (by decide), hne '\n' (by decide), hne '\t' (by decide),
      hne '\r' (by decide)]
  rw [opened, hblank, hstart, if_neg Bool.false_ne_true, if_neg (hne '\'' (by decide)),
    if_neg (hne '"' (by decide)), if_neg Bool.false_ne_true, if_pos hc]
  rfl

theorem foldlM_digits {digits : List Char} (hne : digits ≠ []) (h : ∀ c ∈ digits, c.isDigit)
    (tokens : List (Token (List Char))) :
    digits.foldlM (Lexer.step Carrier.text) ⟨.blank, tokens⟩ =
      some ⟨.ending (.number digits), tokens⟩ := by
  have hgo : ∀ (digits seen : List Char), (∀ c ∈ digits, c.isDigit) →
      digits.foldlM (Lexer.step Carrier.text) ⟨.ending (.number seen), tokens⟩ =
        some ⟨.ending (.number (seen ++ digits)), tokens⟩ := by
    intro digits
    induction digits with
    | nil =>
        intro seen _
        rw [List.append_nil]
        rfl
    | cons c digits ih =>
        intro seen hdigits
        have hc := hdigits c List.mem_cons_self
        have hstart : ¬ isWordStart c = true := by
          rw [isWordStart_of_isDigit hc]
          exact Bool.false_ne_true
        have hstep : (⟨.ending (.number seen), tokens⟩ : Lexer (List Char)).step Carrier.text c =
            some ⟨.ending (.number (seen ++ [c])), tokens⟩ := by
          rw [Lexer.step]
          dsimp only
          rw [followed, if_pos (by simp [isWordContinue, Char.isAlphanum, hc]), if_neg hstart]
          rfl
        rw [List.foldlM_cons, hstep]
        change digits.foldlM _ _ = _
        rw [ih (seen ++ [c]) fun d hd => hdigits d (List.mem_cons_of_mem c hd), List.append_assoc]
        rfl
  obtain ⟨c, digits, rfl⟩ := List.exists_cons_of_ne_nil hne
  rw [List.foldlM_cons, Lexer.step]
  dsimp only
  rw [opened_digit (h c List.mem_cons_self)]
  exact hgo digits [c] fun d hd => h d (List.mem_cons_of_mem c hd)

end Ga4Mcp.Lib.Sql
