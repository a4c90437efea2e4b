/-
  The reference lexer: how DuckDB's PostgreSQL-derived scanner divides a SQL text into
  code, strings, quoted identifiers and comments. A statement of DuckDB's rules, not a
  translation of the repository.

  * a `--` comment ends at the first line feed or carriage return;
  * block comments nest;
  * `'..'` and `".."` end at an undoubled quote; after the prefix `E` or `e` a string
    also takes the backslash for an escape;
  * a dollar-quote tag is empty or starts with a letter or an underscore (bytes from
    `0x80` on count as letters); the string ends at the same tag;
  * `$` inside a running identifier continues the identifier.

  `lexed` gives every byte its class; `lexed_bytes`: each byte once, in order.
-/
import Ga4Mcp.SqlSafety.Surface

namespace Ga4Mcp.SqlSafety

open Ga4Mcp.Lib

/-! ## Identifiers and tags -/

/-- The first byte of an identifier. -/
def isIdentStart (b : UInt8) : Bool :=
  isAsciiAlphabetic b || b = Byte.underscore || 0x80 ≤ b

/-- A further byte of a dollar tag. -/
def isTagCont (b : UInt8) : Bool := isIdentStart b || isAsciiDigit b

/-- A further byte of an identifier. -/
def isIdentCont (b : UInt8) : Bool := isTagCont b || b = Byte.dollar

/-- White space between tokens. -/
def isBlank (b : UInt8) : Bool :=
  b = Byte.space || (Byte.tab ≤ b && b ≤ Byte.carriageReturn)

/-- Empty, or starts with a letter or an underscore. -/
def isDollarTag : List UInt8 → Bool
  | [] => true
  | t :: _ => isIdentStart t

/-- Length of the dollar-quote delimiter the input starts with. -/
def dollarDelimiter : List UInt8 → Option Nat
  | [] => none
  | c :: rest =>
      let tag := rest.takeWhile isTagCont
      if c = Byte.dollar ∧ startsWith (rest.drop tag.length) [Byte.dollar] ∧ isDollarTag tag then
        some (tag.length + 2)
      else none

/-- The identifier the scanner is inside of: none, one that is just `E` or `e` so far,
    or any other. -/
inductive Ident where
  | none
  | escapePrefix
  | running
deriving DecidableEq, Repr

/-- What the next byte makes of an identifier. -/
def Ident.next (ident : Ident) (b : UInt8) : Ident :=
  if ident ≠ .none ∧ isIdentCont b then .running
  else if isIdentStart b then
    if b = 0x45 ∨ b = 0x65 then .escapePrefix else .running
  else .none

/-! ## The lexer -/

/-- Where the lexer is in the text. -/
inductive Mode where
  | code (ident : Ident)
  | string (escapes : Bool)
  | quoted
  | lineComment
  | blockComment (depth : Nat)
  | dollar (tag : List UInt8)
deriving DecidableEq, Repr

/-- `word` is code that belongs to an identifier or keyword; `code` is the rest of it. -/
inductive ByteClass where
  | code
  | word
  | string
  | quoted
  | comment
deriving DecidableEq, Repr

/-- A byte outside literals and comments. -/
def ByteClass.isCode : ByteClass → Bool
  | .code => true
  | .word => true
  | .string => false
  | .quoted => false
  | .comment => false

/-- A byte with its class. -/
abbrev LexedByte := UInt8 × ByteClass

/-- Bytes of one class. -/
def classed (cls : ByteClass) (bytes : List UInt8) : List LexedByte :=
  bytes.map fun b => (b, cls)

/-- The bytes that are read next, with their classes. -/
def lexStep (m : Mode) (b : UInt8) (rest : List UInt8) :
    List LexedByte × Mode × List UInt8 :=
  match m with
  | .code ident =>
      if startsWith (b :: rest) [Byte.minus, Byte.minus] then
        (classed .comment ((b :: rest).take 2), .lineComment, rest.drop 1)
      else if startsWith (b :: rest) [Byte.slash, Byte.star] then
        (classed .comment ((b :: rest).take 2), .blockComment 1, rest.drop 1)
      else if b = Byte.quote then
        ([(b, .string)], .string (decide (ident = .escapePrefix)), rest)
      else if b = Byte.doubleQuote then ([(b, .quoted)], .quoted, rest)
      else
        match if ident = .none then dollarDelimiter (b :: rest) else none with
        | some n =>
            (classed .string ((b :: rest).take n), .dollar ((b :: rest).take n),
              rest.drop (n - 1))
        | none =>
            ([(b, if ident.next b = .none then .code else .word)], .code (ident.next b), rest)
  | .string escapes =>
      if escapes ∧ b = Byte.backslash then
        (classed .string ((b :: rest).take 2), m, rest.drop 1)
      else if b = Byte.quote then
        if startsWith rest [Byte.quote] then
          (classed .string ((b :: rest).take 2), m, rest.drop 1)
        else ([(b, .string)], .code .none, rest)
      else ([(b, .string)], m, rest)
  | .quoted =>
      if b = Byte.doubleQuote then
        if startsWith rest [Byte.doubleQuote] then
          (classed .quoted ((b :: rest).take 2), m, rest.drop 1)
        else ([(b, .quoted)], .code .none, rest)
      else ([(b, .quoted)], m, rest)
  | .lineComment =>
      if b = Byte.newline ∨ b = Byte.carriageReturn then ([(b, .code)], .code .none, rest)
      else ([(b, .comment)], m, rest)
  | .blockComment depth =>
      if startsWith (b :: rest) [Byte.slash, Byte.star] then
        (classed .comment ((b :: rest).take 2), .blockComment (depth + 1), rest.drop 1)
      else if startsWith (b :: rest) [Byte.star, Byte.slash] then
        (classed .comment ((b :: rest).take 2),
          if depth = 1 then .code .none else .blockComment (depth - 1), rest.drop 1)
      else ([(b, .comment)], m, rest)
  | .dollar tag =>
      if startsWith (b :: rest) tag then
        (classed .string (b :: rest.take (tag.length - 1)), .code .none,
          rest.drop (tag.length - 1))
      else ([(b, .string)], m, rest)

theorem lexStep_progress (m : Mode) (b : UInt8) (rest : List UInt8) :
    (lexStep m b rest).2.2.length ≤ rest.length := by
  unfold lexStep
  repeat' split
  all_goals simp

/-- The lexer as a scanner. -/
def duckLexer : Scanner Mode UInt8 LexedByte := ⟨lexStep, lexStep_progress⟩

/-- The bytes of a text with their classes. -/
def lexed (sql : List UInt8) : List LexedByte := (duckLexer.run (.code .none) sql).1

/-- The class of each byte of the text. -/
def classes (sql : List UInt8) : List ByteClass := (lexed sql).map Prod.snd

/-! ## Every byte once -/

@[simp] theorem classed_bytes (cls : ByteClass) (bytes : List UInt8) :
    (classed cls bytes).map Prod.fst = bytes := by
  simp [classed, Function.comp_def]

theorem dollarDelimiter_ge_two {input : List UInt8} {n : Nat}
    (h : dollarDelimiter input = some n) : 2 ≤ n := by
  cases input with
  | nil => simp [dollarDelimiter] at h
  | cons c rest =>
      simp only [dollarDelimiter, Option.ite_none_right_eq_some, Option.some.injEq] at h
      omega

private theorem take_one_append_tail (l : List UInt8) : l.take 1 ++ l.tail = l := by
  cases l <;> rfl

/-- A step's output is the bytes it reads. -/
theorem lexStep_bytes (m : Mode) (b : UInt8) (rest : List UInt8) :
    (lexStep m b rest).1.map Prod.fst ++ (lexStep m b rest).2.2 = b :: rest := by
  unfold lexStep
  split
  case h_1 ident =>
    repeat' split
    case h_1 n heq =>
      have hn : 2 ≤ n := by
        split at heq
        · exact dollarDelimiter_ge_two heq
        · simp at heq
      obtain ⟨k, rfl⟩ : ∃ k, n = k + 1 := ⟨n - 1, by omega⟩
      simp
    all_goals simp [take_one_append_tail]
  all_goals
    repeat' split
    all_goals simp [take_one_append_tail]

theorem run_lexed_bytes (m : Mode) (sql : List UInt8) :
    (duckLexer.run m sql).1.map Prod.fst = sql := by
  refine duckLexer.run_related (I := fun _ => True) (R := fun sql out => out.map Prod.fst = sql)
    (fun _ _ _ _ => trivial) rfl ?_ m sql trivial
  intro m b rest out _ hout
  rw [List.map_append, hout]
  exact lexStep_bytes m b rest

theorem lexed_bytes (sql : List UInt8) : (lexed sql).map Prod.fst = sql :=
  run_lexed_bytes _ sql

/-- The byte and the class at an index. -/
theorem lexed_getElem? {sql : List UInt8} {i : Nat} {b : UInt8} {cls : ByteClass}
    (hb : sql[i]? = some b) (hc : (classes sql)[i]? = some cls) :
    (lexed sql)[i]? = some (b, cls) := by
  rw [← lexed_bytes sql, List.getElem?_map, Option.map_eq_some_iff] at hb
  rw [classes, List.getElem?_map, Option.map_eq_some_iff] at hc
  obtain ⟨x, hx, rfl⟩ := hb
  obtain ⟨y, hy, rfl⟩ := hc
  rw [hx] at hy
  rw [hx, Option.some.inj hy]

end Ga4Mcp.SqlSafety
