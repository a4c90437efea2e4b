/-
  `lexical_surface` of `src/sql_safety.rs`: the text with every string, quoted
  identifier and comment masked by blanks.

  A SQL text is the list of its bytes. The loop of the source is a `Scanner`: one
  iteration is `surfaceStep`, its variables `state` and `dollar_tag` are `Vars`.
  `BlockComment` counts in a `u32`; the addition wraps, as in a release build.
-/
import Ga4Mcp.Lib.Scanner
import Ga4Mcp.Text
import Mathlib.Data.UInt

namespace Ga4Mcp.SqlSafety

open Ga4Mcp.Lib

/-! ## Bytes -/

namespace Byte

abbrev tab : UInt8 := 0x09
abbrev newline : UInt8 := 0x0A
abbrev formFeed : UInt8 := 0x0C
abbrev carriageReturn : UInt8 := 0x0D
abbrev space : UInt8 := 0x20
abbrev doubleQuote : UInt8 := 0x22
abbrev dollar : UInt8 := 0x24
abbrev quote : UInt8 := 0x27
abbrev leftParen : UInt8 := 0x28
abbrev rightParen : UInt8 := 0x29
abbrev star : UInt8 := 0x2A
abbrev minus : UInt8 := 0x2D
abbrev slash : UInt8 := 0x2F
abbrev backslash : UInt8 := 0x5C
abbrev underscore : UInt8 := 0x5F

end Byte

def isAsciiUpper (b : UInt8) : Bool := 0x41 ≤ b && b ≤ 0x5A
def isAsciiLower (b : UInt8) : Bool := 0x61 ≤ b && b ≤ 0x7A
def isAsciiDigit (b : UInt8) : Bool := 0x30 ≤ b && b ≤ 0x39
def isAsciiAlphabetic (b : UInt8) : Bool := isAsciiUpper b || isAsciiLower b
def isAsciiAlphanumeric (b : UInt8) : Bool := isAsciiAlphabetic b || isAsciiDigit b

/-- `u8::is_ascii_whitespace`: the vertical tab is not one. -/
def isAsciiWhitespace (b : UInt8) : Bool :=
  b = Byte.tab || b = Byte.newline || b = Byte.formFeed || b = Byte.carriageReturn ||
    b = Byte.space

/-- `0x20..=0x7e`. -/
def isPrintable (b : UInt8) : Bool := 0x20 ≤ b && b ≤ 0x7E

/-- The bytes of an ASCII literal. -/
def ascii (s : String) : List UInt8 := s.toList.map fun c => c.toNat.toUInt8

/-- A decidable property of one byte is checked on the 256 of them. -/
theorem forall_byte {p : UInt8 → Prop} (h : ∀ n : Fin 256, p (UInt8.ofFin n)) : ∀ b, p b :=
  fun b => h b.toFin

/-! ## Errors of the policy -/

/-- Why a statement is refused. -/
inductive ScratchpadSqlPolicyCode where
  | emptySql
  | unterminatedToken
  | multipleStatements
  | notReadOnlyPrefix
  | forbiddenKeyword
  | forbiddenFunction
  | explainNotReadOnly
  | classifierUnavailable
  | sqlTooLarge
  | duckDbForbiddenKeyword
  | duckDbForbiddenFunction
deriving DecidableEq, Repr

/-- A refusal with its text. -/
structure ScratchpadSqlPolicyError where
  code : ScratchpadSqlPolicyCode
  message : Text
deriving DecidableEq, Repr

/-! ## The scanner -/

/-- `State` of `lexical_surface`. -/
inductive State where
  | normal
  | singleQuote
  | doubleQuote
  | lineComment
  | blockComment (depth : UInt32)
deriving DecidableEq, Repr

/-- The variables of the loop. -/
structure Vars where
  state : State
  dollarTag : Option (List UInt8)
deriving DecidableEq, Repr

/-- Before the first byte. -/
def Vars.start : Vars := ⟨.normal, none⟩

/-- `mask_byte`: a byte that is not printable becomes a blank. -/
def maskByte (b : UInt8) : UInt8 :=
  if b = Byte.newline then Byte.newline
  else if b = Byte.carriageReturn then Byte.carriageReturn
  else if b = Byte.tab then Byte.tab
  else if isPrintable b then b
  else Byte.space

/-- `mask_hidden_byte`: every byte becomes a blank, but for line breaks and tabs. -/
def maskHiddenByte (b : UInt8) : UInt8 :=
  if b = Byte.newline then Byte.newline
  else if b = Byte.carriageReturn then Byte.carriageReturn
  else if b = Byte.tab then Byte.tab
  else Byte.space

/-- A byte of a dollar tag. -/
def isTagByte (b : UInt8) : Bool := isAsciiAlphanumeric b || b = Byte.underscore

/-- The `while` loop of `parse_dollar_tag` from index `j` on. -/
def parseDollarTagLoop : List UInt8 → Nat → Option Nat
  | [], _ => none
  | c :: rest, j =>
      if c = Byte.dollar then some (j + 1)
      else if isTagByte c then parseDollarTagLoop rest (j + 1)
      else none

/-- Length of the dollar tag the input starts with, both `$` included. -/
def parseDollarTag : List UInt8 → Option Nat
  | [] => none
  | c :: rest => if c = Byte.dollar then parseDollarTagLoop rest 1 else none

/-- `starts_with` of the bytes that are left. -/
def startsWith (input pat : List UInt8) : Bool := pat.isPrefixOf input

/-- One iteration: what is pushed to `out`, the variables after it, the bytes from
    the new `i` on. -/
def surfaceStep (v : Vars) (b : UInt8) (rest : List UInt8) :
    List UInt8 × Vars × List UInt8 :=
  match v.dollarTag with
  | some tag =>
      if startsWith (b :: rest) tag then
        -- `i += tag.len()`; a tag is never empty
        (List.replicate tag.length Byte.space, ⟨v.state, none⟩, rest.drop (tag.length - 1))
      else ([maskHiddenByte b], v, rest)
  | none =>
    match v.state with
    | .normal =>
        if startsWith (b :: rest) [Byte.minus, Byte.minus] then
          ([Byte.space, Byte.space], ⟨.lineComment, none⟩, rest.drop 1)
        else if startsWith (b :: rest) [Byte.slash, Byte.star] then
          ([Byte.space, Byte.space], ⟨.blockComment 1, none⟩, rest.drop 1)
        else if b = Byte.quote then ([Byte.space], ⟨.singleQuote, none⟩, rest)
        else if b = Byte.doubleQuote then ([Byte.space], ⟨.doubleQuote, none⟩, rest)
        else
          match parseDollarTag (b :: rest) with
          | some tagLen =>
              (List.replicate tagLen Byte.space, ⟨.normal, some ((b :: rest).take tagLen)⟩,
                rest.drop (tagLen - 1))
          | none => ([maskByte b], v, rest)
    | .singleQuote =>
        if b = Byte.quote then
          if startsWith rest [Byte.quote] then ([Byte.space, Byte.space], v, rest.drop 1)
          else ([Byte.space], ⟨.normal, none⟩, rest)
        else ([maskHiddenByte b], v, rest)
    | .doubleQuote =>
        if b = Byte.doubleQuote then
          if startsWith rest [Byte.doubleQuote] then ([Byte.space, Byte.space], v, rest.drop 1)
          else ([Byte.space], ⟨.normal, none⟩, rest)
        else ([maskHiddenByte b], v, rest)
    | .lineComment =>
        if b = Byte.newline then ([Byte.newline], ⟨.normal, none⟩, rest)
        else ([Byte.space], v, rest)
    | .blockComment depth =>
        if startsWith (b :: rest) [Byte.slash, Byte.star] then
          ([Byte.space, Byte.space], ⟨.blockComment (depth + 1), none⟩, rest.drop 1)
        else if startsWith (b :: rest) [Byte.star, Byte.slash] then
          ([Byte.space, Byte.space],
            ⟨if depth = 1 then .normal else .blockComment (depth - 1), none⟩, rest.drop 1)
        else ([maskHiddenByte b], v, rest)

/-- No iteration gives a byte back. -/
theorem surfaceStep_progress (v : Vars) (b : UInt8) (rest : List UInt8) :
    (surfaceStep v b rest).2.2.length ≤ rest.length := by
  unfold surfaceStep
  repeat' split
  all_goals simp

/-- The loop of `lexical_surface`. -/
def surface : Scanner Vars UInt8 UInt8 := ⟨surfaceStep, surfaceStep_progress⟩

/-- The states in which the text may end. -/
def Vars.terminated (v : Vars) : Bool :=
  v.dollarTag.isNone &&
    match v.state with
    | .normal => true
    | .lineComment => true
    | .singleQuote => false
    | .doubleQuote => false
    | .blockComment _ => false

/-- The error of a token without an end. -/
def unterminated : ScratchpadSqlPolicyError :=
  ⟨.unterminatedToken, text "scratchpad policy rejected SQL with unterminated quote/comment"⟩

def lexicalSurface (sql : List UInt8) : Except ScratchpadSqlPolicyError (List UInt8) :=
  if (surface.run Vars.start sql).2.terminated then .ok (surface.run Vars.start sql).1
  else .error unterminated

theorem lexicalSurface_ok_iff {sql out : List UInt8} :
    lexicalSurface sql = .ok out ↔
      (surface.run Vars.start sql).2.terminated = true ∧
        (surface.run Vars.start sql).1 = out := by
  unfold lexicalSurface
  split <;> simp_all

example : lexicalSurface (ascii "SELECT 'it''s' -- x") = .ok (ascii "SELECT             ") := by
  decide +kernel

end Ga4Mcp.SqlSafety
