/-
  `validate_scratchpad_sql` of `src/sql_safety.rs`: the size checks, the answer of the
  canonical policy authority, and the DuckDB overlay over the masked surface.

  The authority belongs to a toolkit outside the repository. `Toolkit` stands for it:
  its decision on a text, and its reading of a decision code.

  * `containsForbiddenFunctionCall`: the token scan, as a `Scanner` that writes the
    identifiers followed by `(`.
  * `validateScratchpadSql_ok_iff`: what an accepted text has passed.
-/
import Ga4Mcp.SqlSafety.Surface
import Mathlib.Data.List.DropRight

namespace Ga4Mcp.SqlSafety

open Ga4Mcp.Lib

/-! ## The authority -/

/-- The codes that `scratchpad_error_code` tells apart, and `other` for the rest. -/
inductive DecisionCode where
  | emptySql
  | unterminatedToken
  | multipleStatements
  | notReadOnlyPrefix
  | forbiddenKeyword
  | forbiddenFunction
  | explainNotReadOnly
  | classifierUnavailable
  | sparkRuntimeUnavailable
  | invalidInput
  | other
deriving DecidableEq, Repr

/-- What the policy authority answers. -/
structure PolicyAuthorityDecision where
  allow : Bool
  code : Option Text

/-- The parts of the toolkit that the policy calls. -/
structure Toolkit where
  /-- `DecisionCode::parse`. -/
  parse : Text → Option DecisionCode
  /-- `configured_sql_restricted_policy_authority().evaluate`. -/
  evaluate : List UInt8 → PolicyAuthorityDecision

/-- The code of a refusal; an unknown one stands for an unavailable classifier. -/
def scratchpadErrorCode (tk : Toolkit) (code : Option Text) : ScratchpadSqlPolicyCode :=
  match code.bind tk.parse with
  | some .emptySql => .emptySql
  | some .unterminatedToken => .unterminatedToken
  | some .multipleStatements => .multipleStatements
  | some .notReadOnlyPrefix => .notReadOnlyPrefix
  | some .forbiddenKeyword => .forbiddenKeyword
  | some .forbiddenFunction => .forbiddenFunction
  | some .explainNotReadOnly => .explainNotReadOnly
  | _ => .classifierUnavailable

/-- The text of a refusal. -/
def scratchpadErrorMessage : ScratchpadSqlPolicyCode → Text
  | .emptySql => text "sql must not be empty"
  | .unterminatedToken => text "restricted mode could not parse SQL lexical surface"
  | .multipleStatements => text "restricted mode allows only a single SQL statement"
  | .notReadOnlyPrefix => text "restricted mode allows only allowlisted SQL prefixes"
  | .forbiddenKeyword => text "restricted mode rejected write/admin SQL"
  | .forbiddenFunction => text "restricted mode rejected unsafe function call"
  | .explainNotReadOnly => text "restricted mode allows EXPLAIN only for read-only statements"
  | .classifierUnavailable => text "restricted mode policy classifier unavailable"
  | .sqlTooLarge => text "sql payload exceeds scratchpad size limit"
  | .duckDbForbiddenKeyword => text "scratchpad policy rejected DuckDB extension/file keyword"
  | .duckDbForbiddenFunction => text "scratchpad policy rejected DuckDB external scan/read function"

/-! ## The overlay -/

/-- What a statement may start with, beyond what the authority allows. -/
def duckdbAllowedPrefixes : List (List UInt8) := ["DESCRIBE", "SUMMARIZE"].map ascii

/-- Keywords that are refused anywhere. -/
def duckdbForbiddenKeywords : List (List UInt8) :=
  ["INSTALL", "LOAD", "ATTACH", "DETACH", "EXPORT", "IMPORT"].map ascii

/-- Functions that are refused as calls. -/
def duckdbForbiddenFunctions : List (List UInt8) :=
  ["READ_CSV", "READ_CSV_AUTO", "READ_PARQUET", "READ_JSON", "READ_JSON_AUTO", "READ_NDJSON",
    "READ_BLOB", "READ_TEXT", "READ_XLSX", "CSV_SCAN", "PARQUET_SCAN", "JSON_SCAN",
    "POSTGRES_SCAN", "MYSQL_SCAN", "SQLITE_SCAN"].map ascii

/-- `char::is_whitespace` on the characters a surface can hold. -/
def isWhitespace (b : UInt8) : Bool :=
  b = Byte.space || (Byte.tab ≤ b && b ≤ Byte.carriageReturn)

/-- `str::trim` of a surface, which is ASCII. -/
def trimSurface (surface : List UInt8) : List UInt8 :=
  (surface.dropWhile isWhitespace).rdropWhile isWhitespace

/-- `to_ascii_uppercase` of a byte. -/
def toAsciiUppercaseByte (b : UInt8) : UInt8 := if isAsciiLower b then b - 0x20 else b

/-- The bytes in upper case. -/
def toAsciiUppercase (bytes : List UInt8) : List UInt8 := bytes.map toAsciiUppercaseByte

/-- The first byte of an identifier. -/
def isIdentifierStart (b : UInt8) : Bool := isAsciiAlphabetic b || b = Byte.underscore

/-- A further byte of an identifier. -/
def isIdentifierContinue (b : UInt8) : Bool := isAsciiAlphanumeric b || b = Byte.underscore

/-- A word of the surface is a forbidden keyword. -/
def containsForbiddenKeyword (surfaceUpper : List UInt8) : Bool :=
  ((surfaceUpper.splitOnP fun b => !(isAsciiAlphanumeric b || b = Byte.underscore)).filter
    (· ≠ [])).any duckdbForbiddenKeywords.contains

/-- One round of the loop of `contains_forbidden_function_call`: the token at the head,
    written when the next byte that is not white space is `(`. -/
def callStep (_ : Unit) (b : UInt8) (rest : List UInt8) :
    List (List UInt8) × Unit × List UInt8 :=
  if isIdentifierStart b then
    let token := b :: rest.takeWhile isIdentifierContinue
    let after := rest.dropWhile isIdentifierContinue
    (if startsWith (after.dropWhile isAsciiWhitespace) [Byte.leftParen] then [token] else [],
      (), after)
  else ([], (), rest)

theorem callStep_progress (u : Unit) (b : UInt8) (rest : List UInt8) :
    (callStep u b rest).2.2.length ≤ rest.length := by
  unfold callStep
  split
  · exact (List.dropWhile_suffix _).length_le
  · exact Nat.le_refl _

/-- The scan for calls. -/
def callScanner : Scanner Unit UInt8 (List UInt8) := ⟨callStep, callStep_progress⟩

/-- The loop returns at the first called token of the table. -/
def containsForbiddenFunctionCall (surfaceUpper : List UInt8) : Bool :=
  (callScanner.run () surfaceUpper).1.any duckdbForbiddenFunctions.contains

/-! ## The policy -/

/-- `lexical.trim().to_ascii_uppercase()`. -/
def upperSurface (lexical : List UInt8) : List UInt8 := toAsciiUppercase (trimSurface lexical)

def validateScratchpadSql (tk : Toolkit) (sql : List UInt8) (maxSqlBytes : Nat) :
    Except ScratchpadSqlPolicyError Unit := do
  if maxSqlBytes = 0 then
    throw ⟨.classifierUnavailable,
      text "scratchpad sql policy is unavailable due to invalid max_sql_bytes"⟩
  if sql.length > maxSqlBytes then
    throw ⟨.sqlTooLarge,
      text "sql payload exceeds max size of " ++ Text.decimal maxSqlBytes ++ text " bytes"⟩
  let lexical ← lexicalSurface sql
  let upper := upperSurface lexical
  let decision := tk.evaluate sql
  if ¬ decision.allow then
    let code := scratchpadErrorCode tk decision.code
    let allowDuckdbPrefix :=
      code = .notReadOnlyPrefix ∧ duckdbAllowedPrefixes.any (startsWith upper)
    if ¬ allowDuckdbPrefix then throw ⟨code, scratchpadErrorMessage code⟩
  if containsForbiddenKeyword upper then
    throw ⟨.duckDbForbiddenKeyword,
      text "scratchpad policy rejected DuckDB extension/file keyword"⟩
  if containsForbiddenFunctionCall upper then
    throw ⟨.duckDbForbiddenFunction,
      text "scratchpad policy rejected DuckDB external scan/read function"⟩
  return ()

/-- The authority lets the text through, or refuses only its prefix, which DuckDB allows. -/
def Toolkit.admits (tk : Toolkit) (sql upper : List UInt8) : Bool :=
  (tk.evaluate sql).allow ||
    (scratchpadErrorCode tk (tk.evaluate sql).code = .notReadOnlyPrefix &&
      duckdbAllowedPrefixes.any (startsWith upper))

/-- An accepted text has a size in bounds, a surface, the authority's consent, and a
    surface in which the overlay finds nothing. -/
theorem validateScratchpadSql_ok_iff {tk : Toolkit} {sql : List UInt8} {maxSqlBytes : Nat} :
    validateScratchpadSql tk sql maxSqlBytes = .ok () ↔
      0 < maxSqlBytes ∧ sql.length ≤ maxSqlBytes ∧ ∃ lexical, lexicalSurface sql = .ok lexical ∧
        tk.admits sql (upperSurface lexical) ∧
        containsForbiddenKeyword (upperSurface lexical) = false ∧
        containsForbiddenFunctionCall (upperSurface lexical) = false := by
  unfold validateScratchpadSql Toolkit.admits
  cases lexicalSurface sql with
  | error e =>
      simp only [bind, Except.bind, throw, throwThe, MonadExceptOf.throw]
      grind
  | ok lexical =>
      simp only [bind, Except.bind, throw, throwThe, MonadExceptOf.throw, pure, Except.pure]
      grind

end Ga4Mcp.SqlSafety
