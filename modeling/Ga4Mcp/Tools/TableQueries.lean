/-
  The queries about one table, of `src/tools.rs`: those of `scratchpad_describe_table` and
  `scratchpad_summarize_table`, and the samples of `scratchpad_export_evidence_bundle`.

  * `run_quoteSqlIdentifier`: the surface of a quoted name is blank.
  * `guardSql_tableQueries`: whatever the table is called, the overlay of the SQL policy lets
    the queries through, and the authority decides.
  * `supportsWrappedPagination_sampleSql`: and a sample is asked for by the page.
-/
import Ga4Mcp.Scratchpad.StatementTexts
import Ga4Mcp.Tools.ScratchpadQuery

namespace Ga4Mcp.Tools

open Ga4Mcp.Lib Ga4Mcp.SqlSafety Ga4Mcp.Scratchpad

/-! ## Texts -/

/-- The statement that describes a table. -/
def describeSql (tableName : Text) : Text :=
  text "DESCRIBE SELECT * FROM " ++ quoteSqlIdentifier tableName

/-- The statement that summarizes a table. -/
def summarizeSql (tableName : Text) : Text :=
  text "SUMMARIZE SELECT * FROM " ++ quoteSqlIdentifier tableName

/-- The statement that shows a table. -/
def sampleSql (tableName : Text) : Text := text "SELECT * FROM " ++ quoteSqlIdentifier tableName

/-- The arguments of the table tools. -/
structure ScratchpadTableHelperArgs extends TabularControls where
  sessionId : Text
  tableName : Text

/-- The common part of the two helpers. -/
def tableHelperQuery (helper : String) (sql : Text → Text) (args : ScratchpadTableHelperArgs) :
    Except AnalyticsError ScratchpadQuery := do
  let normalizedTableName ← normalizeTableIdentifier args.tableName
  return ⟨text helper, args.sessionId, sql normalizedTableName, args.toTabularControls,
    some (.ofFields [
      ("helper", .string (text helper)),
      ("table_name", .ofFields [
        ("requested", .string args.tableName),
        ("normalized", .string normalizedTableName)])])⟩

section Helpers

variable (hasher : Text → UInt64) (server : ScratchpadServer) (args : ScratchpadTableHelperArgs)

def scratchpadDescribeTable : Except AnalyticsError (Json × Json) := do
  let query ← tableHelperQuery "scratchpad_describe_table" describeSql args
  runScratchpadQueryContract hasher server query

def scratchpadSummarizeTable : Except AnalyticsError (Json × Json) := do
  let query ← tableHelperQuery "scratchpad_summarize_table" summarizeSql args
  runScratchpadQueryContract hasher server query

end Helpers

/-! ## The surface of a quoted name -/

theorem isWhitespace_maskHiddenByte : ∀ b, isWhitespace (maskHiddenByte b) = true :=
  forall_byte (by decide +kernel)

/-- Bytes that a surface is trimmed of. -/
def Blank (bytes : List UInt8) : Prop := ∀ b ∈ bytes, isWhitespace b = true

theorem Blank.append {xs ys : List UInt8} (hx : Blank xs) (hy : Blank ys) : Blank (xs ++ ys) := by
  intro b hb
  rcases List.mem_append.mp hb with hb | hb
  · exact hx b hb
  · exact hy b hb

theorem blank_space : Blank [Byte.space] := fun _ hb => List.mem_singleton.mp hb ▸ rfl

/-- Inside double quotes everything is blank, doubled quotes included. -/
theorem run_doubled {raw bytes : List UInt8} (h : Doubled Byte.doubleQuote raw bytes)
    (tail : List UInt8) :
    ∃ blanks, Blank blanks ∧ surface.run ⟨.doubleQuote, none⟩ (bytes ++ tail) =
      (blanks ++ (surface.run ⟨.doubleQuote, none⟩ tail).1,
        (surface.run ⟨.doubleQuote, none⟩ tail).2) := by
  induction h with
  | nil => exact ⟨[], List.forall_mem_nil _, rfl⟩
  | @quote raw bytes rest ih =>
      obtain ⟨blanks, hblanks, hrun⟩ := ih
      have hstep : surface.step ⟨.doubleQuote, none⟩ Byte.doubleQuote
          (Byte.doubleQuote :: (bytes ++ tail)) =
          ([Byte.space, Byte.space], ⟨.doubleQuote, none⟩, bytes ++ tail) := by
        simp [surface, surfaceStep, startsWith]
      refine ⟨[Byte.space] ++ ([Byte.space] ++ blanks),
        blank_space.append (blank_space.append hblanks), ?_⟩
      rw [List.cons_append, List.cons_append, surface.run_step hstep, hrun]
      rfl
  | @other b raw bytes ne rest ih =>
      obtain ⟨blanks, hblanks, hrun⟩ := ih
      have hstep : surface.step ⟨.doubleQuote, none⟩ b (bytes ++ tail) =
          ([maskHiddenByte b], ⟨.doubleQuote, none⟩, bytes ++ tail) := by
        simp [surface, surfaceStep, ne]
      have hmask : Blank [maskHiddenByte b] := fun _ hb =>
        List.mem_singleton.mp hb ▸ isWhitespace_maskHiddenByte b
      refine ⟨[maskHiddenByte b] ++ blanks, hmask.append hblanks, ?_⟩
      rw [List.cons_append, surface.run_step hstep, hrun, List.append_assoc]

theorem run_quoteSqlIdentifier (name : Text) :
    ∃ blanks, Blank blanks ∧ surface.run Vars.start (Text.utf8 (quoteSqlIdentifier name)) =
      (blanks, Vars.start) := by
  have hquote : Text.utf8 ['"'] = [Byte.doubleQuote] := by decide
  have hdoubled : Doubled Byte.doubleQuote (Text.utf8 name) (Text.utf8 (doubled '"' name)) :=
    doubled_utf8 (by decide) (by decide) (by decide) name
  obtain ⟨blanks, hblanks, hrun⟩ := run_doubled hdoubled [Byte.doubleQuote]
  have hopen : surface.step Vars.start Byte.doubleQuote
      (Text.utf8 (doubled '"' name) ++ [Byte.doubleQuote]) =
      ([Byte.space], ⟨.doubleQuote, none⟩,
        Text.utf8 (doubled '"' name) ++ [Byte.doubleQuote]) := rfl
  have hclose : surface.run ⟨.doubleQuote, none⟩ [Byte.doubleQuote] =
      ([Byte.space], Vars.start) := rfl
  refine ⟨[Byte.space] ++ (blanks ++ [Byte.space]),
    blank_space.append (hblanks.append blank_space), ?_⟩
  rw [quoteSqlIdentifier, Text.utf8_append, Text.utf8_append, hquote, List.append_assoc,
    List.singleton_append, surface.run_step hopen, hrun, hclose]

/-! ## The guard -/

/-- Text in which the overlay finds nothing to mask and nothing to refuse. -/
structure Harmless (fixed : List UInt8) : Prop where
  inert : ∀ b ∈ fixed, isInert b
  starts : ∀ b ∈ fixed.head?, isWhitespace b = false
  keyword : containsForbiddenKeyword (upperSurface fixed) = false
  call : containsForbiddenFunctionCall (upperSurface fixed) = false

theorem trimSurface_append_blank {xs blanks : List UInt8} (hblanks : Blank blanks)
    (h : ∀ b ∈ xs.head?, isWhitespace b = false) :
    trimSurface (xs ++ blanks) = trimSurface xs := by
  have hend : ∀ ys : List UInt8,
      (ys ++ blanks).rdropWhile isWhitespace = ys.rdropWhile isWhitespace := by
    intro ys
    induction blanks using List.reverseRecOn with
    | nil => rw [List.append_nil]
    | append_singleton blanks b ih =>
        rw [← List.append_assoc, List.rdropWhile_concat_pos _ _ _ (hblanks b (by simp))]
        exact ih fun c hc => hblanks c (List.mem_append_left _ hc)
  cases xs with
  | nil =>
      have hnil : blanks.dropWhile isWhitespace = [] := List.dropWhile_eq_nil_iff.mpr hblanks
      rw [List.nil_append, trimSurface, hnil]
      rfl
  | cons b xs =>
      have hb : ¬ isWhitespace b = true := by simp [h b rfl]
      rw [trimSurface, trimSurface, List.cons_append, List.dropWhile_cons_of_neg hb,
        List.dropWhile_cons_of_neg hb, ← List.cons_append, hend]

/-- **A query about a named table** passes, whatever the name is, if the authority lets it. -/
theorem Harmless.validate_iff {fixed : Text} (h : Harmless (Text.utf8 fixed)) (name : Text)
    (toolkit : Toolkit) (maxSqlBytes : Nat) :
    validateScratchpadSql toolkit (Text.utf8 (fixed ++ quoteSqlIdentifier name)) maxSqlBytes =
      .ok () ↔ 0 < maxSqlBytes ∧ Text.len (fixed ++ quoteSqlIdentifier name) ≤ maxSqlBytes ∧
        toolkit.admits (Text.utf8 (fixed ++ quoteSqlIdentifier name))
          (upperSurface (Text.utf8 fixed)) = true := by
  obtain ⟨blanks, hblanks, hrun⟩ := run_quoteSqlIdentifier name
  have hsurface : lexicalSurface (Text.utf8 (fixed ++ quoteSqlIdentifier name)) =
      .ok (Text.utf8 fixed ++ blanks) := by
    rw [Text.utf8_append, lexicalSurface_ok_iff, run_inert h.inert, hrun]
    exact ⟨rfl, rfl⟩
  have hupper : upperSurface (Text.utf8 fixed ++ blanks) = upperSurface (Text.utf8 fixed) := by
    rw [upperSurface, upperSurface, trimSurface_append_blank hblanks h.starts]
  rw [validateScratchpadSql_ok_iff, hsurface]
  constructor
  · rintro ⟨hpos, hsize, lexical, heq, hadmits, -⟩
    cases heq
    rw [hupper] at hadmits
    exact ⟨hpos, hsize, hadmits⟩
  · rintro ⟨hpos, hsize, hadmits⟩
    refine ⟨hpos, hsize, _, rfl, ?_⟩
    rw [hupper]
    exact ⟨hadmits, h.keyword, h.call⟩

theorem harmless_describe : Harmless (Text.utf8 (text "DESCRIBE SELECT * FROM ")) :=
  ⟨by decide +kernel, by decide +kernel, by decide +kernel, by decide +kernel⟩

theorem harmless_summarize : Harmless (Text.utf8 (text "SUMMARIZE SELECT * FROM ")) :=
  ⟨by decide +kernel, by decide +kernel, by decide +kernel, by decide +kernel⟩

theorem harmless_sample : Harmless (Text.utf8 (text "SELECT * FROM ")) :=
  ⟨by decide +kernel, by decide +kernel, by decide +kernel, by decide +kernel⟩

theorem guardSql_eq_ok {config : ScratchpadSessionConfig} {sql : List UInt8} {toolkit : Toolkit} :
    guardSql config sql toolkit = .ok () ↔
      validateScratchpadSql toolkit sql config.maxSqlBytes = .ok () := by
  unfold guardSql
  cases validateScratchpadSql toolkit sql config.maxSqlBytes with
  | error err => simp
  | ok u => simp

/-- The policy takes texts of this size. -/
def TakesSize (config : ScratchpadSessionConfig) (sql : Text) : Prop :=
  0 < config.maxSqlBytes ∧ Text.len sql ≤ config.maxSqlBytes

/-- The authority lets a text through. -/
def Authorized (toolkit : Toolkit) (sql : Text) : Prop :=
  (toolkit.evaluate (Text.utf8 sql)).allow = true

/-- Or it has nothing against it but its first word. -/
def AuthorizedButPrefix (toolkit : Toolkit) (sql : Text) : Prop :=
  Authorized toolkit sql ∨
    scratchpadErrorCode toolkit (toolkit.evaluate (Text.utf8 sql)).code = .notReadOnlyPrefix

theorem guardSql_sampleSql {config : ScratchpadSessionConfig} {toolkit : Toolkit}
    {tableName : Text} : guardSql config (Text.utf8 (sampleSql tableName)) toolkit = .ok () ↔
      TakesSize config (sampleSql tableName) ∧
        Authorized toolkit (sampleSql tableName) := by
  have hbegins : duckdbAllowedPrefixes.any
      (startsWith (upperSurface (Text.utf8 (text "SELECT * FROM ")))) = false := by
    decide +kernel
  rw [guardSql_eq_ok, sampleSql, harmless_sample.validate_iff, Toolkit.admits, hbegins,
    Bool.and_false, Bool.or_false, ← and_assoc]
  rfl

theorem guardSql_helper {fixed tableName : Text} (h : Harmless (Text.utf8 fixed))
    (hbegins : duckdbAllowedPrefixes.any (startsWith (upperSurface (Text.utf8 fixed))) = true)
    {config : ScratchpadSessionConfig} {toolkit : Toolkit} :
    guardSql config (Text.utf8 (fixed ++ quoteSqlIdentifier tableName)) toolkit = .ok () ↔
      TakesSize config (fixed ++ quoteSqlIdentifier tableName) ∧
        AuthorizedButPrefix toolkit (fixed ++ quoteSqlIdentifier tableName) := by
  rw [guardSql_eq_ok, h.validate_iff, Toolkit.admits, hbegins, Bool.and_true, Bool.or_eq_true,
    decide_eq_true_eq, ← and_assoc]
  rfl

/-- **The queries about a table** pass the guard for every name, if the authority takes them:
    no name has them refused as one of DuckDB's keywords or readers. -/
theorem guardSql_tableQueries (config : ScratchpadSessionConfig) (toolkit : Toolkit)
    (tableName : Text) :
    (guardSql config (Text.utf8 (describeSql tableName)) toolkit = .ok () ↔
      TakesSize config (describeSql tableName) ∧
        AuthorizedButPrefix toolkit (describeSql tableName)) ∧
    (guardSql config (Text.utf8 (summarizeSql tableName)) toolkit = .ok () ↔
      TakesSize config (summarizeSql tableName) ∧
        AuthorizedButPrefix toolkit (summarizeSql tableName)) ∧
    (guardSql config (Text.utf8 (sampleSql tableName)) toolkit = .ok () ↔
      TakesSize config (sampleSql tableName) ∧
        Authorized toolkit (sampleSql tableName)) :=
  ⟨guardSql_helper harmless_describe (by decide +kernel),
    guardSql_helper harmless_summarize (by decide +kernel), guardSql_sampleSql⟩

/-! ## Samples -/

/-- The wrapper takes nothing from a text that ends with a quoted name. -/
theorem trimSqlForSubquery_sampleSql (tableName : Text) :
    trimSqlForSubquery (sampleSql tableName) = sampleSql tableName := by
  have htext : sampleSql tableName =
      'S' :: (text "ELECT * FROM \"" ++ doubled '"' tableName ++ ['"']) := by
    simp only [sampleSql, quoteSqlIdentifier, text]
    rfl
  have htrim : Text.trim (sampleSql tableName) = sampleSql tableName := by
    rw [htext]
    exact Text.trim_cons_concat (by decide) (by decide) _
  have hlast : (sampleSql tableName).getLast? = some '"' := by
    rw [htext, ← List.cons_append, List.getLast?_concat]
  rw [trimSqlForSubquery, htrim]
  cases (sampleSql tableName).length with
  | zero => rfl
  | succ fuel =>
      rw [stripSemicolons, hlast]
      exact if_neg (by decide)

theorem supportsWrappedPagination_sampleSql (tableName : Text) :
    supportsWrappedPagination (sampleSql tableName) = true := by
  rw [supportsWrappedPagination, trimSqlForSubquery_sampleSql, sampleSql]
  rfl

end Ga4Mcp.Tools
