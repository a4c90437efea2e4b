/-
  The SQL wrapper of scratchpad pagination, of `src/tools.rs`.

  `ClauseKept`: the surface of a wrapped text still ends with the wrapper's own clause,
  and the parenthesis in front of it closes the one that the wrapper opened.
  `keepsClosingClause_iff`: that is so exactly for texts that end outside every comment
  and string and whose parentheses match.
-/
import Ga4Mcp.Lib.Brackets
import Ga4Mcp.SqlSafety.SurfaceRuns
import Ga4Mcp.Text

namespace Ga4Mcp.Tools

open Ga4Mcp.Lib Ga4Mcp.SqlSafety

/-! ## The wrapper -/

/-- The alias of a wrapped statement. -/
def scratchpadQueryAlias : Text := text "ga4_scratchpad_query"

/-- The loop of `trim_sql_for_subquery`; every round takes a character away. -/
def stripSemicolons : Nat → Text → Text
  | 0, trimmed => trimmed
  | fuel + 1, trimmed =>
      if trimmed.getLast? = some ';' then stripSemicolons fuel (Text.trimEnd trimmed.dropLast)
      else trimmed

def trimSqlForSubquery (sql : Text) : Text :=
  let trimmed := Text.trim sql
  stripSemicolons trimmed.length trimmed

/-- Whether a statement can be wrapped. -/
def supportsWrappedPagination (sql : Text) : Bool :=
  let upper := Text.toAsciiUppercase (trimSqlForSubquery sql)
  Text.startsWith upper (text "SELECT") || Text.startsWith upper (text "WITH")

/-- The statement that counts. -/
def wrapQueryForRowCount (sql : Text) : Text :=
  let inner := trimSqlForSubquery sql
  text "SELECT COUNT(*) AS row_count_total FROM (" ++ inner ++ text ") AS " ++
    scratchpadQueryAlias

/-- The statement of a page. -/
def wrapQueryForPage (sql : Text) (offset pageSize : Nat) : Text :=
  let inner := trimSqlForSubquery sql
  text "SELECT * FROM (" ++ inner ++ text ") AS " ++ scratchpadQueryAlias ++ text " LIMIT " ++
    Text.decimal pageSize ++ text " OFFSET " ++ Text.decimal offset

/-! ## The closing clause -/

/-- The text that the wrapper puts before the query, up to its parenthesis. -/
def countOpening : Text := text "SELECT COUNT(*) AS row_count_total FROM ("

/-- What stands before a statement in its page. -/
def pageOpening : Text := text "SELECT * FROM ("

/-- The text that it puts after the query. -/
def countClause : Text := text ") AS ga4_scratchpad_query"

/-- And what stands behind it. -/
def pageClause (offset pageSize : Nat) : Text :=
  text ") AS ga4_scratchpad_query LIMIT " ++ Text.decimal pageSize ++ text " OFFSET " ++
    Text.decimal offset

/-- The surface of `wrapped` begins with `opening` and ends with `clause`, both unmasked,
    and the parenthesis that ends `opening` is closed by the one that begins `clause`. -/
def ClauseKept (opening clause wrapped : List UInt8) : Prop :=
  ∃ out, lexicalSurface wrapped = .ok out ∧ opening <+: out ∧ clause <:+ out ∧
    closeIndex Byte.leftParen Byte.rightParen 0 (out.drop opening.length) =
      some (out.length - opening.length - clause.length)

/-- Both wrapped forms of the query keep their clause, for every page. -/
def KeepsClosingClause (sql : Text) : Prop :=
  (∀ offset pageSize, ClauseKept (Text.utf8 pageOpening)
    (Text.utf8 (pageClause offset pageSize)) (Text.utf8 (wrapQueryForPage sql offset pageSize))) ∧
  ClauseKept (Text.utf8 countOpening) (Text.utf8 countClause)
    (Text.utf8 (wrapQueryForRowCount sql))

/-- The scanner ends outside every token, and the parentheses of the surface match. -/
def ClosedText (inner : List UInt8) : Prop :=
  (surface.run Vars.start inner).2 = Vars.start ∧
    Balanced Byte.leftParen Byte.rightParen (surface.run Vars.start inner).1

instance (inner : List UInt8) : Decidable (ClosedText inner) :=
  inferInstanceAs (Decidable (_ ∧ _))

/-! ## One wrapped text -/

section Wrapped

variable {opening inner clause : List UInt8}

/-- The surface of a wrapped text: the opening, the surface of the query, and the clause
    from the state that the query leaves. -/
theorem run_wrapped (inner clause : List UInt8) (hopen : ∀ b ∈ opening, isInert b) :
    surface.run Vars.start (opening ++ (inner ++ Byte.rightParen :: clause)) =
      (opening ++ ((surface.run Vars.start inner).1 ++
          (surface.run (surface.run Vars.start inner).2 (Byte.rightParen :: clause)).1),
        (surface.run (surface.run Vars.start inner).2 (Byte.rightParen :: clause)).2) := by
  rw [run_inert hopen, run_append_paren _ _ _ start_sound]

theorem run_clause (hclause : ∀ b ∈ clause, isInert b) :
    surface.run Vars.start (Byte.rightParen :: clause) =
      (Byte.rightParen :: clause, Vars.start) := by
  have hinert : ∀ b ∈ Byte.rightParen :: clause, isInert b :=
    List.forall_mem_cons.mpr ⟨by decide, hclause⟩
  simpa using run_inert hinert []

/-- A clause that stands unmasked was reached outside every token. -/
theorem start_of_clause_shown {v : Vars} (hv : v.Sound)
    (h : (surface.run v (Byte.rightParen :: clause)).1 = Byte.rightParen :: clause) :
    v = Vars.start := by
  by_contra hne
  have hmask := surfaceStep_paren_masked hv hne clause
  rw [surface.run_cons, show (surface.step v Byte.rightParen clause).1 = _ from hmask] at h
  exact absurd (List.cons.inj h).1 (by decide)

theorem clauseKept_iff (hopen : ∀ b ∈ opening, isInert b) (hclause : ∀ b ∈ clause, isInert b) :
    ClauseKept opening (Byte.rightParen :: clause)
      (opening ++ (inner ++ Byte.rightParen :: clause)) ↔ ClosedText inner := by
  have hrun := run_wrapped inner clause hopen
  have hsound := surface.run_inv surfaceStep_sound Vars.start inner start_sound
  have hdiff : ∀ xs : List UInt8, (opening ++ (xs ++ Byte.rightParen :: clause)).length -
      opening.length - (Byte.rightParen :: clause).length = xs.length := by
    intro xs
    simp only [List.length_append]
    omega
  constructor
  · rintro ⟨out, hout, -, ⟨before, hsuffix⟩, hclose⟩
    obtain ⟨-, rfl⟩ := lexicalSurface_ok_iff.mp hout
    rw [hrun] at hsuffix hclose
    have hshown := (List.append_inj' (hsuffix.trans (List.append_assoc _ _ _).symm)
      (run_length _ _ hsound).symm).2
    have hstart := start_of_clause_shown hsound hshown.symm
    refine ⟨hstart, ?_⟩
    simp only [← hshown, List.drop_left, hdiff] at hclose
    exact (closeIndex_append_iff (by decide) _ _ _).mp hclose
  · rintro ⟨hstart, hbalanced⟩
    rw [hstart, run_clause hclause] at hrun
    refine ⟨_, lexicalSurface_ok_iff.mpr ⟨?_, congrArg Prod.fst hrun⟩, List.prefix_append _ _,
      ⟨_, List.append_assoc _ _ _⟩, ?_⟩
    · rw [hrun]
      rfl
    · rw [List.drop_left, hdiff]
      exact (closeIndex_append_iff (by decide) _ _ _).mpr hbalanced

end Wrapped

/-! ## Both forms -/

theorem inert_opening : (∀ b ∈ Text.utf8 pageOpening, isInert b) ∧
    ∀ b ∈ Text.utf8 countOpening, isInert b := by
  decide +kernel

theorem inert_decimal (n : Nat) : ∀ b ∈ Text.utf8 (Text.decimal n), isInert b := by
  intro b hb
  obtain ⟨c, hc, hb⟩ := List.mem_flatMap.mp hb
  have hdigit := Text.isDigit_of_mem_decimal hc
  refine Text.forall_char_lt (p := fun c => c.isDigit → ∀ b ∈ String.utf8EncodeChar c,
    isInert b) 58 ?_ c (Text.toNat_lt_of_isDigit hdigit) hdigit b hb
  decide +kernel

theorem inert_append {xs ys : List UInt8} (hx : ∀ b ∈ xs, isInert b) (hy : ∀ b ∈ ys, isInert b) :
    ∀ b ∈ xs ++ ys, isInert b := by
  intro b hb
  rcases List.mem_append.mp hb with hb | hb
  · exact hx b hb
  · exact hy b hb

/-- What follows the parenthesis in the clauses. -/
theorem countClause_utf8 : ∃ rest, Text.utf8 countClause = Byte.rightParen :: rest ∧
    ∀ b ∈ rest, isInert b :=
  ⟨(Text.utf8 countClause).tail, by decide +kernel, by decide +kernel⟩

theorem pageClause_utf8 (offset pageSize : Nat) :
    ∃ rest, Text.utf8 (pageClause offset pageSize) = Byte.rightParen :: rest ∧
      ∀ b ∈ rest, isInert b := by
  refine ⟨Text.utf8 (text " AS ga4_scratchpad_query LIMIT ") ++
    Text.utf8 (Text.decimal pageSize) ++ Text.utf8 (text " OFFSET ") ++
    Text.utf8 (Text.decimal offset), ?_, ?_⟩
  · simp only [pageClause, Text.utf8_append]
    rfl
  · refine inert_append (inert_append (inert_append ?_ (inert_decimal _)) ?_) (inert_decimal _)
    · decide +kernel
    · decide +kernel

/-- The page query keeps its clause exactly when the text inside is closed. -/
theorem pageKept_iff (sql : Text) (offset pageSize : Nat) :
    ClauseKept (Text.utf8 pageOpening) (Text.utf8 (pageClause offset pageSize))
      (Text.utf8 (wrapQueryForPage sql offset pageSize)) ↔
        ClosedText (Text.utf8 (trimSqlForSubquery sql)) := by
  obtain ⟨rest, heq, hrest⟩ := pageClause_utf8 offset pageSize
  have hwrap : wrapQueryForPage sql offset pageSize =
      pageOpening ++ (trimSqlForSubquery sql ++ pageClause offset pageSize) := by
    simp only [wrapQueryForPage, pageClause, pageOpening, List.append_assoc]
    rfl
  rw [hwrap, Text.utf8_append, Text.utf8_append, heq]
  exact clauseKept_iff inert_opening.1 hrest

/-- So does the count query. -/
theorem countKept_iff (sql : Text) :
    ClauseKept (Text.utf8 countOpening) (Text.utf8 countClause)
      (Text.utf8 (wrapQueryForRowCount sql)) ↔
        ClosedText (Text.utf8 (trimSqlForSubquery sql)) := by
  obtain ⟨rest, heq, hrest⟩ := countClause_utf8
  have hwrap : wrapQueryForRowCount sql =
      countOpening ++ (trimSqlForSubquery sql ++ countClause) := by
    simp only [wrapQueryForRowCount, countOpening, List.append_assoc]
    rfl
  rw [hwrap, Text.utf8_append, Text.utf8_append, heq]
  exact clauseKept_iff inert_opening.2 hrest

/-- **The wrapped forms keep their clause** exactly when the query, trimmed as the wrapper
    trims it, ends outside every comment and string, and its parentheses match. -/
theorem keepsClosingClause_iff (sql : Text) :
    KeepsClosingClause sql ↔ ClosedText (Text.utf8 (trimSqlForSubquery sql)) := by
  rw [KeepsClosingClause, countKept_iff]
  exact ⟨fun h => h.2, fun h => ⟨fun offset pageSize => (pageKept_iff _ _ _).mpr h, h⟩⟩

/-- Queries that the wrapper takes and whose surface is fine lose the clause: to a comment
    at the end of the text, and to parentheses of their own. -/
theorem not_keepsClosingClause :
    ((∃ out, lexicalSurface (Text.utf8 (text "SELECT 1 -- x")) = .ok out) ∧
      supportsWrappedPagination (text "SELECT 1 -- x") ∧
      ¬ KeepsClosingClause (text "SELECT 1 -- x")) ∧
    ((∃ out, lexicalSurface (Text.utf8 (text "SELECT 1) AS a, (SELECT 2")) = .ok out) ∧
      supportsWrappedPagination (text "SELECT 1) AS a, (SELECT 2") ∧
      ¬ KeepsClosingClause (text "SELECT 1) AS a, (SELECT 2")) := by
  have hlost : ∀ sql, ¬ ClosedText (Text.utf8 (trimSqlForSubquery sql)) →
      ¬ KeepsClosingClause sql :=
    fun sql hopen hkeeps => hopen ((countKept_iff sql).mp hkeeps.2)
  refine ⟨⟨⟨_, lexicalSurface_ok_iff.mpr ⟨?_, rfl⟩⟩, ?_, hlost _ ?_⟩,
    ⟨_, lexicalSurface_ok_iff.mpr ⟨?_, rfl⟩⟩, ?_, hlost _ ?_⟩
  all_goals decide +kernel

end Ga4Mcp.Tools
