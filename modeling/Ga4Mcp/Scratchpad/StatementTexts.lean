/-
  The texts that `src/scratchpad.rs` sends to the database of a session, and how DuckDB reads
  them: `create_table_sql`, `insert_sql`, and the texts of `table_row_count`, `drop_table` and
  `validate_append_target_columns`.

  * `readStatement`: what a text says, by its tokens.
  * `readStatement_sql`: a statement is read as what it was made from, whatever the names hold.
-/
import Ga4Mcp.Scratchpad.System
import Ga4Mcp.SqlSafety.DuckTokens
import Ga4Mcp.Tools.ReleaseSql

namespace Ga4Mcp.Scratchpad

open Ga4Mcp.Lib Ga4Mcp.SqlSafety Ga4Mcp.Tools

/-! ## Texts -/

def quoteIdent (identifier : Text) : Text := ['"'] ++ doubled '"' identifier ++ ['"']

/-- A column with its type. -/
def columnDef (column : ScratchpadIngestColumn) : Text :=
  quoteIdent column.name ++ text " " ++ logicalTypeToDuckdbType column.logicalType

/-- The statement that creates a table. -/
def createTableSql (tableName : Text) (columns : List ScratchpadIngestColumn) : Text :=
  text "CREATE TABLE " ++ quoteIdent tableName ++ text " (" ++
    (text ", ").intercalate (columns.map columnDef) ++ text ")"

/-- The statement that inserts a row, with a hole for each value. -/
def insertSql (tableName : Text) (columns : List ScratchpadIngestColumn) : Text :=
  text "INSERT INTO " ++ quoteIdent tableName ++ text " (" ++
    (text ", ").intercalate (columns.map fun column => quoteIdent column.name) ++
    text ") VALUES (" ++ (text ", ").intercalate (columns.map fun _ => text "?") ++ text ")"

/-- The statement that counts the rows of a table. -/
def rowCountSql (tableName : Text) : Text := text "SELECT COUNT(*) FROM " ++ quoteIdent tableName

/-- The statement that drops a table. -/
def dropTableSql (tableName : Text) : Text := text "DROP TABLE " ++ quoteIdent tableName

/-- The only text with a name that is not escaped. -/
def tableInfoSql (tableName : Text) : Text :=
  text "PRAGMA table_info('" ++ tableName ++ text "')"

/-- The statements that the session manager writes. -/
inductive Statement where
  | createTable (tableName : Text) (columns : List ScratchpadIngestColumn)
  | insert (tableName : Text) (columns : List ScratchpadIngestColumn)
  | rowCount (tableName : Text)
  | dropTable (tableName : Text)
  | tableInfo (tableName : Text)

/-- Their texts. -/
def Statement.sql : Statement → Text
  | createTable tableName columns => createTableSql tableName columns
  | insert tableName columns => insertSql tableName columns
  | rowCount tableName => rowCountSql tableName
  | dropTable tableName => dropTableSql tableName
  | tableInfo tableName => tableInfoSql tableName

/-- The checks that come before: an ingest has columns, and `table_info` is for a name that
    `validate_sql_identifier` has passed. -/
def Statement.Checked : Statement → Prop
  | createTable _ columns => columns ≠ []
  | insert _ columns => columns ≠ []
  | tableInfo tableName => validateSqlIdentifier tableName (text "table_name") = .ok ()
  | _ => True

/-! ## What a text says -/

/-- A statement as it is read. Names and types are in bytes. -/
inductive Reading where
  | createTable (table : List UInt8) (columns : List (List UInt8 × List UInt8))
  | insert (table : List UInt8) (columns : List (List UInt8)) (values : Nat)
  | rowCount (table : List UInt8)
  | dropTable (table : List UInt8)
  | tableInfo (table : List UInt8)
deriving DecidableEq, Repr

namespace Symbol

abbrev comma : DuckToken := .symbol 0x2C
abbrev leftParen : DuckToken := .symbol Byte.leftParen
abbrev rightParen : DuckToken := .symbol Byte.rightParen
abbrev star : DuckToken := .symbol Byte.star
abbrev hole : DuckToken := .symbol 0x3F

end Symbol

/-- A word of the statements, in upper case. -/
def word (s : String) : DuckToken := .word (ascii s)

/-- The tokens behind the first ones. -/
def afterTokens (first read : List DuckToken) : Option (List DuckToken) :=
  if first.isPrefixOf read then some (read.drop first.length) else none

/-- `"name" TYPE`, again and again, and the closing parenthesis. -/
def readDefs : List DuckToken → Option (List (List UInt8 × List UInt8))
  | .name name :: .word type :: mark :: rest =>
      if mark = Symbol.comma then (readDefs rest).map ((name, type) :: ·)
      else if mark = Symbol.rightParen ∧ rest = [] then some [(name, type)]
      else none
  | _ => none

/-- Names up to a closing parenthesis, and what comes behind it. -/
def readNames : List DuckToken → Option (List (List UInt8) × List DuckToken)
  | .name name :: mark :: rest =>
      if mark = Symbol.comma then (readNames rest).map fun x => (name :: x.1, x.2)
      else if mark = Symbol.rightParen then some ([name], rest)
      else none
  | _ => none

/-- The number of `?` up to the closing parenthesis. -/
def readHoles : List DuckToken → Option Nat
  | hole :: mark :: rest =>
      if hole ≠ Symbol.hole then none
      else if mark = Symbol.comma then (readHoles rest).map (· + 1)
      else if mark = Symbol.rightParen ∧ rest = [] then some 1
      else none
  | _ => none

/-- A CREATE TABLE statement, read back. -/
def readCreateTable (read : List DuckToken) : Option Reading := do
  match ← afterTokens [word "CREATE", word "TABLE"] read with
  | .name table :: rest => return .createTable table (← readDefs (← afterTokens [Symbol.leftParen] rest))
  | _ => none

/-- An INSERT statement, read back. -/
def readInsert (read : List DuckToken) : Option Reading := do
  match ← afterTokens [word "INSERT", word "INTO"] read with
  | .name table :: rest =>
      let columns ← readNames (← afterTokens [Symbol.leftParen] rest)
      let values ← readHoles (← afterTokens [word "VALUES", Symbol.leftParen] columns.2)
      return .insert table columns.1 values
  | _ => none

/-- A count of rows, read back. -/
def readRowCount (read : List DuckToken) : Option Reading := do
  match ← afterTokens [word "SELECT", word "COUNT", Symbol.leftParen, Symbol.star,
      Symbol.rightParen, word "FROM"] read with
  | [.name table] => return .rowCount table
  | _ => none

/-- A DROP TABLE statement, read back. -/
def readDropTable (read : List DuckToken) : Option Reading := do
  match ← afterTokens [word "DROP", word "TABLE"] read with
  | [.name table] => return .dropTable table
  | _ => none

/-- A `table_info` pragma, read back. -/
def readTableInfo (read : List DuckToken) : Option Reading := do
  match ← afterTokens [word "PRAGMA", word "TABLE_INFO", Symbol.leftParen] read with
  | [.string table, mark] => if mark = Symbol.rightParen then return .tableInfo table else none
  | _ => none

/-- One of them. -/
def readStatement (sql : List UInt8) : Option Reading :=
  let read := tokens sql
  readCreateTable read <|> readInsert read <|> readRowCount read <|> readDropTable read <|>
    readTableInfo read

/-- What a statement is about. -/
def Statement.reading : Statement → Reading
  | createTable tableName columns => .createTable (Text.utf8 tableName) (columns.map fun column =>
      (Text.utf8 column.name, Text.utf8 (logicalTypeToDuckdbType column.logicalType)))
  | insert tableName columns => .insert (Text.utf8 tableName)
      (columns.map fun column => Text.utf8 column.name) columns.length
  | rowCount tableName => .rowCount (Text.utf8 tableName)
  | dropTable tableName => .dropTable (Text.utf8 tableName)
  | tableInfo tableName => .tableInfo (Text.utf8 tableName)

/-! ## Names in the texts -/

theorem doubled_utf8 {c : Char} {q : UInt8} (hascii : c.toNat < 128)
    (hbyte : UInt8.ofNat c.toNat = q) (hencode : String.utf8EncodeChar c = [q]) (raw : Text) :
    Doubled q (Text.utf8 raw) (Text.utf8 (doubled c raw)) := by
  induction raw with
  | nil => exact .nil
  | cons d raw ih =>
      have hraw : Text.utf8 (d :: raw) = String.utf8EncodeChar d ++ Text.utf8 raw :=
        List.flatMap_cons
      have hdoubled : Text.utf8 (doubled c (d :: raw)) =
          Text.utf8 (if d = c then [c, c] else [d]) ++ Text.utf8 (doubled c raw) := by
        rw [doubled, List.flatMap_cons, Text.utf8_append, ← doubled]
      rw [hraw, hdoubled]
      by_cases hd : d = c
      · subst hd
        have hpair : Text.utf8 [d, d] = [q, q] := by
          rw [Text.utf8, List.flatMap_cons, List.flatMap_singleton, hencode]
          rfl
        rw [if_pos rfl, hencode, hpair]
        exact .quote ih
      · have hone : Text.utf8 [d] = String.utf8EncodeChar d := List.flatMap_singleton ..
        rw [if_neg hd, hone]
        refine Doubled.append (.of_notMem fun hmem => hd ?_) ih
        exact (Text.eq_of_mem_utf8EncodeChar hascii (hbyte ▸ hmem))

/-- A name is read back, before anything that does not go on with it. -/
theorem tokens_quoteIdent (name : Text) {tail : List UInt8}
    (htail : tail.head?.all isPlain = true) :
    tokens (Text.utf8 (quoteIdent name) ++ tail) = .name (Text.utf8 name) :: tokens tail := by
  have hquote : Text.utf8 ['"'] = [Byte.doubleQuote] := by decide
  rw [quoteIdent, Text.utf8_append, Text.utf8_append, hquote, List.append_assoc, List.append_assoc]
  exact tokens_name (doubled_utf8 (by decide) (by decide) (by decide) name) htail

/-- A name that has passed its check has no quote in it. -/
theorem quote_notMem_of_validate {name field : Text} (h : validateSqlIdentifier name field = .ok ()) :
    '\'' ∉ name := by
  intro hmem
  have htrim : '\'' ∈ Text.trim name := Text.mem_trim hmem (by decide)
  unfold validateSqlIdentifier at h
  split at h
  · cases h
  · next first rest heq =>
      rw [heq] at htrim
      split at h
      · cases h
      · next hfirst =>
          split at h
          · cases h
          · next hrest =>
              rcases List.mem_cons.mp htrim with hhead | hin
              · exact hfirst (hhead ▸ by decide)
              · have hall := List.all_eq_true.mp (not_not.mp hrest) _ hin
                exact absurd hall (by decide)

/-! ## Reading back -/

theorem afterTokens_append (first rest : List DuckToken) :
    afterTokens first (first ++ rest) = some rest := by
  rw [afterTokens, if_pos (by simp), List.drop_left]

/-- The types that `logical_type_to_duckdb_type` answers. -/
def storageTypes : List Text :=
  ["BIGINT", "DOUBLE", "BOOLEAN", "DATE", "TIMESTAMP", "TEXT"].map text

theorem logicalTypeToDuckdbType_mem (logicalType : Text) :
    logicalTypeToDuckdbType logicalType ∈ storageTypes := by
  unfold logicalTypeToDuckdbType
  repeat' split
  all_goals decide

/-- Fixed text, with the tokens that it is read as. -/
structure Fixed (t : Text) (read : List DuckToken) : Prop where
  isFixed : isFixed (Text.utf8 t) = true
  tokens : tokens (Text.utf8 t) = read

theorem Fixed.read {t : Text} {read : List DuckToken} (h : Fixed t read) (rest : Text) :
    SqlSafety.tokens (Text.utf8 (t ++ rest)) = read ++ SqlSafety.tokens (Text.utf8 rest) := by
  rw [Text.utf8_append, tokens_fixed h.isFixed, h.tokens]

theorem quoteIdent_read (name : Text) {c : Char} (rest : Text)
    (hc : (String.utf8EncodeChar c).head?.all isPlain = true) :
    tokens (Text.utf8 (quoteIdent name ++ c :: rest)) =
      .name (Text.utf8 name) :: tokens (Text.utf8 (c :: rest)) := by
  rw [Text.utf8_append, tokens_quoteIdent name]
  rw [Text.utf8, List.flatMap_cons, List.head?_append]
  cases hchar : String.utf8EncodeChar c with
  | nil => exact absurd hchar String.utf8EncodeChar_ne_nil
  | cons first more => simpa [hchar] using hc

/-- A type is one word, before a comma and before a parenthesis. -/
theorem storageType_read : ∀ type ∈ storageTypes,
    (isFixed (Text.utf8 (' ' :: (type ++ text ", "))) = true ∧
      tokens (Text.utf8 (' ' :: (type ++ text ", "))) = [.word (Text.utf8 type), Symbol.comma]) ∧
    tokens (Text.utf8 (' ' :: (type ++ text ")"))) =
        [.word (Text.utf8 type), Symbol.rightParen] := by
  decide +kernel

theorem readDefs_columns {columns : List ScratchpadIngestColumn} (h : columns ≠ []) :
    readDefs (tokens (Text.utf8 ((text ", ").intercalate (columns.map columnDef) ++ text ")"))) =
      some (columns.map fun column =>
        (Text.utf8 column.name, Text.utf8 (logicalTypeToDuckdbType column.logicalType))) := by
  have hspace : text " " = [' '] := rfl
  induction columns with
  | nil => exact absurd rfl h
  | cons column columns ih =>
      obtain ⟨⟨hfixed, hcomma⟩, hclose⟩ :=
        storageType_read _ (logicalTypeToDuckdbType_mem column.logicalType)
      cases columns with
      | nil =>
          have htext : (text ", ").intercalate ([column].map columnDef) ++ text ")" =
              quoteIdent column.name ++
                ' ' :: (logicalTypeToDuckdbType column.logicalType ++ text ")") := by
            simp [columnDef, hspace]
          rw [htext, quoteIdent_read _ _ rfl, hclose]
          rfl
      | cons next columns =>
          have htext : (text ", ").intercalate ((column :: next :: columns).map columnDef) ++
              text ")" = quoteIdent column.name ++
                ' ' :: (logicalTypeToDuckdbType column.logicalType ++ text ", " ++
                  ((text ", ").intercalate ((next :: columns).map columnDef) ++ text ")")) := by
            simp [columnDef, hspace]
          have hdef := Fixed.read ⟨hfixed, hcomma⟩
            ((text ", ").intercalate ((next :: columns).map columnDef) ++ text ")")
          rw [List.cons_append] at hdef
          have hmore := ih (List.cons_ne_nil _ _)
          rw [htext, quoteIdent_read _ _ rfl, hdef, List.cons_append, List.cons_append,
            List.nil_append, readDefs, if_pos rfl, hmore]
          rfl

theorem fixed_comma : Fixed (text ", ") [Symbol.comma] := ⟨by decide +kernel, by decide +kernel⟩

theorem fixed_values :
    Fixed (text ") VALUES (") [Symbol.rightParen, word "VALUES", Symbol.leftParen] :=
  ⟨by decide +kernel, by decide +kernel⟩

theorem readNames_columns {columns : List ScratchpadIngestColumn} (h : columns ≠ []) (rest : Text) :
    readNames (tokens (Text.utf8 ((text ", ").intercalate
        (columns.map fun column => quoteIdent column.name) ++ (text ") VALUES (" ++ rest)))) =
      some (columns.map fun column => Text.utf8 column.name,
        [word "VALUES", Symbol.leftParen] ++ tokens (Text.utf8 rest)) := by
  induction columns with
  | nil => exact absurd rfl h
  | cons column columns ih =>
      cases columns with
      | nil =>
          have htext : (text ", ").intercalate ([column].map fun column => quoteIdent column.name) ++
              (text ") VALUES (" ++ rest) = quoteIdent column.name ++ (text ") VALUES (" ++ rest) := by
            simp
          have hread : tokens (Text.utf8 (quoteIdent column.name ++ (text ") VALUES (" ++ rest))) =
              .name (Text.utf8 column.name) :: tokens (Text.utf8 (text ") VALUES (" ++ rest)) :=
            quoteIdent_read _ _ rfl
          rw [htext, hread, fixed_values.read]
          rfl
      | cons next columns =>
          have hmore := ih (List.cons_ne_nil _ _)
          generalize hnames : (text ", ").intercalate
            ((next :: columns).map fun column => quoteIdent column.name) = names at hmore
          have htext : (text ", ").intercalate
              ((column :: next :: columns).map fun column => quoteIdent column.name) ++
                (text ") VALUES (" ++ rest) =
              quoteIdent column.name ++ (text ", " ++ (names ++ (text ") VALUES (" ++ rest))) := by
            rw [← hnames]
            simp
          have hread : tokens (Text.utf8 (quoteIdent column.name ++
              (text ", " ++ (names ++ (text ") VALUES (" ++ rest))))) =
              .name (Text.utf8 column.name) ::
                tokens (Text.utf8 (text ", " ++ (names ++ (text ") VALUES (" ++ rest)))) :=
            quoteIdent_read _ _ rfl
          rw [htext, hread, fixed_comma.read, List.cons_append, List.nil_append, readNames,
            if_pos rfl, hmore]
          rfl

theorem fixed_hole : Fixed (text "?, ") [Symbol.hole, Symbol.comma] :=
  ⟨by decide +kernel, by decide +kernel⟩

theorem readHoles_columns {columns : List ScratchpadIngestColumn} (h : columns ≠ []) :
    readHoles (tokens (Text.utf8 ((text ", ").intercalate (columns.map fun _ => text "?") ++
      text ")"))) = some columns.length := by
  induction columns with
  | nil => exact absurd rfl h
  | cons column columns ih =>
      cases columns with
      | nil =>
          have hread : tokens (Text.utf8 (text "?" ++ text ")")) = [Symbol.hole, Symbol.rightParen] := by
            decide +kernel
          have htext : (text ", ").intercalate ([column].map fun _ => text "?") ++ text ")" =
              text "?" ++ text ")" := by simp
          rw [htext, hread]
          rfl
      | cons next columns =>
          have hmore := ih (List.cons_ne_nil _ _)
          generalize hholes : (text ", ").intercalate ((next :: columns).map fun _ => text "?") =
            holes at hmore
          have hjoin : text "?, " = text "?" ++ text ", " := by decide
          have htext : (text ", ").intercalate ((column :: next :: columns).map fun _ => text "?") ++
              text ")" = text "?, " ++ (holes ++ text ")") := by
            rw [← hholes, hjoin]
            simp
          rw [htext, fixed_hole.read, List.cons_append, List.cons_append, List.nil_append, readHoles,
            if_neg (not_not.mpr rfl), if_pos rfl, hmore]
          rfl

theorem afterTokens_ne {a b : DuckToken} (h : a ≠ b) (first rest : List DuckToken) :
    afterTokens (a :: first) (b :: rest) = none := by
  simp [afterTokens, List.isPrefixOf, h]

theorem tokens_createTableSql (tableName : Text) (columns : List ScratchpadIngestColumn) :
    tokens (Text.utf8 (createTableSql tableName columns)) =
      [word "CREATE", word "TABLE"] ++ .name (Text.utf8 tableName) :: ([Symbol.leftParen] ++
        tokens (Text.utf8 ((text ", ").intercalate (columns.map columnDef) ++ text ")"))) := by
  have hcreate : Fixed (text "CREATE TABLE ") [word "CREATE", word "TABLE"] :=
    ⟨by decide +kernel, by decide +kernel⟩
  have hopen : Fixed (text " (") [Symbol.leftParen] := ⟨by decide +kernel, by decide +kernel⟩
  simp only [createTableSql, List.append_assoc]
  rw [hcreate.read, ← hopen.read]
  exact congrArg _ (quoteIdent_read _ _ rfl)

theorem tokens_insertSql {tableName : Text} {columns : List ScratchpadIngestColumn} :
    tokens (Text.utf8 (insertSql tableName columns)) =
      [word "INSERT", word "INTO"] ++ .name (Text.utf8 tableName) :: ([Symbol.leftParen] ++
        tokens (Text.utf8 ((text ", ").intercalate
          (columns.map fun column => quoteIdent column.name) ++ (text ") VALUES (" ++
            ((text ", ").intercalate (columns.map fun _ => text "?") ++ text ")"))))) := by
  have hinsert : Fixed (text "INSERT INTO ") [word "INSERT", word "INTO"] :=
    ⟨by decide +kernel, by decide +kernel⟩
  have hopen : Fixed (text " (") [Symbol.leftParen] := ⟨by decide +kernel, by decide +kernel⟩
  simp only [insertSql, List.append_assoc]
  rw [hinsert.read, ← hopen.read]
  exact congrArg _ (quoteIdent_read _ _ rfl)

/-- A name at the end of a text. -/
theorem tokens_last {t : Text} {first : List DuckToken} (h : Fixed t first) (name : Text) :
    tokens (Text.utf8 (t ++ quoteIdent name)) = first ++ [.name (Text.utf8 name)] := by
  rw [h.read]
  have hread := @tokens_quoteIdent name [] rfl
  rw [List.append_nil] at hread
  exact congrArg _ hread

theorem tokens_tableInfoSql {tableName : Text} (h : '\'' ∉ tableName) :
    tokens (Text.utf8 (tableInfoSql tableName)) =
      [word "PRAGMA", word "TABLE_INFO", Symbol.leftParen] ++
        [.string (Text.utf8 tableName), Symbol.rightParen] := by
  have hpragma : Fixed (text "PRAGMA table_info(")
      [word "PRAGMA", word "TABLE_INFO", Symbol.leftParen] := ⟨by decide +kernel, by decide +kernel⟩
  have hopen : text "PRAGMA table_info('" = text "PRAGMA table_info(" ++ ['\''] := by decide
  have hclose : Text.utf8 (text "')") = [Byte.quote, Byte.rightParen] := by decide
  have hquote : Text.utf8 ['\''] = [Byte.quote] := by decide
  have hraw : Doubled Byte.quote (Text.utf8 tableName) (Text.utf8 tableName) := by
    have hdoubled : Doubled Byte.quote (Text.utf8 tableName) (Text.utf8 (doubled '\'' tableName)) :=
      doubled_utf8 (by decide) (by decide) (by decide) tableName
    rwa [doubled_of_notMem h] at hdoubled
  simp only [tableInfoSql, hopen, List.append_assoc]
  rw [hpragma.read, Text.utf8_append, Text.utf8_append, hquote, hclose]
  exact congrArg _ (tokens_string hraw rfl)

/-! A statement of one kind is not read as one of another kind. -/

theorem readCreateTable_ne {w : DuckToken} (h : word "CREATE" ≠ w) (rest : List DuckToken) :
    readCreateTable (w :: rest) = none := by
  rw [readCreateTable, afterTokens_ne h]
  rfl

theorem readInsert_ne {w : DuckToken} (h : word "INSERT" ≠ w) (rest : List DuckToken) :
    readInsert (w :: rest) = none := by
  rw [readInsert, afterTokens_ne h]
  rfl

theorem readRowCount_ne {w : DuckToken} (h : word "SELECT" ≠ w) (rest : List DuckToken) :
    readRowCount (w :: rest) = none := by
  rw [readRowCount, afterTokens_ne h]
  rfl

theorem readDropTable_ne {w : DuckToken} (h : word "DROP" ≠ w) (rest : List DuckToken) :
    readDropTable (w :: rest) = none := by
  rw [readDropTable, afterTokens_ne h]
  rfl

/-- **A statement is read as what it was made from**, whatever the names hold: quotes, comment
    signs, line feeds, dollars. -/
theorem readStatement_sql (stmt : Statement) (h : stmt.Checked) :
    readStatement (Text.utf8 stmt.sql) = some stmt.reading := by
  unfold readStatement
  cases stmt with
  | createTable tableName columns =>
      have hread : readCreateTable (tokens (Text.utf8 (createTableSql tableName columns))) =
          some (Statement.createTable tableName columns).reading := by
        simp only [tokens_createTableSql, readCreateTable, afterTokens_append, Option.bind_eq_bind,
          Option.bind_some, readDefs_columns h]
        rfl
      simp only [Statement.sql, hread]
      rfl
  | insert tableName columns =>
      have hread : readInsert (tokens (Text.utf8 (insertSql tableName columns))) =
          some (Statement.insert tableName columns).reading := by
        simp only [tokens_insertSql, readInsert, afterTokens_append, Option.bind_eq_bind,
          Option.bind_some, readNames_columns h, readHoles_columns h]
        rfl
      simp only [Statement.sql, hread]
      -- the readers before it stop at the first word
      rw [tokens_insertSql, List.cons_append, readCreateTable_ne (by decide)]
      rfl
  | rowCount tableName =>
      have hfixed : Fixed (text "SELECT COUNT(*) FROM ") [word "SELECT", word "COUNT",
          Symbol.leftParen, Symbol.star, Symbol.rightParen, word "FROM"] :=
        ⟨by decide +kernel, by decide +kernel⟩
      have htokens := tokens_last hfixed tableName
      have hread : readRowCount (tokens (Text.utf8 (rowCountSql tableName))) =
          some (Statement.rowCount tableName).reading := by
        rw [rowCountSql, htokens, readRowCount, afterTokens_append]
        rfl
      simp only [Statement.sql, hread]
      rw [rowCountSql, htokens, List.cons_append, readCreateTable_ne (by decide),
        readInsert_ne (by decide)]
      rfl
  | dropTable tableName =>
      have hfixed : Fixed (text "DROP TABLE ") [word "DROP", word "TABLE"] :=
        ⟨by decide +kernel, by decide +kernel⟩
      have htokens := tokens_last hfixed tableName
      have hread : readDropTable (tokens (Text.utf8 (dropTableSql tableName))) =
          some (Statement.dropTable tableName).reading := by
        rw [dropTableSql, htokens, readDropTable, afterTokens_append]
        rfl
      simp only [Statement.sql, hread]
      rw [dropTableSql, htokens, List.cons_append, readCreateTable_ne (by decide),
        readInsert_ne (by decide), readRowCount_ne (by decide)]
      rfl
  | tableInfo tableName =>
      -- the pragma does not double quotes: it needs a name that was checked
      have htokens := tokens_tableInfoSql (quote_notMem_of_validate h)
      simp only [Statement.sql, htokens, List.cons_append]
      rw [readCreateTable_ne (by decide), readInsert_ne (by decide), readRowCount_ne (by decide),
        readDropTable_ne (by decide)]
      rfl

/-- A name that closes its quotes and begins another statement is still a name. -/
theorem readStatement_injection :
    readStatement (Text.utf8 (createTableSql (text "t\" (x TEXT); DROP TABLE u; --")
      [⟨text "a\nb", text "integer"⟩, ⟨text "$$c$$", text "currency"⟩])) =
      some (.createTable (ascii "t\" (x TEXT); DROP TABLE u; --")
        [(ascii "a\nb", ascii "BIGINT"), (ascii "$$c$$", ascii "DOUBLE")]) :=
  readStatement_sql (.createTable (text "t\" (x TEXT); DROP TABLE u; --")
    [⟨text "a\nb", text "integer"⟩, ⟨text "$$c$$", text "currency"⟩]) (List.cons_ne_nil _ _)

/-! ## The statements of a call -/

/-- The texts of `persist_ingest_table`, between `BEGIN TRANSACTION` and `COMMIT`. -/
def IngestJob.statements {ρ : Type} (job : IngestJob ρ) : List Statement :=
  (match job.mode with
    | .create => .createTable job.tableName job.columns
    | .append => .tableInfo job.tableName) ::
  if job.rows.isEmpty then [] else [.insert job.tableName job.columns]

/-- An accepted ingest sends checked statements only. -/
theorem checked_of_plan {config : ScratchpadSessionConfig} {ρ : Type} {raw tableName : Text}
    {columns : List ScratchpadIngestColumn} {rows : List ρ} {mode : ScratchpadIngestMode}
    {plan : Plan ρ} (h : (Op.ingestRowsWithMode raw tableName columns rows mode).plan config = .ok plan)
    (incarnation : Text → Nat) (path : Path) :
    ∃ job, plan.next incarnation path = .ingestPersist job path ∧
      ∀ stmt ∈ job.statements, stmt.Checked := by
  obtain ⟨_, hcolumns, h⟩ := bind_eq_ok.mp h
  obtain ⟨id, hid, h⟩ := bind_eq_ok.mp h
  obtain ⟨_, htable, h⟩ := bind_eq_ok.mp h
  obtain ⟨_, hnames, h⟩ := bind_eq_ok.mp h
  obtain rfl := pure_eq_ok.mp h
  have hne : columns ≠ [] := by
    rintro rfl
    exact refuseIf_eq_ok.mp hcolumns rfl
  refine ⟨_, rfl, fun stmt hstmt => ?_⟩
  rw [IngestJob.statements, List.mem_cons] at hstmt
  rcases hstmt with rfl | hstmt
  · cases mode with
    | create => exact hne
    | append => exact htable
  · dsimp only at hstmt
    split at hstmt
    · cases hstmt
    · rw [List.mem_singleton.mp hstmt]
      exact hne

end Ga4Mcp.Scratchpad
