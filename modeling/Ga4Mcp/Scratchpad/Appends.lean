/-
  Appending to a table of the scratchpad, of `src/scratchpad.rs`: which columns
  `validate_append_target_columns` accepts for a table that an earlier ingest has made.

  * `canonical_reported`: the type that DuckDB reports for a column is read back as the storage
    type that the column was made with.
  * `append_iff`: after any ingests and drops of other tables, the columns are accepted exactly
    when they have the names of the first ingest, in its order, and its storage types.

  What a query of `run_guarded` does to the tables is not known, so none is among the changes.
-/
import Ga4Mcp.Scratchpad.Engine
import Mathlib.Logic.Relation

namespace Ga4Mcp.Scratchpad

open Ga4Mcp.Lib

/-! ## Types -/

/-- What an append has to share with the first ingest. -/
def storageColumns (columns : List ScratchpadIngestColumn) : List (Text × Text) :=
  columns.map fun column => (column.name, logicalTypeToDuckdbType column.logicalType)

theorem canonical_reported (logicalType : Text) :
    canonicalDuckdbStorageType (reportedType (logicalTypeToDuckdbType logicalType)) =
      logicalTypeToDuckdbType logicalType := by
  unfold logicalTypeToDuckdbType
  repeat' split
  all_goals decide +kernel

/-! ## Tables -/

section Tables

variable {ρ : Type} {path : Path} {db db' : Db ρ} {name : Text}

/-- The columns of the table of this name, if there is one. -/
def columnsOf (db : Db ρ) (name : Text) : Option (List (Text × Text)) :=
  (db.find? (Table.isNamed name)).map Table.columns

/-- A row goes into a table; names and columns stay. -/
theorem columnsOf_insertRow (tableName : Text) (row : ρ) (db : Db ρ) :
    columnsOf (insertRow tableName row db) name = columnsOf db name := by
  induction db with
  | nil => rfl
  | cons t db ih =>
      rw [insertRow]
      split
      · unfold columnsOf
        rw [List.find?_cons, List.find?_cons]
        have hsame : Table.isNamed name { t with rows := t.rows ++ [row] } = t.isNamed name := rfl
        rw [hsame]
        cases t.isNamed name <;> rfl
      · unfold columnsOf at ih ⊢
        rw [List.find?_cons, List.find?_cons]
        cases t.isNamed name with
        | true => rfl
        | false => exact ih

theorem columnsOf_insertRows (tableName : Text) (rows : List ρ) (db : Db ρ) :
    columnsOf (insertRows tableName rows db) name = columnsOf db name := by
  unfold insertRows
  induction rows generalizing db with
  | nil => rfl
  | cons row rows ih => rw [List.foldl_cons, ih, columnsOf_insertRow]

theorem columnsOf_append {columns : List (Text × Text)} (h : columnsOf db name = some columns)
    (t : Table ρ) : columnsOf (db ++ [t]) name = some columns := by
  obtain ⟨found, hfound, rfl⟩ := Option.map_eq_some_iff.mp h
  rw [columnsOf, List.find?_append, hfound]
  rfl

/-- A dropped table of another name leaves this one. -/
theorem columnsOf_eraseP {tableName : Text} (hother : sameIdentifier tableName name = false)
    (db : Db ρ) : columnsOf (db.eraseP (Table.isNamed tableName)) name = columnsOf db name := by
  induction db with
  | nil => rfl
  | cons t db ih =>
      rw [List.eraseP_cons]
      cases hdrop : t.isNamed tableName with
      | true =>
          have hkeep : t.isNamed name = false := by
            unfold Table.isNamed sameIdentifier at *
            rw [decide_eq_true_eq] at hdrop
            rw [hdrop]
            exact hother
          rw [cond_true, columnsOf, columnsOf, List.find?_cons, hkeep]
      | false =>
          unfold columnsOf at ih ⊢
          rw [cond_false, List.find?_cons, List.find?_cons]
          cases t.isNamed name with
          | true => rfl
          | false => exact ih

/-- What happens to a database: an ingest is committed, or a table of another name is dropped. -/
inductive Change (name : Text) : Db ρ → Db ρ → Prop where
  | ingest {db db' : Db ρ} (answer : EngineAnswer ρ) (path : Path) (job : IngestJob ρ)
      (committed : persistIngestTable answer db path job = .ok db') : Change name db db'
  | drop {db db' : Db ρ} (answer : EngineAnswer ρ) (tableName : Text)
      (other : sameIdentifier tableName name = false)
      (dropped : dropTableStatement answer db tableName = .ok db') : Change name db db'

theorem columnsOf_change {columns : List (Text × Text)} (h : columnsOf db name = some columns)
    (hchange : Change name db db') : columnsOf db' name = some columns := by
  cases hchange with
  | ingest answer path job committed =>
      obtain ⟨target, rfl, -, rfl⟩ := persist_ok committed
      rw [columnsOf_insertRows]
      split
      · exact columnsOf_append h _
      · exact h
  | drop answer tableName other dropped =>
      rw [(dropTableStatement_ok dropped).1, columnsOf_eraseP other, h]

theorem columnsOf_changes {columns : List (Text × Text)} (h : columnsOf db name = some columns)
    (hchanges : Relation.ReflTransGen (Change name) db db') : columnsOf db' name = some columns := by
  induction hchanges with
  | refl => exact h
  | tail _ hchange ih => exact columnsOf_change ih hchange

/-- A table that has been made is the one of its name. -/
theorem columnsOf_created {answer : EngineAnswer ρ} {job : IngestJob ρ}
    (h : persistIngestTable answer db path job = .ok db') (hmode : job.mode = .create)
    (hname : sameIdentifier job.tableName name = true) :
    columnsOf db' name = some job.newTable.columns := by
  have hsame : ∀ t : Table ρ, t.isNamed name = t.isNamed job.tableName := by
    intro t
    unfold sameIdentifier at hname
    rw [decide_eq_true_eq] at hname
    rw [Table.isNamed, Table.isNamed, sameIdentifier, sameIdentifier, hname]
  have hnew : job.newTable.isNamed name = true := by
    rw [hsame]
    exact decide_eq_true rfl
  have hnone : db.find? (Table.isNamed name) = none := by
    rw [List.find?_eq_none]
    intro t ht hin
    rw [hsame] at hin
    exact fresh_of_persist_ok hmode h (List.any_eq_true.mpr ⟨t, ht, hin⟩)
  obtain ⟨target, rfl, -, htarget⟩ := persist_ok h
  rw [columnsOf_insertRows, htarget, if_pos hmode, columnsOf, List.find?_append, hnone,
    List.find?_cons, hnew]
  rfl

end Tables

/-! ## Appends -/

section Appends

variable {ρ : Type} {db : Db ρ} {answer : EngineAnswer ρ}

/-- The columns of `CREATE TABLE`, as `PRAGMA table_info` reports them. -/
def reportedColumns (columns : List ScratchpadIngestColumn) : List (Text × Text) :=
  columns.map fun column => (column.name, reportedType (logicalTypeToDuckdbType column.logicalType))

/-- The columns of a table, with the storage types that an append compares. -/
def storageOf (existing : List (Text × Text)) : List (Text × Text) :=
  existing.map fun column => (column.1, canonicalDuckdbStorageType column.2)

theorem storageOf_reported (columns : List ScratchpadIngestColumn) :
    storageOf (reportedColumns columns) = storageColumns columns := by
  rw [storageOf, reportedColumns, List.map_map, storageColumns]
  refine List.map_congr_left fun column _ => ?_
  rw [Function.comp_apply, canonical_reported]

theorem typeMismatch_eq_none (existing : Text × Text) (incoming : ScratchpadIngestColumn) :
    typeMismatch existing incoming = none ↔
      canonicalDuckdbStorageType existing.2 = logicalTypeToDuckdbType incoming.logicalType := by
  rw [typeMismatch]
  split
  · next hsame => exact iff_of_true rfl hsame
  · next hdiffer => exact ⟨fun hnone => (by cases hnone), fun hsame => absurd hsame hdiffer⟩

/-- Same names and no mismatch: the same names and storage types. -/
theorem storageOf_eq_iff (existing : List (Text × Text)) (incoming : List ScratchpadIngestColumn) :
    (existing.map Prod.fst = incoming.map (·.name) ∧
      (existing.zip incoming).filterMap (fun x => typeMismatch x.1 x.2) = []) ↔
      storageOf existing = storageColumns incoming := by
  induction existing generalizing incoming with
  | nil =>
      cases incoming with
      | nil => simp [storageOf, storageColumns]
      | cons column incoming => simp [storageOf, storageColumns]
  | cons first existing ih =>
      cases incoming with
      | nil => simp [storageOf, storageColumns]
      | cons column incoming =>
          have hrest := ih incoming
          have hfirst := typeMismatch_eq_none first column
          simp only [storageOf, storageColumns, List.map_cons, List.cons.injEq,
            List.zip_cons_cons, List.filterMap_cons, Prod.mk.injEq] at hrest ⊢
          rw [← hrest, ← hfirst]
          cases htype : typeMismatch first column with
          | none => exact ⟨fun ⟨⟨hname, hnames⟩, hnone⟩ => ⟨⟨hname, rfl⟩, hnames, hnone⟩,
              fun ⟨⟨hname, _⟩, hnames, hnone⟩ => ⟨⟨hname, hnames⟩, hnone⟩⟩
          | some mismatch => exact ⟨fun ⟨_, hnone⟩ => (by cases hnone),
              fun ⟨⟨_, hnone⟩, _⟩ => (by cases hnone)⟩

/-- What an append compares with the table of the name. -/
theorem validateAppendTargetColumns_eq_ok {tableName : Text}
    (hanswer : answer.fails 2 = none) (columns : List ScratchpadIngestColumn) :
    validateAppendTargetColumns answer db tableName columns = .ok () ↔
      ∃ existing, columnsOf db tableName = some existing ∧ existing ≠ [] ∧
        storageOf existing = storageColumns columns := by
  have hstatement : ∀ what, statement answer 2 what = .ok () := by
    intro what
    rw [statement, hanswer]
  have hcolumns : (db.find? (Table.isNamed tableName)).map Table.columns =
      columnsOf db tableName := rfl
  rw [validateAppendTargetColumns, hcolumns]
  constructor
  · intro h
    obtain ⟨_, -, h⟩ := bind_eq_ok.mp h
    obtain ⟨_, hempty, h⟩ := bind_eq_ok.mp h
    obtain ⟨_, hsame, h⟩ := bind_eq_ok.mp h
    rw [refuseIf_eq_ok, List.isEmpty_iff] at hempty
    rw [refuseIf_eq_ok, not_not] at hsame
    rw [refuseIf_eq_ok, not_not, List.isEmpty_iff] at h
    cases hcolumns : columnsOf db tableName with
    | none =>
        rw [hcolumns] at hempty
        exact absurd rfl hempty
    | some existing =>
        rw [hcolumns, Option.getD_some] at hempty hsame h
        exact ⟨existing, rfl, hempty, (storageOf_eq_iff existing columns).mp ⟨hsame, h⟩⟩
  · rintro ⟨existing, hcolumns, hne, hstorage⟩
    obtain ⟨hsame, hnone⟩ := (storageOf_eq_iff existing columns).mpr hstorage
    rw [hcolumns, Option.getD_some]
    refine bind_eq_ok.mpr ⟨(), hstatement _, bind_eq_ok.mpr ⟨(), ?_, bind_eq_ok.mpr ⟨(), ?_, ?_⟩⟩⟩
    · rw [refuseIf_eq_ok, List.isEmpty_iff]
      exact hne
    · rw [refuseIf_eq_ok, not_not]
      exact hsame
    · rw [refuseIf_eq_ok, not_not, List.isEmpty_iff]
      exact hnone

/-- **Which columns a table takes**, whatever has been appended to it or made beside it: those
    of the ingest that made it, up to logical types with one storage type. -/
theorem append_iff {db db' : Db ρ} {made : EngineAnswer ρ} {path : Path} {job : IngestJob ρ}
    {tableName : Text} (hcreated : persistIngestTable made db path job = .ok db') (hmode : job.mode = .create)
    (hne : job.columns ≠ []) (hname : sameIdentifier job.tableName tableName = true)
    {later : Db ρ} (hchanges : Relation.ReflTransGen (Change tableName) db' later)
    (hanswer : answer.fails 2 = none) (columns : List ScratchpadIngestColumn) :
    validateAppendTargetColumns answer later tableName columns = .ok () ↔
      storageColumns columns = storageColumns job.columns := by
  have hcolumns : columnsOf later tableName = some (reportedColumns job.columns) :=
    columnsOf_changes (columnsOf_created hcreated hmode hname) hchanges
  have hreported : reportedColumns job.columns ≠ [] := fun hnil => hne (List.map_eq_nil_iff.mp hnil)
  rw [validateAppendTargetColumns_eq_ok hanswer, hcolumns]
  constructor
  · rintro ⟨existing, hexisting, -, hstorage⟩
    rw [← hstorage, ← Option.some.inj hexisting, storageOf_reported]
  · intro hsame
    exact ⟨_, rfl, hreported, by rw [storageOf_reported, hsame]⟩

end Appends

/-! ## An append -/

/-- A table of revenue by day. -/
def revenue (type : String) : List ScratchpadIngestColumn :=
  [⟨text "day", text "date"⟩, ⟨text "revenue", text type⟩]

/-- One row of currency, in a table of its own or behind the rows of one. -/
def revenueJob (mode : ScratchpadIngestMode) : IngestJob Unit :=
  ⟨text "s", 1, text "sales", revenue "currency", [()], mode⟩

/-- The file of the session. -/
def salesPath : Path := text "session-s.duckdb"

/-- The table with rows in it. -/
def salesWith (rows : List Unit) : Db Unit := [{ (revenueJob .create).newTable with rows }]

/-- A table of currencies takes numbers, and its name in any case. -/
theorem append_numbers :
    validateAppendTargetColumns .fine (salesWith [(), ()]) (text "Sales") (revenue "number") =
      .ok () := by
  have hcreated : persistIngestTable .fine [] salesPath (revenueJob .create) = .ok (salesWith [()]) := by
    decide +kernel
  have happended : persistIngestTable .fine (salesWith [()]) salesPath (revenueJob .append) =
      .ok (salesWith [(), ()]) := by
    decide +kernel
  have hchanges : Relation.ReflTransGen (Change (text "Sales")) (salesWith [()])
      (salesWith [(), ()]) :=
    .single (.ingest .fine salesPath (revenueJob .append) happended)
  exact (append_iff hcreated rfl (List.cons_ne_nil _ _) (by decide) hchanges rfl _).mpr (by decide)

end Ga4Mcp.Scratchpad
