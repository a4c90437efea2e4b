/-
  Queries: what their names stand for, and the rows they answer.

  A select is bound before it is evaluated: its source is the table it names, and every
  column it names must be one of the source (`Select.run`). A common table expression sees
  the ones before it, and exports the columns of its items.

  * `Select.run_ok`, `Select.run_unknownColumn`: a select that is bound, and one that is not.
  * `runCtes_cons_ok`, `runCtes_cons_error`: one step along the common table expressions.
-/
import Ga4Mcp.Lib.Sql.Values
import Mathlib.Data.List.Dedup

namespace Ga4Mcp.Lib.Sql

/-- A row: a value for each column name. -/
abbrev Row := Name → Value

/-! ## Expressions -/

mutual

/-- The value at a row; aggregates and window functions range over `group`. -/
def Expr.eval (e : Engine) (group : List Row) (row : Row) : Expr (List Char) → Value
  | .column name => row name
  | .quoted name => row name
  | .string value => .text value
  | .number value => .number (numberOf value)
  | .null => .null
  | .date value => .date (e.date value)
  | .interval value => intervalOf value
  | .cast _ arg type => e.cast type (arg.eval e group row)
  | .binary op left right => .binary op (left.eval e group row) (right.eval e group row)
  | .isNull negated arg => .bool ((arg.eval e group row = .null) != negated)
  | .among arg items => (arg.eval e group row).among (items.eval e group row)
  | .call name args =>
      match function? name with
      | some f =>
          if f.isAggregate then
            aggregateCall e f name (group.map fun r => (args.eval e [] r).headD .null)
          else scalarCall e name (args.eval e group row)
      | none => scalarCall e name (args.eval e group row)
  | .callStar _ => .number group.length
  | .filtered aggregate condition =>
      aggregate.eval e (group.filter fun r => (condition.eval e [] r).isTrue) row
  | .over name keys descending =>
      e.window name descending (keys.eval e [] row) (group.map fun r => keys.eval e [] r)
  | .when condition value otherwise =>
      if (condition.eval e group row).isTrue then value.eval e group row
      else otherwise.eval e group row
  | .list items =>
      .texts ((items.eval e group row).filterMap fun
        | .text t => some t
        | _ => none)

/-- The values of a list of expressions. -/
def Exprs.eval (e : Engine) (group : List Row) (row : Row) : Exprs (List Char) → List Value
  | .nil => []
  | .cons head tail => head.eval e group row :: tail.eval e group row

end

section

variable (e : Engine) (group : List Row) (row : Row)

theorem Exprs.eval_ofList (args : List (Expr (List Char))) :
    (Exprs.ofList args).eval e group row = args.map (Expr.eval e group row) := by
  induction args with
  | nil => rfl
  | cons head tail ih => rw [Exprs.ofList, Exprs.eval, ih, List.map_cons]

/-- A call of a function that is no aggregate. -/
theorem fn_eval {name : String} {f : Function} (args : List (Expr (List Char)))
    (h : function? name.toList = some f) (hscalar : f.isAggregate = false) :
    (fn name args).eval e group row =
      scalarCall e name.toList (args.map (Expr.eval e group row)) := by
  rw [fn, Expr.eval, h]
  dsimp only
  rw [if_neg (by rw [hscalar]; exact Bool.false_ne_true), Exprs.eval_ofList]

/-- An aggregate of one argument. -/
theorem fn_eval_aggregate {name : String} {f : Function} (arg : Expr (List Char))
    (h : function? name.toList = some f) (haggregate : f.isAggregate = true) :
    (fn name [arg]).eval e group row =
      aggregateCall e f name.toList (group.map fun r => arg.eval e [] r) := by
  rw [fn, Expr.eval, h]
  dsimp only
  rw [if_pos haggregate]
  rfl

end

mutual

/-- The columns that an expression reads. -/
def Expr.columns : Expr (List Char) → List Name
  | .column name => [name]
  | .quoted name => [name]
  | .string _ => []
  | .number _ => []
  | .null => []
  | .date _ => []
  | .interval _ => []
  | .cast _ arg _ => arg.columns
  | .binary _ left right => left.columns ++ right.columns
  | .isNull _ arg => arg.columns
  | .among arg items => arg.columns ++ items.columns
  | .call _ args => args.columns
  | .callStar _ => []
  | .filtered aggregate condition => aggregate.columns ++ condition.columns
  | .over _ keys _ => keys.columns
  | .when condition value otherwise => condition.columns ++ value.columns ++ otherwise.columns
  | .list items => items.columns

/-- The columns that a list of expressions reads. -/
def Exprs.columns : Exprs (List Char) → List Name
  | .nil => []
  | .cons head tail => head.columns ++ tail.columns

end

mutual

/-- Whether the expression calls a function over a group. -/
def Expr.aggregates : Expr (List Char) → Bool
  | .cast _ arg _ => arg.aggregates
  | .binary _ left right => left.aggregates || right.aggregates
  | .isNull _ arg => arg.aggregates
  | .among arg items => arg.aggregates || items.aggregates
  | .call name args => (function? name).any Function.isAggregate || args.aggregates
  | .callStar _ => true
  | .filtered _ _ => true
  | .when condition value otherwise =>
      condition.aggregates || value.aggregates || otherwise.aggregates
  | .list items => items.aggregates
  | _ => false

/-- The same of a list of expressions. -/
def Exprs.aggregates : Exprs (List Char) → Bool
  | .nil => false
  | .cons head tail => head.aggregates || tail.aggregates

end

/-! ## Items -/

/-- The name an item exports. -/
def Item.name : Item (List Char) → Option Name
  | .all => none
  | .value _ (some name) => some name
  | .value (.column name) none => some name
  | .value (.quoted name) none => some name
  | .value _ none => none

/-- The columns that an item reads. -/
def Item.columns : Item (List Char) → List Name
  | .all => []
  | .value expr _ => expr.columns

/-- Whether an item calls a function over a group. -/
def Item.aggregates : Item (List Char) → Bool
  | .all => false
  | .value expr _ => expr.aggregates

/-- What an item puts into the column `name`, if it is about that column. -/
def Item.eval (e : Engine) (columns : List Name) (group : List Row) (row : Row) (name : Name) :
    Item (List Char) → Option Value
  | .all => if name ∈ columns then some (row name) else none
  | .value expr label =>
      if (Item.value expr label).name = some name then some (expr.eval e group row) else none

/-! ## Selects -/

/-- A table: the names of its columns, and its rows in order. -/
structure Relation where
  columns : List Name
  rows : List Row

/-- Why a name could not be bound. -/
inductive ScopeError where
  | unknownTable (name : Name)
  | unknownColumn (name : Name)
deriving DecidableEq

/-- The tables that can be named. -/
abbrev Tables := Name → Option Relation

/-- The name of a table, however it was written. -/
def TableRef.name : TableRef (List Char) → Name
  | .bare name => name
  | .quoted name => name

/-- The relation of a table. -/
def resolve (tables : Tables) (table : TableRef (List Char)) : Except ScopeError Relation :=
  match tables table.name with
  | some relation => .ok relation
  | none => .error (.unknownTable table.name)

/-- Every name is a column. -/
def bindColumns (columns : List Name) (names : List Name) : Except ScopeError Unit :=
  match names.find? (· ∉ columns) with
  | some name => .error (.unknownColumn name)
  | none => .ok ()

theorem bindColumns_ok {columns names : List Name} (h : ∀ name ∈ names, name ∈ columns) :
    bindColumns columns names = .ok () := by
  have hfind : names.find? (· ∉ columns) = none :=
    List.find?_eq_none.mpr fun name hname => by simpa using h name hname
  rw [bindColumns, hfind]

/-- LEFT JOIN: a row without a partner stays, with NULLs. -/
def leftUsing (left right : Relation) (column : Name) : Relation where
  columns := left.columns ++ right.columns.filter (· ≠ column)
  rows := left.rows.flatMap fun l =>
    let fill := fun (r : Row) name => if name ∈ left.columns then l name else r name
    match right.rows.filter fun r => l column ≠ .null ∧ l column = r column with
    | [] => [fill fun _ => .null]
    | r :: rs => (r :: rs).map fill

/-- One row for each text of a list. -/
def unnest (e : Engine) (left : Relation) (list : Expr (List Char)) (column : Name) :
    Relation where
  columns := left.columns ++ [column]
  rows := left.rows.flatMap fun l =>
    match list.eval e [] l with
    | .texts items => items.map fun item name => if name = column then .text item else l name
    | _ => []

/-- Rows that are made of others, each with a list of its own. -/
theorem unnest_rows {e : Engine} {left : Relation} {list : Expr (List Char)} (column : Name)
    {α : Type} {sources : List α} {row : α → Row} {items : α → List (List Char)}
    (hrows : left.rows = sources.map row) (hlist : ∀ a, list.eval e [] (row a) = .texts (items a)) :
    (unnest e left list column).rows = sources.flatMap fun a =>
      (items a).map fun item name => if name = column then .text item else row a name := by
  rw [unnest, hrows, List.flatMap_map]
  refine List.flatMap_congr fun a _ => ?_
  rw [hlist a]

namespace Select

/-- The relation of FROM: the table, joined. -/
def source (e : Engine) (tables : Tables) (s : Select (List Char)) :
    Except ScopeError Relation := do
  let left ← resolve tables s.table
  match s.join with
  | .none => return left
  | .leftUsing table column => do
      let right ← resolve tables table
      bindColumns left.columns [column]
      bindColumns right.columns [column]
      return Sql.leftUsing left right column
  | .unnest list _ column => do
      bindColumns left.columns list.columns
      return Sql.unnest e left list column

/-- The columns that a select names. -/
def names (s : Select (List Char)) : List Name :=
  s.items.flatMap Item.columns ++ s.condition.elim [] Expr.columns ++
    s.groupBy.flatMap Expr.columns ++ s.orderBy.flatMap fun key => key.1.columns

/-- The columns that the SELECT list names. -/
def exports (s : Select (List Char)) (columns : List Name) : List Name :=
  s.items.flatMap fun
    | .all => columns
    | item => item.name.toList

/-- A SELECT statement over groups. -/
def aggregates (s : Select (List Char)) : Bool :=
  s.groupBy ≠ [] || s.items.any Item.aggregates

/-- A row of the result. -/
def output (e : Engine) (s : Select (List Char)) (columns : List Name) (group : List Row)
    (row : Row) : Row :=
  fun name => (s.items.findSome? (Item.eval e columns group row name)).getD .null

/-- Rows with equal keys stand together; without keys there is one group. -/
def groups (e : Engine) (s : Select (List Char)) (rows : List Row) : List (List Row) :=
  if s.groupBy = [] then [rows]
  else
    let key := fun row => s.groupBy.map (Expr.eval e [] row)
    (rows.map key).dedup.map fun k => rows.filter fun row => key row = k

theorem find?_groups {α β κ : Type} [DecidableEq κ] (key : α → κ) (f : List α → β) {k : κ}
    {p : β → Bool} {rows : List α}
    (hp : ∀ k' ∈ rows.map key, p (f (rows.filter fun row => key row = k')) = decide (k' = k)) :
    (((rows.map key).dedup.map fun k => rows.filter fun row => key row = k).map f).find? p =
      if k ∈ rows.map key then some (f (rows.filter fun row => key row = k)) else none := by
  have hfind : ∀ keys : List κ, (∀ k' ∈ keys, k' ∈ rows.map key) →
      ((keys.map fun k => rows.filter fun row => key row = k).map f).find? p =
        if k ∈ keys then some (f (rows.filter fun row => key row = k)) else none := by
    intro keys hkeys
    induction keys with
    | nil => rfl
    | cons k' keys ih =>
        rw [List.map_cons, List.map_cons, List.find?_cons, hp k' (hkeys k' List.mem_cons_self),
          ih fun k hk => hkeys k (List.mem_cons_of_mem k' hk)]
        by_cases hk : k' = k
        · subst hk
          simp
        · simp [hk, Ne.symm hk]
  rw [hfind _ fun k hk => List.mem_dedup.mp hk]
  simp only [List.mem_dedup]

/-- One list of keys comes no later than another one. -/
def inOrder : List (Value × Bool) → List Value → Bool
  | (a, descending) :: keys, b :: others =>
      match Value.compare? a b with
      | some .lt => !descending
      | some .gt => descending
      | _ => inOrder keys others
  | _, _ => true

/-- The rows in the order that ORDER BY asks for. -/
def sorted (e : Engine) (s : Select (List Char)) (rows : List Row) : List Row :=
  if s.orderBy = [] then rows
  else rows.mergeSort fun a b =>
    inOrder (s.orderBy.map fun key => (key.1.eval e [] a, key.2))
      (s.orderBy.map fun key => key.1.eval e [] b)

/-- The result of a SELECT statement over its source. -/
def eval (e : Engine) (s : Select (List Char)) (base : Relation) : Relation where
  columns := s.exports base.columns
  rows :=
    let rows := match s.condition with
      | some condition => base.rows.filter fun row => (condition.eval e [] row).isTrue
      | none => base.rows
    if s.aggregates then
      (s.groups e rows).map fun group =>
        s.output e base.columns group (group.headD fun _ => .null)
    else
      (s.sorted e rows).map fun row => s.output e base.columns rows row

/-- The rows that meet the condition. -/
theorem eval_rows {e : Engine} {s : Select (List Char)} (base : Relation)
    (haggregates : s.aggregates = false) (horder : s.orderBy = []) {kept : List Row}
    (hkept : kept = match s.condition with
      | some condition => base.rows.filter fun row => (condition.eval e [] row).isTrue
      | none => base.rows) :
    (s.eval e base).rows = kept.map fun row => s.output e base.columns kept row := by
  rw [hkept, eval]
  dsimp only
  rw [if_neg (by rw [haggregates]; exact Bool.false_ne_true), sorted, if_pos horder]

theorem eval_rows_grouped {e : Engine} {s : Select (List Char)} (base : Relation)
    (haggregates : s.aggregates = true) (hgroup : s.groupBy ≠ []) {kept : List Row}
    (hkept : kept = match s.condition with
      | some condition => base.rows.filter fun row => (condition.eval e [] row).isTrue
      | none => base.rows) :
    (s.eval e base).rows =
      (((kept.map fun row => s.groupBy.map (Expr.eval e [] row)).dedup.map fun k =>
        kept.filter fun row => s.groupBy.map (Expr.eval e [] row) = k).map fun group =>
          s.output e base.columns group (group.headD fun _ => .null)) := by
  rw [hkept, eval]
  dsimp only
  rw [if_pos haggregates, groups, if_neg hgroup]

/-- Without aggregates every row of the answer is made of one row. -/
theorem exists_of_mem_eval {e : Engine} {s : Select (List Char)} {base : Relation}
    (haggregates : s.aggregates = false) {row : Row} (hrow : row ∈ (s.eval e base).rows) :
    ∃ group, ∃ r ∈ base.rows, row = s.output e base.columns group r := by
  rw [eval] at hrow
  dsimp only at hrow
  rw [if_neg (by rw [haggregates]; exact Bool.false_ne_true)] at hrow
  obtain ⟨r, hr, rfl⟩ := List.mem_map.mp hrow
  refine ⟨_, r, ?_, rfl⟩
  -- neither the order nor the condition adds a row
  have hkept : ∀ rows : List Row, r ∈ s.sorted e rows → r ∈ rows := by
    intro rows hmem
    unfold sorted at hmem
    split at hmem
    · exact hmem
    · exact List.mem_mergeSort.mp hmem
  have hmem := hkept _ hr
  split at hmem
  · exact (List.mem_filter.mp hmem).1
  · exact hmem

/-- A select is bound, then evaluated. -/
def run (e : Engine) (tables : Tables) (s : Select (List Char)) : Except ScopeError Relation := do
  let base ← s.source e tables
  bindColumns base.columns s.names
  return s.eval e base

section

variable {e : Engine} {tables : Tables} {s : Select (List Char)} {base : Relation}

theorem source_table (hjoin : s.join = .none) (htable : tables s.table.name = some base) :
    s.source e tables = .ok base := by
  have hresolve : resolve tables s.table = .ok base := by rw [resolve, htable]
  rw [source, hresolve, hjoin]
  rfl

theorem source_unnest {list : Expr (List Char)} {table column : Name} {left : Relation}
    (hjoin : s.join = .unnest list table column) (htable : tables s.table.name = some left)
    (hlist : ∀ name ∈ list.columns, name ∈ left.columns) :
    s.source e tables = .ok (Sql.unnest e left list column) := by
  have hresolve : resolve tables s.table = .ok left := by rw [resolve, htable]
  have hbind : bindColumns left.columns list.columns = .ok () := bindColumns_ok hlist
  rw [source, hresolve, hjoin]
  change (bindColumns left.columns list.columns).bind _ = _
  rw [hbind]
  rfl

/-- A select that names columns of its source only. -/
theorem run_ok (hsource : s.source e tables = .ok base)
    (hnames : ∀ name ∈ s.names, name ∈ base.columns) : s.run e tables = .ok (s.eval e base) := by
  have hbind : bindColumns base.columns s.names = .ok () := bindColumns_ok hnames
  rw [run, hsource]
  change (bindColumns base.columns s.names).bind _ = _
  rw [hbind]
  rfl

/-- **Scope**: a column that the source does not export stops the select. -/
theorem run_unknownColumn {name : Name} (hsource : s.source e tables = .ok base)
    (hname : s.names.find? (· ∉ base.columns) = some name) :
    s.run e tables = .error (.unknownColumn name) := by
  have hbind : bindColumns base.columns s.names = .error (.unknownColumn name) := by
    rw [bindColumns, hname]
  rw [run, hsource]
  change (bindColumns base.columns s.names).bind _ = _
  rw [hbind]
  rfl

end

end Select

/-! ## Queries -/

/-- Common table expressions, the last one first, before the tables. -/
def withCtes (ctes : List (Name × Relation)) (tables : Tables) : Tables :=
  fun name => (ctes.lookup name).or (tables name)

/-- The common table expressions in order; each sees those before it. The last one comes first. -/
def runCtes (e : Engine) (tables : Tables) :
    List (Name × Select (List Char)) → List (Name × Relation) →
      Except ScopeError (List (Name × Relation))
  | [], done => .ok done
  | (name, select) :: ctes, done => do
      let relation ← select.run e (withCtes done tables)
      runCtes e tables ctes ((name, relation) :: done)

theorem runCtes_cons_ok {e : Engine} {tables : Tables} {name : Name}
    {select : Select (List Char)} {ctes : List (Name × Select (List Char))}
    {done : List (Name × Relation)} {relation : Relation}
    (h : select.run e (withCtes done tables) = .ok relation) :
    runCtes e tables ((name, select) :: ctes) done =
      runCtes e tables ctes ((name, relation) :: done) := by
  rw [runCtes, h]
  rfl

theorem runCtes_cons_error {e : Engine} {tables : Tables} {name : Name}
    {select : Select (List Char)} {ctes : List (Name × Select (List Char))}
    {done : List (Name × Relation)} {error : ScopeError}
    (h : select.run e (withCtes done tables) = .error error) :
    runCtes e tables ((name, select) :: ctes) done = .error error := by
  rw [runCtes, h]
  rfl

namespace Query

/-- A query: its common table expressions, then its body. -/
def run (e : Engine) (tables : Tables) (q : Query (List Char)) : Except ScopeError Relation := do
  let ctes ← runCtes e tables q.ctes []
  q.body.run e (withCtes ctes tables)

/-- What a common table expression stands for. -/
def cte (e : Engine) (tables : Tables) (q : Query (List Char)) (name : Name) :
    Except ScopeError Relation := do
  let ctes ← runCtes e tables q.ctes []
  resolve (withCtes ctes tables) (.bare name)

end Query

end Ga4Mcp.Lib.Sql
