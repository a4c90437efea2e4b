/-
  Syntax of SQL queries: expressions, selects, common table expressions.

  What quoted names, strings and numbers carry is a parameter, as in the tokens; `map`
  changes it. `CASE` with several arms is a nest of `when`, and a missing `ELSE` is `NULL`.
-/
import Mathlib.Data.List.Basic

namespace Ga4Mcp.Lib.Sql

/-- A bare name, in lower case. -/
abbrev Name := List Char

instance : LawfulBEq Name := List.instLawfulBEq

/-- An operator between two expressions. -/
inductive BinaryOp where
  | or
  | and
  | equal
  | notEqual
  | less
  | lessEqual
  | greater
  | greaterEqual
  | concat
  | plus
  | minus
  | times
  | divide
deriving DecidableEq, Repr

mutual

/-- An expression. Its payloads (texts, numbers, quoted names) are of any type, so that a template
    and its instances share one syntax. -/
inductive Expr (ν : Type) where
  | column (name : Name)
  | quoted (name : ν)
  | string (value : ν)
  | number (value : ν)
  | null
  /-- `DATE '…'`. -/
  | date (value : ν)
  /-- `INTERVAL '…'`. -/
  | interval (value : ν)
  /-- `CAST`, or `TRY_CAST`. -/
  | cast (attempt : Bool) (arg : Expr ν) (type : Name)
  | binary (op : BinaryOp) (left right : Expr ν)
  /-- `IS NULL`, or `IS NOT NULL`. -/
  | isNull (negated : Bool) (arg : Expr ν)
  /-- `IN (…)`. -/
  | among (arg : Expr ν) (items : Exprs ν)
  | call (function : Name) (args : Exprs ν)
  /-- `f(*)`. -/
  | callStar (function : Name)
  /-- `… FILTER (WHERE …)`. -/
  | filtered (aggregate condition : Expr ν)
  /-- `f() OVER (ORDER BY …)`. -/
  | over (function : Name) (keys : Exprs ν) (descending : List Bool)
  | when (condition value otherwise : Expr ν)
  /-- `[…]`. -/
  | list (items : Exprs ν)
deriving DecidableEq

/-- A list of expressions, as a type of its own for the recursion. -/
inductive Exprs (ν : Type) where
  | nil
  | cons (head : Expr ν) (tail : Exprs ν)
deriving DecidableEq

end

/-- An item of a SELECT list. -/
inductive Item (ν : Type) where
  /-- `*`. -/
  | all
  | value (expr : Expr ν) (name : Option Name)
deriving DecidableEq

/-- The table of a FROM clause; a quoted name may be a payload. -/
inductive TableRef (ν : Type) where
  | bare (name : Name)
  | quoted (name : ν)
deriving DecidableEq

/-- What is joined to that table. -/
inductive Join (ν : Type) where
  | none
  /-- `LEFT JOIN table USING (column)`. -/
  | leftUsing (table : TableRef ν) (column : Name)
  /-- `CROSS JOIN UNNEST(list) AS table(column)`. -/
  | unnest (list : Expr ν) (table column : Name)
deriving DecidableEq

/-- A SELECT statement. A key of ORDER BY is marked when its direction is descending. -/
structure Select (ν : Type) where
  items : List (Item ν)
  table : TableRef ν
  join : Join ν
  condition : Option (Expr ν)
  groupBy : List (Expr ν)
  orderBy : List (Expr ν × Bool)
deriving DecidableEq

/-- A query: its common table expressions in order, then its body. -/
structure Query (ν : Type) where
  ctes : List (Name × Select ν)
  body : Select ν
deriving DecidableEq

/-! ## Lists of expressions -/

namespace Exprs

variable {ν : Type}

/-- The expressions of a list, as a `List`. -/
def toList : Exprs ν → List (Expr ν)
  | .nil => []
  | .cons head tail => head :: tail.toList

/-- And back. -/
def ofList : List (Expr ν) → Exprs ν
  | [] => .nil
  | head :: tail => .cons head (ofList tail)

end Exprs

/-- The column of a bare name. -/
def col {ν : Type} (name : String) : Expr ν := .column name.toList

/-- The call of a function with these arguments. -/
def fn {ν : Type} (name : String) (args : List (Expr ν)) : Expr ν :=
  .call name.toList (.ofList args)

/-- A column under its own name. -/
def Item.col {ν : Type} (name : String) : Item ν := .value (.column name.toList) none

/-- An expression with a name in the SELECT list. -/
def Item.named {ν : Type} (name : String) (expr : Expr ν) : Item ν := .value expr (some name.toList)

/-! ## Change of carriers -/

variable {ν μ ξ : Type}

mutual

/-- The expression with its payloads replaced. -/
def Expr.map (f : ν → μ) : Expr ν → Expr μ
  | .column name => .column name
  | .quoted name => .quoted (f name)
  | .string value => .string (f value)
  | .number value => .number (f value)
  | .null => .null
  | .date value => .date (f value)
  | .interval value => .interval (f value)
  | .cast attempt arg type => .cast attempt (arg.map f) type
  | .binary op left right => .binary op (left.map f) (right.map f)
  | .isNull negated arg => .isNull negated (arg.map f)
  | .among arg items => .among (arg.map f) (items.map f)
  | .call function args => .call function (args.map f)
  | .callStar function => .callStar function
  | .filtered aggregate condition => .filtered (aggregate.map f) (condition.map f)
  | .over function keys descending => .over function (keys.map f) descending
  | .when condition value otherwise =>
      .when (condition.map f) (value.map f) (otherwise.map f)
  | .list items => .list (items.map f)

/-- The same on a list of expressions. -/
def Exprs.map (f : ν → μ) : Exprs ν → Exprs μ
  | .nil => .nil
  | .cons head tail => .cons (head.map f) (tail.map f)

end

/-- The same on an item. -/
def Item.map (f : ν → μ) : Item ν → Item μ
  | .all => .all
  | .value expr name => .value (expr.map f) name

/-- The same on a table. -/
def TableRef.map (f : ν → μ) : TableRef ν → TableRef μ
  | .bare name => .bare name
  | .quoted name => .quoted (f name)

/-- The same on a join. -/
def Join.map (f : ν → μ) : Join ν → Join μ
  | .none => .none
  | .leftUsing table column => .leftUsing (table.map f) column
  | .unnest list table column => .unnest (list.map f) table column

/-- The same on a SELECT statement. -/
def Select.map (f : ν → μ) (s : Select ν) : Select μ where
  items := s.items.map (Item.map f)
  table := s.table.map f
  join := s.join.map f
  condition := s.condition.map (Expr.map f)
  groupBy := s.groupBy.map (Expr.map f)
  orderBy := s.orderBy.map fun key => (key.1.map f, key.2)

/-- The same on a query. -/
def Query.map (f : ν → μ) (q : Query ν) : Query μ where
  ctes := q.ctes.map fun cte => (cte.1, cte.2.map f)
  body := q.body.map f

mutual

theorem Expr.map_map (g : μ → ξ) (f : ν → μ) : ∀ e : Expr ν, (e.map f).map g = e.map (g ∘ f)
  | .column _ => rfl
  | .quoted _ => rfl
  | .string _ => rfl
  | .number _ => rfl
  | .null => rfl
  | .date _ => rfl
  | .interval _ => rfl
  | .cast _ arg _ => by rw [Expr.map, Expr.map, Expr.map, arg.map_map g f]
  | .binary _ left right => by
      rw [Expr.map, Expr.map, Expr.map, left.map_map g f, right.map_map g f]
  | .isNull _ arg => by rw [Expr.map, Expr.map, Expr.map, arg.map_map g f]
  | .among arg items => by
      rw [Expr.map, Expr.map, Expr.map, arg.map_map g f, items.map_map g f]
  | .call _ args => by rw [Expr.map, Expr.map, Expr.map, args.map_map g f]
  | .callStar _ => rfl
  | .filtered aggregate condition => by
      rw [Expr.map, Expr.map, Expr.map, aggregate.map_map g f, condition.map_map g f]
  | .over _ keys _ => by rw [Expr.map, Expr.map, Expr.map, keys.map_map g f]
  | .when condition value otherwise => by
      rw [Expr.map, Expr.map, Expr.map, condition.map_map g f, value.map_map g f,
        otherwise.map_map g f]
  | .list items => by rw [Expr.map, Expr.map, Expr.map, items.map_map g f]

theorem Exprs.map_map (g : μ → ξ) (f : ν → μ) : ∀ es : Exprs ν, (es.map f).map g = es.map (g ∘ f)
  | .nil => rfl
  | .cons head tail => by
      rw [Exprs.map, Exprs.map, Exprs.map, head.map_map g f, tail.map_map g f]

end

theorem Select.map_map (g : μ → ξ) (f : ν → μ) (s : Select ν) :
    (s.map f).map g = s.map (g ∘ f) := by
  obtain ⟨items, table, join, condition, groupBy, orderBy⟩ := s
  simp only [Select.map, List.map_map, Option.map_map, Select.mk.injEq]
  refine ⟨List.map_congr_left fun item _ => ?_, ?_, ?_, ?_, ?_, ?_⟩
  · cases item with
    | all => rfl
    | value expr name => exact congrArg (Item.value · name) (expr.map_map g f)
  · cases table <;> rfl
  · cases join with
    | none => rfl
    | leftUsing table column => cases table <;> rfl
    | unnest list table column => exact congrArg (Join.unnest · table column) (list.map_map g f)
  · exact congrArg (condition.map ·) (funext (Expr.map_map g f))
  · exact List.map_congr_left fun key _ => key.map_map g f
  · exact List.map_congr_left fun key _ => congrArg (·, key.2) (key.1.map_map g f)

theorem Query.map_map (g : μ → ξ) (f : ν → μ) (q : Query ν) :
    (q.map f).map g = q.map (g ∘ f) := by
  obtain ⟨ctes, body⟩ := q
  simp only [Query.map, List.map_map, Query.mk.injEq, body.map_map g f, and_true]
  exact List.map_congr_left fun cte _ => congrArg (cte.1, ·) (cte.2.map_map g f)

end Ga4Mcp.Lib.Sql
