/-
  Values of SQL expressions, and what the operators and functions make of them.

  Numbers are exact. Static types are left out: an operator or a function answers `NULL`
  for values of the wrong kind. `Engine` stands for what a database brings along: its
  casts, its date literals, its case folding, and the functions not defined here.
-/
import Ga4Mcp.Lib.Sql.Syntax
import Mathlib.Algebra.BigOperators.Group.List.Basic
import Mathlib.Algebra.Order.Field.Rat
import Mathlib.Data.List.TakeWhile

namespace Ga4Mcp.Lib.Sql

/-- A value of a cell. -/
inductive Value where
  | null
  | bool (b : Bool)
  | number (q : ℚ)
  | text (t : List Char)
  /-- A day, by its number. -/
  | date (day : Int)
  | interval (days : Int)
  /-- A list of texts. -/
  | texts (items : List (List Char))
deriving DecidableEq

/-- What an engine adds to the language: its dates and casts, and the functions that are not built
    in. -/
structure Engine where
  /-- The day of a date literal. -/
  date : List Char → Int
  /-- A cast to a type. -/
  cast : Name → Value → Value
  lower : List Char → List Char
  scalar : Name → List Value → Value
  aggregate : Name → List Value → Value
  /-- A window function: directions, keys of the row, keys of all rows. -/
  window : Name → List Bool → List Value → List (List Value) → Value

/-! ## Literals -/

/-- The number a literal denotes. -/
def numberOf (t : List Char) : ℚ :=
  let whole := t.takeWhile (· ≠ '.')
  let decimals := (t.dropWhile (· ≠ '.')).tail
  Nat.ofDigitChars 10 whole 0 + Nat.ofDigitChars 10 decimals 0 / 10 ^ decimals.length

/-- `N day`. -/
def intervalOf (t : List Char) : Value :=
  let digits := t.takeWhile Char.isDigit
  if t.drop digits.length = " day".toList then .interval (Nat.ofDigitChars 10 digits 0) else .null

/-! ## Operators -/

namespace Value

/-- A condition keeps a row when its value is TRUE. -/
def isTrue : Value → Bool
  | .bool b => b
  | _ => false

/-- AND over three truth values. -/
def and : Value → Value → Value
  | .bool false, _ => .bool false
  | _, .bool false => .bool false
  | .bool true, .bool true => .bool true
  | _, _ => .null

/-- OR over three truth values. -/
def or : Value → Value → Value
  | .bool true, _ => .bool true
  | _, .bool true => .bool true
  | .bool false, .bool false => .bool false
  | _, _ => .null

/-- How two values of one kind compare; `NULL` compares with nothing. -/
def compare? : Value → Value → Option Ordering
  | .number a, .number b => some (compare a b)
  | .date a, .date b => some (compare a b)
  | .text a, .text b => some (if a = b then .eq else if a < b then .lt else .gt)
  | _, _ => none

/-- A comparison, NULL where the two values have no order. -/
def test (a b : Value) (p : Ordering → Bool) : Value :=
  match compare? a b with
  | some o => .bool (p o)
  | none => .null

/-- A sum of numbers, or a day moved forwards. -/
def plus : Value → Value → Value
  | .number a, .number b => .number (a + b)
  | .date day, .interval days => .date (day + days)
  | _, _ => .null

/-- A difference of numbers, or a day moved backwards. -/
def minus : Value → Value → Value
  | .number a, .number b => .number (a - b)
  | .date day, .interval days => .date (day - days)
  | _, _ => .null

/-- A product of numbers. -/
def times : Value → Value → Value
  | .number a, .number b => .number (a * b)
  | _, _ => .null

/-- A quotient; division by zero is NULL. -/
def divide : Value → Value → Value
  | .number a, .number b => if b = 0 then .null else .number (a / b)
  | _, _ => .null

/-- Two texts, one after the other. -/
def concat : Value → Value → Value
  | .text a, .text b => .text (a ++ b)
  | _, _ => .null

/-- The meaning of each operator. -/
def binary (op : BinaryOp) (a b : Value) : Value :=
  match op with
  | .or => or a b
  | .and => and a b
  | .equal => test a b Ordering.isEq
  | .notEqual => test a b Ordering.isNe
  | .less => test a b Ordering.isLT
  | .lessEqual => test a b Ordering.isLE
  | .greater => test a b Ordering.isGT
  | .greaterEqual => test a b Ordering.isGE
  | .concat => concat a b
  | .plus => plus a b
  | .minus => minus a b
  | .times => times a b
  | .divide => divide a b

section

variable {α : Type} [LinearOrder α] (a b : α)

theorem isGE_compare : (compare a b).isGE = decide (b ≤ a) := by
  rw [Bool.eq_iff_iff, Ordering.isGE_iff_ne_lt, compare_lt_iff_lt, not_lt, decide_eq_true_iff]

theorem isLT_compare : (compare a b).isLT = decide (a < b) := by
  rw [Bool.eq_iff_iff, Ordering.isLT_iff_eq_lt, compare_lt_iff_lt, decide_eq_true_iff]

theorem isGT_compare : (compare a b).isGT = decide (b < a) := by
  rw [Bool.eq_iff_iff, Ordering.isGT_iff_eq_gt, compare_gt_iff_gt, decide_eq_true_iff]

end

/-- `IN`. -/
def among (a : Value) (items : List Value) : Value :=
  items.foldr (fun b found => or (test a b Ordering.isEq) found) (.bool false)

theorem isTrue_and (a b : Value) : (and a b).isTrue = (a.isTrue && b.isTrue) := by
  rcases a with _ | (_ | _) | _ | _ | _ | _ | _ <;>
    rcases b with _ | (_ | _) | _ | _ | _ | _ | _ <;> rfl

theorem isTrue_or (a b : Value) : (or a b).isTrue = (a.isTrue || b.isTrue) := by
  rcases a with _ | (_ | _) | _ | _ | _ | _ | _ <;>
    rcases b with _ | (_ | _) | _ | _ | _ | _ | _ <;> rfl

/-- Comparing with a text. -/
theorem isTrue_test_text (v : Value) (t : List Char) :
    (test v (.text t) Ordering.isEq).isTrue = decide (v = .text t) := by
  cases v with
  | text s =>
      by_cases h : s = t
      · simp [test, compare?, h, isTrue]
      · by_cases hlt : s < t <;> simp [test, compare?, h, hlt, isTrue]
  | _ => rfl

theorem isTrue_test_ne_text (s t : List Char) :
    (test (.text s) (.text t) Ordering.isNe).isTrue = decide (s ≠ t) := by
  by_cases h : s = t
  · simp [test, compare?, h, isTrue]
  · by_cases hlt : s < t <;> simp [test, compare?, h, hlt, isTrue]

theorem isTrue_among_texts (v : Value) (items : List (List Char)) :
    (v.among (items.map .text)).isTrue = decide (∃ t ∈ items, v = .text t) := by
  induction items with
  | nil => rfl
  | cons t items ih =>
      rw [List.map_cons, among, List.foldr_cons, isTrue_or, isTrue_test_text]
      rw [among] at ih
      rw [ih]
      simp

end Value

/-! ## Functions -/

/-- The functions that have a meaning of their own here. -/
inductive Function where
  | coalesce
  | nullif
  | splitPart
  | stringSplit
  | strpos
  | lower
  | sum
  | avg
  | max
  | count
  | stddevSamp
deriving DecidableEq, Repr

/-- The function of a name. -/
def function? (name : Name) : Option Function :=
  [("coalesce".toList, .coalesce), ("nullif".toList, .nullif), ("split_part".toList, .splitPart),
    ("string_split".toList, .stringSplit), ("strpos".toList, .strpos), ("lower".toList, .lower),
    ("sum".toList, .sum), ("avg".toList, .avg), ("max".toList, .max), ("count".toList, .count),
    ("stddev_samp".toList, Function.stddevSamp)].lookup name

/-- The functions over the rows of a group. -/
def Function.isAggregate : Function → Bool
  | .sum => true
  | .avg => true
  | .max => true
  | .count => true
  | .stddevSamp => true
  | _ => false

/-- The first value that is not `NULL`. -/
def coalesce (values : List Value) : Value := (values.find? (· ≠ .null)).getD .null

/-- The piece with a number from 1 on, or the empty text. -/
def splitPart (t : List Char) (sep : Char) (n : Nat) : List Char :=
  ((t.splitOn sep)[n - 1]?).getD []

/-- The text behind the first place of a character. -/
def behind (c : Char) (t : List Char) : List Char := (t.dropWhile (· ≠ c)).tail

theorem splitOn_eq (c : Char) (t : List Char) :
    t.splitOn c = t.takeWhile (· ≠ c) :: if c ∈ t then (behind c t).splitOn c else [] := by
  induction t with
  | nil => rfl
  | cons d t ih =>
      rw [List.splitOn_cons_eq_if_modifyHead]
      by_cases hd : d = c
      · subst hd
        rw [if_pos (beq_self_eq_true d), if_pos List.mem_cons_self]
        simp [behind]
      · rw [if_neg (by simpa using hd), ih]
        simp [behind, hd, Ne.symm hd]

theorem splitPart_one (t : List Char) (sep : Char) : splitPart t sep 1 = t.takeWhile (· ≠ sep) := by
  rw [splitPart, splitOn_eq]
  rfl

/-- The second piece ends at the second separator. -/
theorem splitPart_two (t : List Char) (sep : Char) :
    splitPart t sep 2 = (behind sep t).takeWhile (· ≠ sep) := by
  rw [splitPart, splitOn_eq]
  by_cases hmem : sep ∈ t
  · rw [if_pos hmem, splitOn_eq]
    rfl
  · have hall : t.dropWhile (· ≠ sep) = [] :=
      List.dropWhile_eq_nil_iff.mpr fun c hc => decide_eq_true fun h => hmem (h ▸ hc)
    rw [if_neg hmem, behind, hall]
    rfl

/-- The place of a character, counted from 1 on, or 0. -/
def strpos (t : List Char) (c : Char) : Nat := if c ∈ t then t.idxOf c + 1 else 0

/-- Separators of one character are cut at here; the engine knows the others. -/
def scalarCall (e : Engine) (name : Name) (args : List Value) : Value :=
  match function? name, args with
  | some .coalesce, args => coalesce args
  | some .nullif, [a, b] => if (Value.test a b Ordering.isEq).isTrue then .null else a
  | some .splitPart, [.text t, .text [sep], .number n] => .text (splitPart t sep n.num.toNat)
  | some .splitPart, [.text t, .text sep, .number n] =>
      e.scalar name [.text t, .text sep, .number n]
  | some .stringSplit, [.text t, .text [sep]] => .texts (t.splitOn sep)
  | some .stringSplit, [.text t, .text sep] => e.scalar name [.text t, .text sep]
  | some .strpos, [.text t, .text [c]] => .number (strpos t c)
  | some .strpos, [.text t, .text needle] => e.scalar name [.text t, .text needle]
  | some .lower, [.text t] => .text (e.lower t)
  | some _, _ => .null
  | none, args => e.scalar name args

theorem coalesce_null (v : Value) : coalesce [.null, v] = v := by
  by_cases h : v = .null
  · rw [h]
    rfl
  · simp [coalesce, h]

theorem coalesce_text (t : List Char) (rest : List Value) :
    coalesce (.text t :: rest) = .text t := rfl

theorem test_texts (a b : List Char) :
    Value.test (.text a) (.text b) Ordering.isEq = .bool (decide (a = b)) := by
  by_cases h : a = b
  · simp [Value.test, Value.compare?, h]
  · by_cases hlt : a < b <;> simp [Value.test, Value.compare?, h, hlt]

theorem nullif_text (e : Engine) {name : Name} (h : function? name = some .nullif)
    (a b : List Char) :
    scalarCall e name [.text a, .text b] = if a = b then .null else .text a := by
  by_cases heq : a = b
  · simp [scalarCall, h, test_texts, heq, Value.isTrue]
  · simp [scalarCall, h, test_texts, heq, Value.isTrue]

theorem nullif_null (e : Engine) {name : Name} (h : function? name = some .nullif) (v : Value) :
    scalarCall e name [.null, v] = .null := by
  simp [scalarCall, h]

theorem coalesce_eval (e : Engine) {name : Name} (h : function? name = some .coalesce)
    (values : List Value) : scalarCall e name values = coalesce values := by
  simp [scalarCall, h]

/-- The numbers among the values; the others are skipped. -/
def numbers (values : List Value) : List ℚ :=
  values.filterMap fun
    | .number q => some q
    | _ => none

/-- An aggregate of the values that are not `NULL`. -/
def aggregateCall (e : Engine) (f : Function) (name : Name) (values : List Value) : Value :=
  match f, numbers values with
  | .sum, q :: qs => .number (q :: qs).sum
  | .avg, q :: qs => .number ((q :: qs).sum / (q :: qs).length)
  | .max, q :: qs => .number (qs.foldl Max.max q)
  | .count, _ => .number (values.filter (· ≠ .null)).length
  | .stddevSamp, _ => e.aggregate name values
  | _, _ => .null

theorem numbers_map (qs : List ℚ) : numbers (qs.map .number) = qs := by
  rw [numbers, List.filterMap_map]
  exact List.filterMap_some

theorem sum_numbers (e : Engine) (name : Name) {qs : List ℚ} (h : qs ≠ []) :
    aggregateCall e .sum name (qs.map .number) = .number qs.sum := by
  obtain ⟨q, rest, rfl⟩ := List.exists_cons_of_ne_nil h
  simp only [aggregateCall, numbers_map]

end Ga4Mcp.Lib.Sql
