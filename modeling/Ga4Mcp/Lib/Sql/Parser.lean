/-
  A parser of SQL queries, by recursive descent with a bound on the depth.

  It reads tokens that carry their positions, and puts what the tokens at these positions
  carry into the query afterwards (`parse`). So no choice of the parser depends on what
  a quoted name, a string or a number holds.

  * `parse_map`: a change of carriers commutes with parsing.
-/
import Ga4Mcp.Lib.Sql.Lexer
import Ga4Mcp.Lib.Sql.Syntax

namespace Ga4Mcp.Lib.Sql

/-- Tokens with positions. -/
abbrev Tokens := List (Token Nat)

/-! ## Keywords -/

-- character by character: these are compared in evaluations
def kwSelect : List Char := ['s', 'e', 'l', 'e', 'c', 't']
def kwFrom : List Char := ['f', 'r', 'o', 'm']
def kwWhere : List Char := ['w', 'h', 'e', 'r', 'e']
def kwGroup : List Char := ['g', 'r', 'o', 'u', 'p']
def kwOrder : List Char := ['o', 'r', 'd', 'e', 'r']
def kwBy : List Char := ['b', 'y']
def kwAs : List Char := ['a', 's']
def kwAnd : List Char := ['a', 'n', 'd']
def kwOr : List Char := ['o', 'r']
def kwNot : List Char := ['n', 'o', 't']
def kwNull : List Char := ['n', 'u', 'l', 'l']
def kwIs : List Char := ['i', 's']
def kwIn : List Char := ['i', 'n']
def kwCase : List Char := ['c', 'a', 's', 'e']
def kwWhen : List Char := ['w', 'h', 'e', 'n']
def kwThen : List Char := ['t', 'h', 'e', 'n']
def kwElse : List Char := ['e', 'l', 's', 'e']
def kwEnd : List Char := ['e', 'n', 'd']
def kwCast : List Char := ['c', 'a', 's', 't']
def kwTryCast : List Char := ['t', 'r', 'y', '_', 'c', 'a', 's', 't']
def kwLeft : List Char := ['l', 'e', 'f', 't']
def kwCross : List Char := ['c', 'r', 'o', 's', 's']
def kwJoin : List Char := ['j', 'o', 'i', 'n']
def kwUsing : List Char := ['u', 's', 'i', 'n', 'g']
def kwWith : List Char := ['w', 'i', 't', 'h']
def kwDesc : List Char := ['d', 'e', 's', 'c']
def kwAsc : List Char := ['a', 's', 'c']
def kwFilter : List Char := ['f', 'i', 'l', 't', 'e', 'r']
def kwOver : List Char := ['o', 'v', 'e', 'r']
def kwUnnest : List Char := ['u', 'n', 'n', 'e', 's', 't']
def kwDate : List Char := ['d', 'a', 't', 'e']
def kwInterval : List Char := ['i', 'n', 't', 'e', 'r', 'v', 'a', 'l']

/-- The words that name nothing. -/
def reserved : List (List Char) :=
  [kwSelect, kwFrom, kwWhere, kwGroup, kwOrder, kwBy, kwAs, kwAnd, kwOr, kwNot, kwNull, kwIs,
    kwIn, kwCase, kwWhen, kwThen, kwElse, kwEnd, kwCast, kwTryCast, kwLeft, kwCross, kwJoin,
    kwUsing, kwWith, kwDesc, kwAsc]

/-! ## Tokens one by one -/

/-- The tokens behind this keyword. -/
def expectWord (w : List Char) : Tokens → Option Tokens
  | .word folded :: rest => if folded = w then some rest else none
  | _ => none

/-- The tokens behind this symbol. -/
def expectSymbol (s : Symbol) : Tokens → Option Tokens
  | .symbol t :: rest => if t = s then some rest else none
  | _ => none

/-- A name that is not reserved. -/
def identifier : Tokens → Option (Name × Tokens)
  | .word folded :: rest =>
      if folded ∈ reserved then none else some (folded, rest)
  | _ => none

/-! ## Expressions -/

/-- How tightly an operator binds. -/
inductive Level where
  | or
  | and
  | comparison
  | concat
  | additive
  | multiplicative
  | primary
deriving DecidableEq

/-- The level that binds closer. -/
def Level.next : Level → Level
  | .or => .and
  | .and => .comparison
  | .comparison => .concat
  | .concat => .additive
  | .additive => .multiplicative
  | .multiplicative => .primary
  | .primary => .primary

/-- The operator of a level at the head. -/
def operator (level : Level) : Tokens → Option (BinaryOp × Tokens)
  | .word folded :: rest =>
      match level with
      | .or => if folded = kwOr then some (.or, rest) else none
      | .and => if folded = kwAnd then some (.and, rest) else none
      | _ => none
  | .symbol s :: rest =>
      match level, s with
      | .comparison, .equal => some (.equal, rest)
      | .comparison, .notEqual => some (.notEqual, rest)
      | .comparison, .less => some (.less, rest)
      | .comparison, .lessEqual => some (.lessEqual, rest)
      | .comparison, .greater => some (.greater, rest)
      | .comparison, .greaterEqual => some (.greaterEqual, rest)
      | .concat, .concat => some (.concat, rest)
      | .additive, .plus => some (.plus, rest)
      | .additive, .minus => some (.minus, rest)
      | .multiplicative, .star => some (.times, rest)
      | .multiplicative, .slash => some (.divide, rest)
      | _, _ => none
  | _ => none

mutual

/-- An expression of a level: an operand of the next one, then operators. -/
def parseExpr : Nat → Level → Tokens → Option (Expr Nat × Tokens)
  | 0, _, _ => none
  | fuel + 1, level, toks =>
      if level = .primary then parsePrimary fuel toks
      else do
        let (left, toks) ← parseExpr fuel level.next toks
        parseOperators fuel level left toks

/-- Operators associate to the left; `IS` and `IN` stand with the comparisons. -/
def parseOperators : Nat → Level → Expr Nat → Tokens → Option (Expr Nat × Tokens)
  | 0, _, _, _ => none
  | fuel + 1, level, left, toks =>
      match operator level toks with
      | some (op, toks) => do
          let (right, toks) ← parseExpr fuel level.next toks
          parseOperators fuel level (.binary op left right) toks
      | none =>
          if level = .comparison then
            match expectWord kwIs toks, expectWord kwIn toks with
            | some toks, _ =>
                match expectWord kwNot toks with
                | some toks => do
                    let toks ← expectWord kwNull toks
                    return (.isNull true left, toks)
                | none => do
                    let toks ← expectWord kwNull toks
                    return (.isNull false left, toks)
            | none, some toks => do
                let toks ← expectSymbol .leftParen toks
                let (items, toks) ← parseExprs fuel toks
                let toks ← expectSymbol .rightParen toks
                return (.among left items, toks)
            | none, none => some (left, toks)
          else some (left, toks)

/-- One or more expressions between commas. -/
def parseExprs : Nat → Tokens → Option (Exprs Nat × Tokens)
  | 0, _ => none
  | fuel + 1, toks => do
      let (head, toks) ← parseExpr fuel .or toks
      match expectSymbol .comma toks with
      | some toks => do
          let (tail, toks) ← parseExprs fuel toks
          return (.cons head tail, toks)
      | none => return (.cons head .nil, toks)

/-- `expr [DESC], …`. -/
def parseOrder : Nat → Tokens → Option (List (Expr Nat × Bool) × Tokens)
  | 0, _ => none
  | fuel + 1, toks => do
      let (key, toks) ← parseExpr fuel .or toks
      let (descending, toks) := match expectWord kwDesc toks with
        | some toks => (true, toks)
        | none => (false, toks)
      match expectSymbol .comma toks with
      | some toks => do
          let (keys, toks) ← parseOrder fuel toks
          return ((key, descending) :: keys, toks)
      | none => return ([(key, descending)], toks)

/-- The arms of a `CASE`, to its `END`. -/
def parseArms : Nat → Tokens → Option (Expr Nat × Tokens)
  | 0, _ => none
  | fuel + 1, toks =>
      match expectWord kwWhen toks, expectWord kwElse toks with
      | some toks, _ => do
          let (condition, toks) ← parseExpr fuel .or toks
          let toks ← expectWord kwThen toks
          let (value, toks) ← parseExpr fuel .or toks
          let (otherwise, toks) ← parseArms fuel toks
          return (.when condition value otherwise, toks)
      | none, some toks => do
          let (value, toks) ← parseExpr fuel .or toks
          let toks ← expectWord kwEnd toks
          return (value, toks)
      | none, none => do
          let toks ← expectWord kwEnd toks
          return (.null, toks)

/-- Literals, columns, calls, casts, CASE and brackets. -/
def parsePrimary : Nat → Tokens → Option (Expr Nat × Tokens)
  | 0, _ => none
  | fuel + 1, toks =>
      match toks with
      | .number value :: toks => some (.number value, toks)
      | .string value :: toks => some (.string value, toks)
      | .quoted name :: toks => some (.quoted name, toks)
      | .symbol .leftParen :: toks => do
          let (e, toks) ← parseExpr fuel .or toks
          let toks ← expectSymbol .rightParen toks
          return (e, toks)
      | .symbol .leftBracket :: toks => do
          let (items, toks) ← parseExprs fuel toks
          let toks ← expectSymbol .rightBracket toks
          return (.list items, toks)
      | .symbol _ :: _ => none
      | [] => none
      | .word folded :: rest =>
          if folded = kwNull then some (.null, rest)
          else if folded = kwCase then parseArms fuel rest
          else if folded = kwCast || folded = kwTryCast then do
            let toks ← expectSymbol .leftParen rest
            let (arg, toks) ← parseExpr fuel .or toks
            let toks ← expectWord kwAs toks
            let (type, toks) ← identifier toks
            let toks ← expectSymbol .rightParen toks
            return (.cast (folded = kwTryCast) arg type, toks)
          else do
            let (name, rest) ← identifier toks
            match rest with
            | .string value :: rest =>
                if name = kwDate then some (.date value, rest)
                else if name = kwInterval then some (.interval value, rest)
                else none
            | .symbol .leftParen :: rest => parseCall fuel name rest
            | _ => some (.column name, rest)

/-- Behind the parenthesis of a call. -/
def parseCall : Nat → Name → Tokens → Option (Expr Nat × Tokens)
  | 0, _, _ => none
  | fuel + 1, function, toks =>
      match expectSymbol .star toks, expectSymbol .rightParen toks with
      | some toks, _ => do
          let toks ← expectSymbol .rightParen toks
          parseFilter fuel (.callStar function) toks
      | none, some toks =>
          match expectWord kwOver toks with
          | some toks => do
              let toks ← expectSymbol .leftParen toks
              let toks ← expectWord kwOrder toks
              let toks ← expectWord kwBy toks
              let (keys, toks) ← parseOrder fuel toks
              let toks ← expectSymbol .rightParen toks
              return (.over function (Exprs.ofList (keys.map (·.1))) (keys.map (·.2)), toks)
          | none => some (.call function .nil, toks)
      | none, none => do
          let (args, toks) ← parseExprs fuel toks
          let toks ← expectSymbol .rightParen toks
          parseFilter fuel (.call function args) toks

/-- The FILTER clause of an aggregate. -/
def parseFilter : Nat → Expr Nat → Tokens → Option (Expr Nat × Tokens)
  | 0, _, _ => none
  | fuel + 1, aggregate, toks =>
      match expectWord kwFilter toks with
      | none => some (aggregate, toks)
      | some toks => do
          let toks ← expectSymbol .leftParen toks
          let toks ← expectWord kwWhere toks
          let (condition, toks) ← parseExpr fuel .or toks
          let toks ← expectSymbol .rightParen toks
          return (.filtered aggregate condition, toks)

end

/-! ## Selects -/

/-- An item of a SELECT list, with its name. -/
def parseItem (fuel : Nat) (toks : Tokens) : Option (Item Nat × Tokens) :=
  match expectSymbol .star toks with
  | some toks => some (.all, toks)
  | none => do
      let (e, toks) ← parseExpr fuel .or toks
      match expectWord kwAs toks with
      | some toks => do
          let (name, toks) ← identifier toks
          return (.value e (some name), toks)
      | none => return (.value e none, toks)

/-- Items, separated by commas. -/
def parseItems : Nat → Tokens → Option (List (Item Nat) × Tokens)
  | 0, _ => none
  | fuel + 1, toks => do
      let (head, toks) ← parseItem fuel toks
      match expectSymbol .comma toks with
      | some toks => do
          let (tail, toks) ← parseItems fuel toks
          return (head :: tail, toks)
      | none => return ([head], toks)

/-- The name of a table. -/
def parseTable : Tokens → Option (TableRef Nat × Tokens)
  | .quoted name :: toks => some (.quoted name, toks)
  | toks => (identifier toks).map fun named => (.bare named.1, named.2)

/-- A join, if there is one. -/
def parseJoin (fuel : Nat) (toks : Tokens) : Option (Join Nat × Tokens) :=
  match expectWord kwLeft toks, expectWord kwCross toks with
  | some toks, _ => do
      let toks ← expectWord kwJoin toks
      let (table, toks) ← parseTable toks
      let toks ← expectWord kwUsing toks
      let toks ← expectSymbol .leftParen toks
      let (column, toks) ← identifier toks
      let toks ← expectSymbol .rightParen toks
      return (.leftUsing table column, toks)
  | none, some toks => do
      let toks ← expectWord kwJoin toks
      let toks ← expectWord kwUnnest toks
      let toks ← expectSymbol .leftParen toks
      let (list, toks) ← parseExpr fuel .or toks
      let toks ← expectSymbol .rightParen toks
      let toks ← expectWord kwAs toks
      let (table, toks) ← identifier toks
      let toks ← expectSymbol .leftParen toks
      let (column, toks) ← identifier toks
      let toks ← expectSymbol .rightParen toks
      return (.unnest list table column, toks)
  | none, none => some (.none, toks)

/-- A SELECT statement, clause by clause. -/
def parseSelect (fuel : Nat) (toks : Tokens) : Option (Select Nat × Tokens) := do
  let toks ← expectWord kwSelect toks
  let (items, toks) ← parseItems fuel toks
  let toks ← expectWord kwFrom toks
  let (table, toks) ← parseTable toks
  let (join, toks) ← parseJoin fuel toks
  let (condition, toks) ← match expectWord kwWhere toks with
    | some toks => (parseExpr fuel .or toks).map fun read => (some read.1, read.2)
    | none => some (none, toks)
  let (groupBy, toks) ← match expectWord kwGroup toks with
    | some toks => do
        let toks ← expectWord kwBy toks
        let (keys, toks) ← parseExprs fuel toks
        pure (keys.toList, toks)
    | none => some ([], toks)
  let (orderBy, toks) ← match expectWord kwOrder toks with
    | some toks => do
        let toks ← expectWord kwBy toks
        parseOrder fuel toks
    | none => some ([], toks)
  return ({ items, table, join, condition, groupBy, orderBy }, toks)

/-- `name AS (select), …`. -/
def parseCtes : Nat → Tokens → Option (List (Name × Select Nat) × Tokens)
  | 0, _ => none
  | fuel + 1, toks => do
      let (name, toks) ← identifier toks
      let toks ← expectWord kwAs toks
      let toks ← expectSymbol .leftParen toks
      let (select, toks) ← parseSelect fuel toks
      let toks ← expectSymbol .rightParen toks
      match expectSymbol .comma toks with
      | some toks => do
          let (ctes, toks) ← parseCtes fuel toks
          return ((name, select) :: ctes, toks)
      | none => return ([(name, select)], toks)

/-- A query, to the last token. -/
def parseTokens (fuel : Nat) (toks : Tokens) : Option (Query Nat) := do
  let (ctes, toks) ← match expectWord kwWith toks with
    | some toks => parseCtes fuel toks
    | none => some ([], toks)
  let (body, toks) ← parseSelect fuel toks
  if toks = [] then some { ctes, body } else none

/-! ## Queries -/

variable {ν μ : Type}

/-- The tokens with their positions as payloads, from `i` on. -/
def positionsFrom : Nat → List (Token ν) → Tokens
  | _, [] => []
  | i, token :: toks => token.map (fun _ => i) :: positionsFrom (i + 1) toks

/-- The tokens with their positions as payloads. -/
def positions (toks : List (Token ν)) : Tokens := positionsFrom 0 toks

/-- What a token carries. -/
def Token.payload : Token ν → Option ν
  | .quoted name => some name
  | .string value => some value
  | .number value => some value
  | .word _ => none
  | .symbol _ => none

/-- The payload of the token at a position. -/
def payloadAt (missing : ν) (toks : List (Token ν)) (i : Nat) : ν :=
  (toks[i]?.bind Token.payload).getD missing

/-- The bound on the depth grows with the text. -/
def parse (missing : ν) (toks : List (Token ν)) : Option (Query ν) :=
  (parseTokens (8 * toks.length) (positions toks)).map (Query.map (payloadAt missing toks))

theorem Token.map_map {ξ : Type} (g : μ → ξ) (f : ν → μ) (token : Token ν) :
    (token.map f).map g = token.map (g ∘ f) := by
  cases token <;> rfl

theorem Token.payload_map (f : ν → μ) (token : Token ν) :
    (token.map f).payload = token.payload.map f := by
  cases token <;> rfl

theorem positionsFrom_map (f : ν → μ) (i : Nat) (toks : List (Token ν)) :
    positionsFrom i (toks.map (Token.map f)) = positionsFrom i toks := by
  induction toks generalizing i with
  | nil => rfl
  | cons token toks ih =>
      rw [List.map_cons, positionsFrom, positionsFrom, ih, Token.map_map]
      rfl

theorem payloadAt_map (f : ν → μ) (missing : ν) (toks : List (Token ν)) :
    payloadAt (f missing) (toks.map (Token.map f)) = f ∘ payloadAt missing toks := by
  funext i
  rw [payloadAt, Function.comp_apply, payloadAt, List.getElem?_map]
  cases toks[i]? with
  | none => rfl
  | some token =>
      change ((token.map f).payload).getD _ = f (token.payload.getD missing)
      rw [Token.payload_map]
      cases token.payload <;> rfl

/-- **Parsing** commutes with a change of what the tokens carry. -/
theorem parse_map (f : ν → μ) (missing : ν) (toks : List (Token ν)) :
    parse (f missing) (toks.map (Token.map f)) = (parse missing toks).map (Query.map f) := by
  rw [parse, parse, positions, positionsFrom_map, payloadAt_map, List.length_map, Option.map_map]
  exact congrArg (Option.map · _) (funext fun q => (q.map_map f (payloadAt missing toks)).symm)

/-- A text as a query. -/
def readQuery (t : List Char) : Option (Query (List Char)) := (lex t).bind (parse [])

end Ga4Mcp.Lib.Sql
