import Windowing.Sql.Eval

set_option autoImplicit false

/-! # Subqueries read once

A subquery that does not read the row a statement is at is evaluated once for the
statement, when it is first needed: a scalar subquery, an `EXISTS`, and the right side of
`IN`. Such a subquery is named, as a query that only the statement sees, and replaced by a
reading of that name; the statement runs it the first time the name is read and keeps its
rows. So the rows a statement changes after that do not change what the subquery gives for
the rows after them, and a function such as `random()` in it gives one value for the whole
statement.

A subquery does not read the row when all its names are found without the row in scope. One
that names a column of the row stays in place, to be evaluated row by row. -/

namespace Windowing.Sql

/-- The name a subquery of a statement is kept under; no statement can write a name that
starts with a zero character. -/
def settledName (i : Nat) : String := "\x00subquery" ++ toString i

/-- The query that reads back the rows kept under a name. -/
def readKept (name : String) : Query :=
  .mk false [] (.select false [.all] [.mk .inner false (.table none name none) none []] none [] none [])
    [] [] none none

/-- Keep one subquery under a new name (numbered from `base` on) when all its names are
found in the statement's scope without the row, and read it from there; keep it in place
otherwise. The state holds the subqueries kept so far, the first kept first. -/
def settleQuery (env : Env) (sc : Scope) (base : Nat) (q : Query) : StateM (List CteBinding) Query := do
  let kept ← get
  match queryColumns evalFuel { env with ctes := kept.reverse ++ env.ctes } sc q with
  | .ok _ =>
    let name := settledName (base + kept.length)
    set (kept ++ [{ name, body := .pending q sc : CteBinding }])
    pure (readKept name)
  | .error _ => pure q

/-- Keep the subqueries of an expression that do not read the row, innermost first. -/
def Expr.settle (env : Env) (sc : Scope) (base : Nat) : Nat → Expr → StateM (List CteBinding) Expr
  | 0, e => pure e
  | fuel + 1, e => do
    let e ← e.mapOperandsM (Expr.settle env sc base fuel)
    match e with
    | .scalar q => return .scalar (← settleQuery env sc base q)
    | .exists q => return .exists (← settleQuery env sc base q)
    | .inQuery negated a q => return .inQuery negated a (← settleQuery env sc base q)
    | .subColumn q i width => return .subColumn (← settleQuery env sc base q) i width
    | e => pure e

/-- Whether an expression has a subquery that reads a table of a name (named in a `FROM`
clause of the subquery). -/
def Expr.readsTable (n : String) : Nat → Expr → Bool
  | 0, _ => false
  | fuel + 1, e =>
    let here := match e with
      | .scalar q | .exists q | .inQuery _ _ q | .subColumn q _ _ => Query.namesSource n evalFuel q
      | .inTable _ _ t => sameName t n
      | _ => false
    here || e.operands.any (Expr.readsTable n fuel)

end Windowing.Sql
