import Windowing.Sql.Prepare

set_option autoImplicit false

/-! # Where a collation is needed

`COLLATE` may name a collation that does not exist. That is no failure by itself: the
statement fails, when it is prepared, only if the collation is needed, that is when an
expression carrying it is compared or sorted. A statement that only stores or returns such
a value runs.

The collation of an expression is found by looking through it: a `COLLATE` names one, a
column has its own, `CAST` and unary `+` pass the one of their operand, and any other
expression holding a `COLLATE` passes the one of its left operand when that holds one, or
else of its first other operand that does. Where it is needed:

* a comparison (`=`, `<`, `IS`, …, and each pair of a row value comparison) uses the
  collation of its left side when that holds a `COLLATE`, else of its right side when that
  does (`BETWEEN` compares twice, a simple `CASE` compares its operand with each `WHEN`
  term, `x IN (y)` with one constant is `x = y`);
* any other `IN` uses its left side's collation, against a subquery as a comparison with
  the subquery's column;
* `min`, `max` and `nullif` use the first argument that has one;
* sorting and grouping use each `ORDER BY`, `GROUP BY` and `DISTINCT` term's collation, and
  `UNION`, `INTERSECT` and `EXCEPT` the collation of each column (the first core that has
  one gives it);
* a subquery in `FROM`, a view, a named query and `CREATE TABLE … AS` keep their columns'
  collations, which are looked up when the query is read.

The triggers a change fires are read with it, and their bodies are checked the same way. -/

namespace Windowing.Sql

/-- What looking for an expression's collation finds: nothing, a column (which has a
collation of its own), or a collation named by `COLLATE`. -/
inductive CollationFound where
  | nothing
  | column
  | named (name : String)
  deriving Inhabited

/-- The name of a collation found that does not exist. -/
def CollationFound.unknown? : CollationFound → Option String
  | .named c => if (Collation.ofName? c).isSome then none else some c
  | _ => none

/-- The operands an expression's collation may come from: the left one, the right one,
and the others in order (arguments, list items, `WHEN` and `THEN` terms). -/
def Expr.collationOperands : Expr → Option Expr × Option Expr × List Expr
  | .unary _ a | .isNull _ a | .cast a _ | .collate a _ | .inQuery _ a _ | .inTable _ a _ => (some a, none, [])
  | .binary _ a b | .isOp _ a b => (some a, some b, [])
  | .between _ e lo hi => (some e, none, [lo, hi])
  | .inList _ e items => (some e, none, items)
  | .like _ _ a b esc => (none, none, b :: a :: esc.toList)
  | .call _ _ args _ _ _ _ => (none, none, args)
  | .caseOf op whens other => (op, none, whens.flatMap (fun (w, t) => [w, t]) ++ other.toList)
  | .vector items => (none, none, items)
  | _ => (none, none, [])

/-- Whether an expression holds a `COLLATE` (outside its subqueries). -/
def Expr.hasCollate : Nat → Expr → Bool
  | 0, _ => false
  | fuel + 1, e =>
    match e with
    | .collate _ _ => true
    | _ =>
      let (l, r, xs) := e.collationOperands
      (l.toList ++ r.toList ++ xs).any (Expr.hasCollate fuel)

/-- The collation an expression has, looking through it. -/
def Expr.collationFound : Nat → Expr → CollationFound
  | 0, _ => .nothing
  | fuel + 1, e =>
    match e with
    | .collate _ c => .named c
    | .column _ n _ => if isRowidName n then .nothing else .column
    | .cast a _ | .unary .pos a => Expr.collationFound fuel a
    | .vector (x :: _) => Expr.collationFound fuel x
    | _ =>
      if !Expr.hasCollate fuel e then .nothing
      else
        let (l, r, xs) := e.collationOperands
        let next : Option Expr :=
          match l.filter (Expr.hasCollate fuel) with
          | some a => some a
          | none => (xs.find? (Expr.hasCollate fuel)).or r
        match next with
        | some x => Expr.collationFound fuel x
        | none => .nothing

/-- The unknown collation a comparison of two expressions needs. -/
def compareNeed (fuel : Nat) (a b : Expr) : Option String :=
  if Expr.hasCollate fuel a then (Expr.collationFound fuel a).unknown?
  else if Expr.hasCollate fuel b then (Expr.collationFound fuel b).unknown?
  else none

/-- The result expressions of a core (none for a column `*` stands for). -/
def Core.resultExprs : Core → List (Option Expr)
  | .values rows => (rows.headD []).map some
  | .select _ cols _ _ _ _ _ => cols.map fun rc =>
    match rc with
    | .expr e _ _ => some e
    | _ => none

/-- The last core of a query, whose columns a comparison with it uses. -/
def Query.lastCore : Query → Core
  | .mk _ _ first rest _ _ _ => (rest.getLast?.map (·.2)).getD first

/-- The items of a row value, a subquery's standing for its result columns. -/
def Expr.rowItems (e : Expr) : List (Option Expr) :=
  match e with
  | .vector xs => xs.map some
  | .scalar q => q.lastCore.resultExprs
  | x => [some x]

/-- The unknown collation a comparison needs, pair by pair for row values. -/
def pairNeed (fuel : Nat) (a b : Expr) : Option String :=
  match a, b with
  | .vector _, _ | _, .vector _ =>
    (a.rowItems.zip b.rowItems).findSome? fun (x, y) =>
      match x, y with
      | some x, some y => compareNeed fuel x y
      | _, _ => none
  | _, _ => compareNeed fuel a b

/-- The unknown collation a function that compares its arguments needs: the first
argument with a collation gives it. -/
def argumentsNeed (fuel : Nat) : List Expr → Option String
  | [] => none
  | a :: rest =>
    match Expr.collationFound fuel a with
    | .nothing => argumentsNeed fuel rest
    | found => found.unknown?

/-- The unknown collation an expression needs where it stands (not looking into its
operands). -/
def Expr.localNeed (fuel : Nat) (e : Expr) : Option String :=
  match e with
  | .binary op a b => if op.isComparison then pairNeed fuel a b else none
  | .isOp _ a b => pairNeed fuel a b
  | .between _ x lo hi => (pairNeed fuel x lo).or (pairNeed fuel x hi)
  | .inList _ x [y] =>
    if Expr.isWrittenConstant fuel y then compareNeed fuel x y else (Expr.collationFound fuel x).unknown?
  | .inList _ _ [] => none
  | .inList _ x _ => (Expr.collationFound fuel x).unknown?
  | .caseOf (some x) whens _ => whens.findSome? fun (w, _) => compareNeed fuel x w
  | .call n _ args _ _ _ _ =>
    let f := foldName n
    if f == "min" || f == "max" || f == "nullif" then argumentsNeed fuel args else none
  | _ => none

/-- The first core of a query, whose columns a query used as a table has. -/
def Query.firstCore : Query → Core
  | .mk _ _ first _ _ _ _ => first

/-- What a result column's expression finds (a column for `*`). -/
def resultFound (fuel : Nat) (r : Option Expr) : CollationFound :=
  match r with
  | some e => Expr.collationFound fuel e
  | none => .column

/-- The unknown collation among the columns of a query used as a table. -/
def Query.columnsNeed (fuel : Nat) (q : Query) : Option String :=
  q.firstCore.resultExprs.findSome? fun r => (resultFound fuel r).unknown?

/-- What a sort or grouping term finds: its own `COLLATE`, or the result column it names
by number or alias, or itself. -/
def termFound (fuel : Nat) (results : List (Option Expr)) (aliases : List (String × Expr)) (t : Expr) :
    CollationFound :=
  match t with
  | .collate _ c => .named c
  | _ =>
    match t.asInteger? with
    | some k => if k ≥ 1 then resultFound fuel (results.getD (k.toNat - 1) none) else .nothing
    | none =>
      match t with
      | .column [] n _ =>
        match aliases.find? (fun (a, _) => sameName a n) with
        | some (_, x) => Expr.collationFound fuel x
        | none => Expr.collationFound fuel t
      | _ => Expr.collationFound fuel t

/-- The collation of a compound's column: the first core that finds one gives it. -/
def compoundColumnFound (fuel : Nat) (cores : List Core) (i : Nat) : CollationFound :=
  let rec go : List Core → CollationFound
    | [] => .nothing
    | c :: rest =>
      match resultFound fuel (c.resultExprs.getD i none) with
      | .nothing => go rest
      | found => found
  go cores

mutual

/-- The first unknown collation an expression (with its subqueries) needs. -/
def Expr.collationNeed : Nat → Schema → Expr → Option String
  | 0, _, _ => none
  | fuel + 1, schema, e =>
    let here := e.localNeed fuel
    let (l, r, xs) := e.collationOperands
    let inner := (l.toList ++ r.toList ++ xs).findSome? (Expr.collationNeed fuel schema)
    let filter := match e with
      | .call _ _ _ _ (some f) _ _ => Expr.collationNeed fuel schema f
      | _ => none
    let query := match e with
      | .exists q | .scalar q | .subColumn q _ _ => Query.collationNeed fuel schema q
      | .inQuery _ x q =>
        let cmp := match x, q.lastCore.resultExprs with
          | .vector _, _ => pairNeed fuel x (.scalar q)
          | _, some y :: _ => pairNeed fuel x y
          | _, _ => none
        (Query.collationNeed fuel schema q).or cmp
      | _ => none
    inner.or (filter.or (query.or here))

/-- The first unknown collation a query needs. -/
def Query.collationNeed : Nat → Schema → Query → Option String
  | 0, _, _ => none
  | fuel + 1, schema, .mk _ ctes first rest order limit offset =>
    let cores := first :: rest.map (·.2)
    let ofCtes := ctes.findSome? fun (.mk _ _ q) =>
      (Query.collationNeed fuel schema q).or (q.columnsNeed fuel)
    let ofCores := cores.findSome? (Core.collationNeed fuel schema)
    let exprs := order.map (fun (.mk e _ _) => e) ++ limit.toList ++ offset.toList
    let ofExprs := exprs.findSome? (Expr.collationNeed fuel schema)
    let width := (first.resultExprs).length
    let ofCompound :=
      if rest.any (fun (op, _) => op != .unionAll) then
        (List.range width).findSome? fun i => (compoundColumnFound fuel cores i).unknown?
      else none
    let ofOrder :=
      if rest.isEmpty then
        let results := first.resultExprs
        let aliases : List (String × Expr) := match first with
          | .select _ cols _ _ _ _ _ => cols.filterMap fun rc =>
            match rc with
            | .expr e (some a) _ => some (a, e)
            | _ => none
          | .values _ => []
        order.findSome? fun (.mk t _ _) => (termFound fuel results aliases t).unknown?
      else
        order.findSome? fun (.mk t _ _) =>
          match t with
          | .collate _ c => (CollationFound.named c).unknown?
          | _ =>
            match t.asInteger? with
            | some k => if k ≥ 1 then (compoundColumnFound fuel cores (k.toNat - 1)).unknown? else none
            | none => none
    ofCtes.or (ofCores.or (ofExprs.or (ofCompound.or ofOrder)))

/-- The first unknown collation one core of a query needs. -/
def Core.collationNeed : Nat → Schema → Core → Option String
  | 0, _, _ => none
  | fuel + 1, schema, core =>
    match core with
    | .values rows => rows.flatten.findSome? (Expr.collationNeed fuel schema)
    | .select distinct cols srcs filter groupBy having _ =>
      let ofSources := srcs.findSome? (Joined.collationNeed fuel schema)
      let exprs := cols.filterMap (fun rc => match rc with | .expr e _ _ => some e | _ => none) ++
        filter.toList ++ groupBy ++ having.toList
      let ofExprs := exprs.findSome? (Expr.collationNeed fuel schema)
      let results := core.resultExprs
      let ofDistinct :=
        if distinct then results.findSome? fun r => (resultFound fuel r).unknown? else none
      let ofGroups := groupBy.findSome? fun g => (termFound fuel results [] g).unknown?
      ofSources.or (ofExprs.or (ofDistinct.or ofGroups))

/-- The first unknown collation a joined source needs: its rows and its condition. -/
def Joined.collationNeed : Nat → Schema → Joined → Option String
  | 0, _, _ => none
  | fuel + 1, schema, .mk _ _ src on _ =>
    let ofSource := match src with
      | .table none n _ =>
        match schema.view? n with
        | some v => (Query.collationNeed fuel schema v.query).or (v.query.columnsNeed fuel)
        | none => none
      | .table _ _ _ => none
      | .query q _ => (Query.collationNeed fuel schema q).or (q.columnsNeed fuel)
      | .values rows _ => rows.flatten.findSome? (Expr.collationNeed fuel schema)
      | .call _ args _ => args.findSome? (Expr.collationNeed fuel schema)
    ofSource.or (on.bind (Expr.collationNeed fuel schema))

end

mutual

/-- The first unknown collation a statement needs, with the triggers it fires (`active`:
the triggers being read, which do not fire again). -/
def Stmt.collationNeed : Nat → Schema → List String → Stmt → Option String
  | 0, _, _, _ => none
  | fuel + 1, schema, active, stmt =>
    let ofCtes (ctes : List Cte) : Option String := ctes.findSome? fun (.mk _ _ q) =>
      (Query.collationNeed fuel schema q).or (q.columnsNeed fuel)
    let ofExprs (es : List Expr) : Option String := es.findSome? (Expr.collationNeed fuel schema)
    match stmt with
    | .query q => Query.collationNeed fuel schema q
    | .insert ctes _ t _ _ source upserts =>
      let ofSource := match source with
        | .values rows => ofExprs rows.flatten
        | .query q => Query.collationNeed fuel schema q
        | .defaults => none
      let ofUpserts := upserts.findSome? fun u =>
        ofExprs ((u.sets.getD []).map (·.2) ++ u.filter.toList)
      (ofCtes ctes).or (ofSource.or (ofUpserts.or (triggersNeed fuel schema active t.name .insert [])))
    | .update ctes _ t _ sets srcs filter =>
      let ofSources := srcs.findSome? (Joined.collationNeed fuel schema)
      (ofCtes ctes).or (ofSources.or ((ofExprs (sets.map (·.2) ++ filter.toList)).or
        (triggersNeed fuel schema active t.name .update (sets.flatMap (·.1)))))
    | .delete ctes t _ filter =>
      (ofCtes ctes).or ((ofExprs filter.toList).or (triggersNeed fuel schema active t.name .delete []))
    | .createTableAs _ _ _ q => (Query.collationNeed fuel schema q).or (q.columnsNeed fuel)
    | _ => none

/-- The first unknown collation the triggers a change fires need. -/
def triggersNeed : Nat → Schema → List String → String → ChangeKind → List String → Option String
  | 0, _, _, _, _, _ => none
  | fuel + 1, schema, active, table, k, changed =>
    let fired := schema.triggersOn table k .before changed ++ schema.triggersOn table k .after changed
    fired.findSome? fun tr =>
      if active.any (sameName · tr.name) then none
      else
        (tr.whenClause.bind (Expr.collationNeed fuel schema)).or
          (tr.body.findSome? (Stmt.collationNeed fuel schema (tr.name :: active)))

end

/-- The failure of a statement that needs a collation that does not exist. -/
def Stmt.collationFailure (schema : Schema) (stmt : Stmt) : Option String :=
  (Stmt.collationNeed 4096 schema [] stmt).map ("no such collation sequence: " ++ ·)

end Windowing.Sql
