import Windowing.Sql.Analysis
import Windowing.Sql.WindowFunction

set_option autoImplicit false

/-! # Evaluating expressions and queries

An expression is evaluated in a scope to a value that carries its affinity and collation
(`Typed`), which a comparison with it uses. A query is evaluated to its result set:

* the sources of a core are joined left to right, each row of the rows so far with each
  row of the next source that meets the join's condition (a `LEFT` join keeps a row that
  meets none with nulls, a `RIGHT` join adds the rows of the new source that met none);
* `WHERE` keeps the rows where it is true;
* an aggregate query forms groups of equal `GROUP BY` keys, in the order of the keys (one
  group of all rows when there are no keys); its other columns are read from one row of
  the group: the last, or, when the query has `min` or `max` aggregates, the last row at
  which they all took a new best value;
* `DISTINCT` keeps the first of equal rows; `UNION`, `INTERSECT` and `EXCEPT` give their
  distinct rows in order; `ORDER BY` sorts stably; `LIMIT` and `OFFSET` must be
  integers.

A recursive named query runs its first part, then repeatedly takes the oldest row found,
adds it to its result and runs its recursive part on that row alone, queueing what it
gives (for `UNION`, only rows not seen before), until the queue is empty or the limit is
reached. -/

namespace Windowing.Sql

/-- A value with what it carries for comparisons: its affinity and collation. -/
structure Typed where
  value : Value
  info : TypeInfo := {}
  deriving Inhabited

/-- The value of a number literal: an integer when it is one that fits (a leading minus
sign belongs to it, so that the least integer can be written), else a real. -/
def numberValue (t : String) (isFloat : Bool) : Value :=
  let neg := t.startsWith "-"
  let body := if neg then (t.drop 1).toString else t
  let real : Value := let f := (readNumber body).2; .real (if neg then -f else f)
  if isFloat then real
  else if body.startsWith "0x" || body.startsWith "0X" then
    let u := (body.drop 2).toString.toList.foldl (fun acc c => acc * 16 + hexValue c) 0
    let v := ofBits (UInt64.ofNat u)
    .int (if neg then wrapInt (0 - v) else v)
  else
    match readInt64 body with
    | (.exact, i) => .int (if neg then 0 - i else i)
    | (.edge, _) => if neg then .int minInt else real
    | _ => real

/-- Three-valued `AND`. -/
def and3 : Option Bool → Option Bool → Option Bool
  | some false, _ => some false
  | _, some false => some false
  | some true, some true => some true
  | _, _ => none

/-- Three-valued `OR`. -/
def or3 : Option Bool → Option Bool → Option Bool
  | some true, _ => some true
  | _, some true => some true
  | some false, some false => some false
  | _, _ => none

/-- A failure found by the name check, as a failure of the statement. -/
def liftCheck {α : Type} (r : Except String α) : Fallible α :=
  match r with
  | .ok a => .ok a
  | .error m => .error (SqlError.logic m)

/-- The failure of a value that must be an integer and is not. -/
def mismatchError : SqlError := { kind := .mismatch, message := "datatype mismatch" }

/-- A limit or offset: the value read with numeric affinity must be an integer. -/
def limitInt (v : Value) : Fallible Int :=
  match v.withAffinity .numeric with
  | .int i => pure i
  | _ => throw mismatchError

/-- Rows grouped by equal keys: the groups in the order of their keys, each with its rows
in order. -/
def groupRows (colls : List Collation) (keyed : List (List Value × Level)) : List (List Value × List Level) :=
  let groups := keyed.foldl (fun (acc : List (List Value × List Level)) (ks, lv) =>
    if acc.any (fun g => compareRows colls g.1 ks == .eq) then
      acc.map fun g => if compareRows colls g.1 ks == .eq then (g.1, g.2 ++ [lv]) else g
    else acc ++ [(ks, [lv])]) []
  groups.mergeSort fun a b => compareRows colls a.1 b.1 != .gt

/-- A frame of nulls: a source's row where the join found none. -/
def Frame.nulls (f : Frame) : Frame :=
  { f with values := f.columns.map fun _ => .null, marks := [], rowid := .null }

/-- Whether a row of a joined source agrees with the rows before it on a `USING` column
(compared as `=` compares them). -/
def usingEqual (left : List Frame) (r : Frame) (n : String) : Bool :=
  let leftCol := left.findSome? fun f =>
    (f.columns.zip f.values).find? fun (c, _) => sameName c.name n && !c.hidden
  let rightCol := (r.columns.zip r.values).find? fun (c, _) => sameName c.name n
  match leftCol, rightCol with
  | some (lc, lv), some (rc, rv) =>
    let li : TypeInfo := { affinity := lc.affinity, collation := lc.collation }
    let ri : TypeInfo := { affinity := rc.affinity, collation := rc.collation }
    compareUnder (comparisonAffinity li ri) (comparisonCollation li ri) lv rv == some .eq
  | _, _ => false

/-- The rows of the schema table: type, name, table, root page and text of each entry. -/
def schemaRows (db : Database) : List (Int × List Value) :=
  db.entries.zipIdx.map fun (e, i) =>
    ((i : Int) + 1,
      [.text e.kind.word, .text e.name, .text e.table, .int e.rootPage,
       match e.sql with
       | some s => .text s
       | none => .null])

/-- The aggregate calls of an expression (not looking into their arguments or into
subqueries): name, whether distinct, and arguments. -/
def Expr.aggregateCalls : Nat → Expr → List (String × List Expr)
  | 0, _ => []
  | fuel + 1, e =>
    let all (es : List Expr) : List (String × List Expr) := es.flatMap (Expr.aggregateCalls fuel)
    match e with
    | .call n _ args star filter _ windowSpec =>
      if windowSpec.isNone && isAggregateCall n (if star then 0 else args.length) then [(foldName n, args)]
      else all (args ++ filter.toList)
    | .unary _ a | .cast a _ | .collate a _ | .isNull _ a => Expr.aggregateCalls fuel a
    | .binary _ a b | .isOp _ a b => all [a, b]
    | .between _ a b c => all [a, b, c]
    | .inList _ a items => all (a :: items)
    | .inQuery _ a _ | .inTable _ a _ => Expr.aggregateCalls fuel a
    | .like _ _ a b esc => all (a :: b :: esc.toList)
    | .caseOf op whens other => all (op.toList ++ whens.flatMap (fun (x, y) => [x, y]) ++ other.toList)
    | .vector items => all items
    | _ => []

/-- The window calls of an expression, in the order its operands are read (not looking
into subqueries). -/
def Expr.windowCalls : Nat → Expr → List Expr
  | 0, _ => []
  | fuel + 1, e =>
    match e with
    | .call _ _ _ _ _ _ (some _) => [e]
    | _ => e.operands.flatMap (Expr.windowCalls fuel)

/-- Replace the window calls of an expression, in the same order, by the values given. -/
def Expr.fillWindows : Nat → Expr → StateM (List Value) Expr
  | 0, e => pure e
  | fuel + 1, e =>
    match e with
    | .call _ _ _ _ _ _ (some _) => do
      match ← get with
      | v :: rest =>
        set rest
        pure (.lit v)
      | [] => pure e
    | _ => e.mapOperandsM (Expr.fillWindows fuel)

/-- The rows of one core: each row's values with its sort key values, and how the keys
order. -/
structure CoreRows where
  rows : List (List Value × List Value)
  keys : List SortKey := []
  deriving Inhabited

/-- The expression under a `COLLATE`, and the collation it names. -/
def Expr.splitCollate : Expr → Expr × Option Collation
  | .collate x c => (x, Collation.ofName? c)
  | x => (x, none)

/-- Sort a compound's rows by `ORDER BY` terms that name result columns (by number or
name). -/
def orderByColumns (columns : List ColumnInfo) (order : List OrderTerm) (rows : List (List Value)) :
    List (List Value) :=
  if order.isEmpty then rows
  else
    let keys : List (Nat × SortKey) := order.map fun (.mk e desc nf) =>
      let (bare, explicit) := e.splitCollate
      let idx := match bare.asInteger? with
        | some k => k.toNat - 1
        | none =>
          match bare with
          | .column [] n _ => (columns.findIdx? fun c => sameName c.name n).getD 0
          | _ => 0
      (idx, { collation := explicit.getD ((columns.getD idx default).collation.getD .binary),
              desc, nullsFirst := nf })
    let withKeys := rows.map fun r => (r, keys.map fun (i, _) => r.getD i .null)
    (sortByKeys (keys.map (·.2)) withKeys).map (·.1)

/-- Combine a compound's rows so far with the next core's. -/
def combineRows (op : CompoundOp) (colls : List Collation) (acc more : List (List Value)) :
    List (List Value) :=
  let within (r : List Value) : Bool := more.any fun s => compareRows colls r s == .eq
  match op with
  | .unionAll => acc ++ more
  | .union => sortedDistinct colls (acc ++ more)
  | .intersect => sortedDistinct colls (acc.filter within)
  | .except => sortedDistinct colls (acc.filter fun r => !within r)

/-- Drop the offset's rows and keep the limit's. -/
def applyLimit {α : Type} (lim off : Option Int) (rows : List α) : List α :=
  let rows := match off with
    | some k => if k > 0 then rows.drop k.toNat else rows
    | none => rows
  match lim with
  | some l => if l ≥ 0 then rows.take l.toNat else rows
  | none => rows

/-- How two items of row values order (none when either is null). -/
def Typed.order (a b : Typed) : Option Ordering :=
  compareUnder (comparisonAffinity a.info b.info) (comparisonCollation a.info b.info) a.value b.value

/-- Compare two row values of one width. Equality holds when every pair is equal, fails
when a pair is not, and is unknown otherwise. An ordering is decided by the first pair
that is not equal, unknown when a pair before it has a null; the last pair decides with
the operator itself. -/
def compareRowValues (op : CompareOp) (as bs : List Typed) : Option Bool :=
  let orders := (as.zip bs).map fun (a, b) => a.order b
  let equal : Option Bool :=
    if orders.any (fun o => o.isSome && o != some .eq) then some false
    else if orders.any (·.isNone) then none
    else some true
  let strict : CompareOp := match op with
    | .le => .lt
    | .ge => .gt
    | o => o
  let rec lexical : List (Option Ordering) → Option Bool
    | [] => some true
    | [o] => o.map op.holds
    | o :: rest =>
      match o with
      | none => none
      | some .eq => lexical rest
      | some x => some (strict.holds x)
  match op with
  | .eq => equal
  | .ne => equal.map (!·)
  | _ => lexical orders

/-- Whether two row values are the same pair by pair, nulls the same as nulls (`IS`). -/
def sameRowValues (as bs : List Typed) : Bool :=
  (as.zip bs).all fun (a, b) =>
    match a.value, b.value with
    | .null, .null => true
    | .null, _ | _, .null => false
    | _, _ => a.order b == some .eq

/-- The comparison operator of a binary operator. -/
def BinaryOp.compareOp : BinaryOp → CompareOp
  | .ne => .ne
  | .lt => .lt
  | .le => .le
  | .gt => .gt
  | .ge => .ge
  | _ => .eq

/-- The first argument's type, whose collation a function call uses. -/
def callCollation (ts : List TypeInfo) : Collation :=
  ((ts.find? (·.collation.isSome)).bind (·.collation)).getD .binary

mutual

/-- Evaluate an expression in a scope; `grp` holds the rows of the current group of an
aggregate query. -/
def evalExpr : Nat → Env → Scope → Option (List Level) → Expr → Fallible Typed
  | 0, _, _, _, _ => throw (SqlError.logic "expression nested too deeply")
  | fuel + 1, env, sc, grp, e =>
    -- the width of an operand as a row value, and its items
    let widthOf (x : Expr) : Nat :=
      match x with
      | .vector xs => xs.length
      | .scalar q =>
        match queryColumns fuel env sc q with
        | .ok cs => cs.length
        | .error _ => 1
      | _ => 1
    let rowOf (x : Expr) : Fallible (List Typed) :=
      match x with
      | .vector xs => xs.mapM (evalExpr fuel env sc grp)
      | .scalar q => do
        let rs ← runQuery fuel env sc q
        let row := rs.rows.headD (rs.columns.map fun _ => .null)
        pure ((rs.columns.zip row).map fun (c, v) => ⟨v, { affinity := c.affinity, collation := c.collation }⟩)
      | x => do pure [← evalExpr fuel env sc grp x]
    let isRow (x : Expr) : Bool := widthOf x > 1
    match e with
    | .lit v => pure ⟨v, {}⟩
    | .number t isFloat => pure ⟨numberValue t isFloat, {}⟩
    | .param i => pure ⟨env.params.getD (i - 1) .null, {}⟩
    | .column qual n dq =>
      match resolveName sc qual n dq with
      | .ok (.column d i j) =>
        match sc.frame? d i with
        | some f =>
          let c := f.columns.getD j default
          pure ⟨f.values.getD j .null, { affinity := c.affinity, collation := c.collation, json := f.marks.getD j false }⟩
        | none => pure ⟨.null, {}⟩
      | .ok (.rowid d i) =>
        match sc.frame? d i with
        | some f => pure ⟨f.rowid, { affinity := some .integer }⟩
        | none => pure ⟨.null, {}⟩
      | .ok (.alias d x) => evalExpr fuel env (sc.drop d) (if d == 0 then grp else none) x
      | .ok (.literal v) => pure ⟨v, {}⟩
      | .error msg => throw (SqlError.logic msg)
    | .unary op a => do
      let ta ← evalExpr fuel env sc grp a
      let info := TypeInfo.combineAll [ta.info]
      match op with
      | .neg => pure ⟨negate ta.value, info⟩
      | .pos => pure ⟨ta.value, { ta.info with affinity := none }⟩
      | .bitNot => pure ⟨bitNot ta.value, info⟩
      | .not => pure ⟨ofTruth (ta.value.truth?.map (!·)), info⟩
    | .binary .and a b => do
      let ta ← evalExpr fuel env sc grp a
      if ta.value.truth? == some false then pure ⟨.int 0, {}⟩
      else
        let tb ← evalExpr fuel env sc grp b
        pure ⟨ofTruth (and3 ta.value.truth? tb.value.truth?), TypeInfo.combine ta.info tb.info⟩
    | .binary .or a b => do
      let ta ← evalExpr fuel env sc grp a
      if ta.value.truth? == some true then pure ⟨.int 1, {}⟩
      else
        let tb ← evalExpr fuel env sc grp b
        pure ⟨ofTruth (or3 ta.value.truth? tb.value.truth?), TypeInfo.combine ta.info tb.info⟩
    | .binary op a b =>
      if op.isComparison && (isRow a || isRow b) then do
        let ra ← rowOf a
        let rb ← rowOf b
        pure ⟨ofTruth (compareRowValues op.compareOp ra rb), {}⟩
      else do
      let ta ← evalExpr fuel env sc grp a
      let tb ← evalExpr fuel env sc grp b
      let info := TypeInfo.combine ta.info tb.info
      let cmp (c : CompareOp) : Typed :=
        let aff := comparisonAffinity ta.info tb.info
        let coll := comparisonCollation ta.info tb.info
        ⟨ofTruth ((compareUnder aff coll ta.value tb.value).map c.holds), info⟩
      match op with
      | .eq => pure (cmp .eq)
      | .ne => pure (cmp .ne)
      | .lt => pure (cmp .lt)
      | .le => pure (cmp .le)
      | .gt => pure (cmp .gt)
      | .ge => pure (cmp .ge)
      | .add => pure ⟨arith .add ta.value tb.value, info⟩
      | .sub => pure ⟨arith .sub ta.value tb.value, info⟩
      | .mul => pure ⟨arith .mul ta.value tb.value, info⟩
      | .div => pure ⟨arith .div ta.value tb.value, info⟩
      | .rem => pure ⟨arith .rem ta.value tb.value, info⟩
      | .bitAnd => pure ⟨bitOp .and ta.value tb.value, info⟩
      | .bitOr => pure ⟨bitOp .or ta.value tb.value, info⟩
      | .shl => pure ⟨bitOp .shl ta.value tb.value, info⟩
      | .shr => pure ⟨bitOp .shr ta.value tb.value, info⟩
      | .concat => pure ⟨concatValues ta.value tb.value, info⟩
      | .arrow => do
        let (v, j) ← jsonArrow false ta.value tb.value
        pure ⟨v, { info with json := j }⟩
      | .arrow2 => do pure ⟨(← jsonArrow true ta.value tb.value).1, info⟩
      | .and | .or => pure ⟨.null, info⟩
    | .isOp negated a b =>
      if isRow a || isRow b then do
        let ra ← rowOf a
        let rb ← rowOf b
        pure ⟨.int (if sameRowValues ra rb != negated then 1 else 0), {}⟩
      else do
      let ta ← evalExpr fuel env sc grp a
      let tb ← evalExpr fuel env sc grp b
      let same : Bool := match ta.value, tb.value with
        | .null, .null => true
        | .null, _ => false
        | _, .null => false
        | x, y =>
          compareUnder (comparisonAffinity ta.info tb.info) (comparisonCollation ta.info tb.info) x y == some .eq
      pure ⟨.int (if same != negated then 1 else 0), TypeInfo.combine ta.info tb.info⟩
    | .isNull negated a => do
      let ta ← evalExpr fuel env sc grp a
      pure ⟨.int (if ta.value.isNull != negated then 1 else 0), {}⟩
    | .between negated x lo hi =>
      if isRow x then do
        let rx ← rowOf x
        let rl ← rowOf lo
        let rh ← rowOf hi
        let r := and3 (compareRowValues .ge rx rl) (compareRowValues .le rx rh)
        pure ⟨ofTruth (if negated then r.map (!·) else r), {}⟩
      else do
      let tx ← evalExpr fuel env sc grp x
      let tl ← evalExpr fuel env sc grp lo
      let th ← evalExpr fuel env sc grp hi
      let ge := (compareUnder (comparisonAffinity tx.info tl.info) (comparisonCollation tx.info tl.info)
        tx.value tl.value).map CompareOp.ge.holds
      let le := (compareUnder (comparisonAffinity tx.info th.info) (comparisonCollation tx.info th.info)
        tx.value th.value).map CompareOp.le.holds
      let r := and3 ge le
      pure ⟨ofTruth (if negated then r.map (!·) else r), {}⟩
    | .inList negated x items => do
      let tx ← evalExpr fuel env sc grp x
      if items.isEmpty then pure ⟨.int (if negated then 1 else 0), {}⟩
      else if tx.value.isNull then pure ⟨.null, {}⟩
      else
        let tis ← items.mapM (evalExpr fuel env sc grp)
        let aff := tx.info.affinity.getD .blob
        let coll := tx.info.collation.getD .binary
        let hit := tis.any fun t => compareUnder aff coll tx.value t.value == some .eq
        let r : Option Bool := if hit then some true else if tis.any (·.value.isNull) then none else some false
        pure ⟨ofTruth (if negated then r.map (!·) else r), {}⟩
    | .inQuery negated x q =>
      if isRow x then do
        let rx ← rowOf x
        let rs ← runQuery fuel env sc q
        let infos : List TypeInfo := rs.columns.map fun c => { affinity := c.affinity, collation := c.collation }
        let eqs := rs.rows.map fun row =>
          compareRowValues .eq rx ((infos.zip row).map fun (i, v) => ⟨v, i⟩)
        let r : Option Bool :=
          if eqs.any (· == some true) then some true
          else if eqs.all (· == some false) then some false
          else none
        pure ⟨ofTruth (if negated then r.map (!·) else r), {}⟩
      else do
      let tx ← evalExpr fuel env sc grp x
      let rs ← runQuery fuel env sc q
      let col := rs.columns.headD default
      let rinfo : TypeInfo := { affinity := col.affinity, collation := col.collation }
      let vals := rs.rows.map (·.headD .null)
      if vals.isEmpty then pure ⟨.int (if negated then 1 else 0), {}⟩
      else if tx.value.isNull then pure ⟨.null, {}⟩
      else
        let aff := comparisonAffinity tx.info rinfo
        let coll := comparisonCollation tx.info rinfo
        let hit := vals.any fun v => compareUnder aff coll tx.value v == some .eq
        let r : Option Bool := if hit then some true else if vals.any (·.isNull) then none else some false
        pure ⟨ofTruth (if negated then r.map (!·) else r), {}⟩
    | .inTable negated x t =>
      evalExpr fuel env sc grp (.inQuery negated x
        (.mk false [] (.select false [.all] [.mk .inner false (.table none t none) none []] none [] none []) [] [] none none))
    | .like kind negated a b esc => do
      let ta ← evalExpr fuel env sc grp a
      let tb ← evalExpr fuel env sc grp b
      let te ← esc.mapM (evalExpr fuel env sc grp)
      let fname := match kind with
        | .glob => "glob"
        | _ => "like"
      let (v, _) ← callFunction env.call fname (([tb.value, ta.value] ++ te.toList.map (·.value)).map (·, false))
      pure ⟨ofTruth (if negated then v.truth?.map (!·) else v.truth?), {}⟩
    | .call n distinct args star filter order windowSpec =>
      let argc := if star then 0 else args.length
      let lname := foldName n
      if windowSpec.isSome then throw (SqlError.logic ("misuse of window function " ++ n ++ "()"))
      else if isAggregateCall n argc then
        match grp with
        | some rows => do
          let v ← evalAggregate fuel env sc rows lname distinct args (star || argc == 0) filter order
          pure ⟨v, { json := lname == "json_group_array" || lname == "json_group_object" }⟩
        | none => throw (SqlError.logic ("misuse of aggregate function " ++ n ++ "()"))
      else if lname == "coalesce" || lname == "ifnull" then do
        let r ← foldFromM args (none : Option Typed) fun acc a =>
          match acc with
          | some t => if t.value.isNull then some <$> evalExpr fuel env sc grp a else pure acc
          | none => some <$> evalExpr fuel env sc grp a
        pure ⟨(r.map (·.value)).getD .null, {}⟩
      else if lname == "iif" then do
        let tc ← evalExpr fuel env sc grp (args.headD (.lit .null))
        let t ← evalExpr fuel env sc grp (args.getD (if tc.value.truth? == some true then 1 else 2) (.lit .null))
        pure ⟨t.value, {}⟩
      else if lname == "likely" || lname == "unlikely" || lname == "likelihood" then
        evalExpr fuel env sc grp (args.headD (.lit .null))
      else do
        let tas ← args.mapM (evalExpr fuel env sc grp)
        let infos := tas.map (·.info)
        let (v, j) ← callFunction { env.call with collation := callCollation infos } lname
          (tas.map fun t => (t.value, t.info.json))
        pure ⟨v, { TypeInfo.combineAll infos with json := j }⟩
    | .cast a t => do
      let ta ← evalExpr fuel env sc grp a
      pure ⟨castValue t ta.value, { ta.info with affinity := some (typeAffinity t) }⟩
    | .collate a c => do
      let ta ← evalExpr fuel env sc grp a
      -- a collation that does not exist is refused before the statement runs where it
      -- is needed; where it is not, it stands for none
      let coll := (Collation.ofName? c).getD .binary
      pure ⟨ta.value, { affinity := ta.info.affinity, collation := some coll, explicit := true, json := ta.info.json }⟩
    | .caseOf operand whens other => do
      let base ← operand.mapM (evalExpr fuel env sc grp)
      let pick ← foldFromM whens (none : Option Expr) fun acc (w, r) =>
        match acc with
        | some _ => pure acc
        | none => do
          let tw ← evalExpr fuel env sc grp w
          let hit : Bool := match base with
            | some tb =>
              compareUnder (comparisonAffinity tb.info tw.info) (comparisonCollation tb.info tw.info)
                tb.value tw.value == some .eq
            | none => tw.value.truth? == some true
          pure (if hit then some r else none)
      match pick <|> other with
      | some r => do
        let t ← evalExpr fuel env sc grp r
        pure ⟨t.value, exprType fuel env sc e⟩
      | none => pure ⟨.null, exprType fuel env sc e⟩
    | .exists q => do
      let rs ← runQuery fuel env sc q
      pure ⟨.int (if rs.rows.isEmpty then 0 else 1), {}⟩
    | .scalar q => do
      let rs ← runQuery fuel env sc q
      let col := rs.columns.headD default
      pure ⟨(rs.rows.headD []).headD .null, { affinity := col.affinity }⟩
    | .raise kind msg =>
      match kind with
      | .ignore => throw { kind := .ignored, message := "" }
      | .rollback => throw { kind := .raised, message := msg, undo := .transaction }
      | .abort => throw { kind := .raised, message := msg }
      | .fail => throw { kind := .raised, message := msg, undo := .nothing }
    | .vector _ => throw (SqlError.logic "row value misused")
    | .subColumn q i _ => do
      let rs ← runQuery fuel env sc q
      let col := rs.columns.getD i default
      pure ⟨(rs.rows.headD []).getD i .null, { affinity := col.affinity }⟩

/-- An aggregate over the rows of a group: each row (that passes the filter) gives its
arguments, the rows taken in the aggregate's order when it has one. -/
def evalAggregate : Nat → Env → Scope → List Level → String → Bool → List Expr → Bool → Option Expr →
    List OrderTerm → Fallible Value
  | 0, _, _, _, _, _, _, _, _, _ => throw (SqlError.logic "expression nested too deeply")
  | fuel + 1, env, sc, rows, name, distinct, args, star, filter, order => do
    if distinct && args.length != 1 then
      throw (SqlError.logic "DISTINCT aggregates must have exactly one argument")
    let outer := sc.drop 1
    let rows ← if order.isEmpty then pure rows else do
      let keyed ← rows.mapM fun lv => do
        let ks ← order.mapM fun (.mk e _ _) => do pure (← evalExpr fuel env (lv :: outer) none e).value
        pure (lv, ks)
      let keys : List SortKey := order.map fun (.mk e desc nf) =>
        { collation := (exprType fuel env sc e).collation.getD .binary, desc, nullsFirst := nf }
      pure ((sortByKeys keys keyed).map (·.1))
    let argRows ← foldFromM rows ([] : List (List Marked)) fun acc lv => do
      let rsc : Scope := lv :: outer
      let keep ← match filter with
        | some f => do pure ((← evalExpr fuel env rsc none f).value.truth? == some true)
        | none => pure true
      if keep then
        let vs ← args.mapM fun a => do
          let t ← evalExpr fuel env rsc none a
          pure (t.value, t.info.json)
        pure (acc ++ [vs])
      else pure acc
    let coll := match args.head? with
      | some a => (exprType fuel env sc a).collation.getD .binary
      | none => .binary
    let argRows :=
      if distinct then distinctBy [coll] (fun (r : List Marked) => (r.take 1).map (·.1)) argRows else argRows
    if isJsonAggregate name then do pure (← aggregateJson name argRows).1
    else aggregateOf name coll star (argRows.map (·.map (·.1)))

/-- Run a query in a scope. -/
def runQuery : Nat → Env → Scope → Query → Fallible ResultSet
  | 0, _, _, _ => throw (SqlError.logic "query nested too deeply")
  | fuel + 1, env, sc, q =>
    match q with
    | .mk recursive withs first rest order limit offset => do
      let columns ← liftCheck (queryColumns fuel env sc q)
      let env := env.withCtes recursive withs
      let lim ← limit.mapM fun e => do limitInt (← evalExpr fuel env [] none e).value
      let off ← offset.mapM fun e => do limitInt (← evalExpr fuel env [] none e).value
      let colls := columns.map fun c => c.collation.getD .binary
      let firstOut ← runCore fuel env sc first (if rest.isEmpty then order else [])
      let rows ← match rest, first with
        | [], .select .. => pure ((sortByKeys firstOut.keys firstOut.rows).map (·.1))
        | _, _ => do
          let combined ← foldFromM rest (firstOut.rows.map (·.1)) fun acc (op, core) => do
            let more ← runCore fuel env sc core []
            pure (combineRows op colls acc (more.rows.map (·.1)))
          pure (orderByColumns columns order combined)
      pure { columns, rows := applyLimit lim off rows }

/-- Run one core of a query; `order` is the query's `ORDER BY` when this core is all of
it. -/
def runCore : Nat → Env → Scope → Core → List OrderTerm → Fallible CoreRows
  | 0, _, _, _, _ => throw (SqlError.logic "query nested too deeply")
  | fuel + 1, env, sc, core, order =>
    match core with
    | .values rows => do
      let out ← rows.mapM fun row => do
        let vs ← row.mapM fun e => do pure (← evalExpr fuel env (({} : Level) :: sc) none e).value
        pure (vs, ([] : List Value))
      pure { rows := out }
    | .select distinct cols srcs filter groupBy having windows => do
      let (frames, combos) ← joinRows fuel env sc srcs
      let projections ← liftCheck (expandColumns frames cols)
      let aliases : List (String × Expr) := projections.filterMap fun p =>
        match p with
        | .expr e (some a) _ => some (a, e)
        | _ => none
      let isAggregate := !groupBy.isEmpty ||
        projections.any (fun p => match p with | .expr e _ _ => Expr.hasAggregate 64 e | _ => false) ||
        (having.map (Expr.hasAggregate 64)).getD false ||
        order.any (fun (.mk e _ _) => Expr.hasAggregate 64 e)
      let here : Level := { frames, aliases }
      let typeOf (x : Expr) : Collation := (exprType fuel env (here :: sc) x).collation.getD .binary
      let colls := projections.map fun p =>
        match p with
        | .slot _ _ info => info.collation.getD .binary
        | .expr x _ _ => typeOf x
      let aliasIndex (x : Expr) : Option Nat :=
        match x with
        | .column [] n _ => projections.findIdx? fun p =>
            match p with
            | .expr _ (some a) _ => sameName a n
            | _ => false
        | _ => none
      let sortKeys : List SortKey := order.map fun (.mk x desc nf) =>
        let (bare, explicit) := x.splitCollate
        let coll := match explicit with
          | some c => c
          | none =>
            match bare.asInteger? with
            | some k => colls.getD (k.toNat - 1) .binary
            | none =>
              match aliasIndex bare with
              | some k => colls.getD k .binary
              | none => typeOf x
        { collation := coll, desc, nullsFirst := nf }
      -- the expressions of the result columns (none for a column `*` stands for) and of
      -- the order terms, in which window calls are replaced by their values
      let projExprs : List (Option Expr) := projections.map fun p =>
        match p with
        | .expr x _ _ => some x
        | .slot _ _ _ => none
      let orderExprs : List Expr := order.map fun (.mk x _ _) => x
      let project (lv : Level) (g : Option (List Level)) (xs : List (Option Expr)) : Fallible (List Value) :=
        (projections.zip xs).mapM fun (p, x?) =>
          match p, x? with
          | .slot fi ci _, _ => pure ((lv.frames.getD fi default).values.getD ci .null)
          | _, some x => do pure (← evalExpr fuel env (lv :: sc) g x).value
          | _, none => pure .null
      let keysOf (lv : Level) (g : Option (List Level)) (vals : List Value) (xs : List Expr) :
          Fallible (List Value) :=
        xs.mapM fun x =>
          let bare := x.splitCollate.1
          match bare.asInteger? with
          | some k => pure (vals.getD (k.toNat - 1) .null)
          | none =>
            match aliasIndex bare with
            | some k => pure (vals.getD k .null)
            | none => do pure (← evalExpr fuel env ({ lv with aliases } :: sc) g x).value
      let kept ← combos.filterM fun lv =>
        match filter with
        | some f => do pure ((← evalExpr fuel env ({ lv with aliases } :: sc) none f).value.truth? == some true)
        | none => pure true
      -- the rows before the result columns are read: each row, or for an aggregate query
      -- each group (that `HAVING` keeps) with the row its other columns are read from
      let contexts : List (Level × Option (List Level)) ← if !isAggregate then pure (kept.map (·, none)) else do
        let groupKey (lv : Level) (g : Expr) : Fallible Value :=
          match g.splitCollate.1.asInteger? with
          | some k =>
            match projections[k.toNat - 1]? with
            | some (.slot fi ci _) => pure ((lv.frames.getD fi default).values.getD ci .null)
            | some (.expr x _ _) => do pure (← evalExpr fuel env (lv :: sc) none x).value
            | none => pure .null
          | none => do pure (← evalExpr fuel env ({ lv with aliases } :: sc) none g).value
        let groupColls := groupBy.map fun g =>
          let (bare, explicit) := g.splitCollate
          match explicit with
          | some c => c
          | none =>
            match bare.asInteger? with
            | some k => colls.getD (k.toNat - 1) .binary
            | none => (exprType fuel env ({ here with aliases } :: sc) g).collation.getD .binary
        let keyed ← kept.mapM fun lv => do
          let ks ← groupBy.mapM (groupKey lv)
          pure (ks, lv)
        let groups : List (List Value × List Level) :=
          if groupBy.isEmpty then [([], kept)] else groupRows groupColls keyed
        -- the min and max aggregates choose the row the other columns are read from
        let calls := (projections.flatMap fun p =>
            match p with
            | .expr x _ _ => Expr.aggregateCalls 64 x
            | _ => []) ++ (having.toList ++ order.map (fun (t : OrderTerm) => match t with | .mk x _ _ => x)).flatMap
              (Expr.aggregateCalls 64)
        let minmax : List (Bool × Expr × Collation) := calls.filterMap fun (n, args) =>
          match args with
          | [a] => if n == "min" || n == "max" then some (n == "max", a, typeOf a) else none
          | _ => none
        let emptyRow : Level := { frames := frames.map Frame.nulls }
        let representative (rows : List Level) : Fallible Level := do
          let init : Option Level × List (Option Value) := (none, minmax.map fun _ => none)
          let (rep, _) ← foldFromM rows init fun (rep, bests) lv => do
            let vals ← minmax.mapM fun (_, a, _) => do pure (← evalExpr fuel env (lv :: sc) none a).value
            let steps := ((minmax.zip vals).zip bests).map fun (((isMax, _, coll), v), best) =>
              minMaxStep isMax coll v best
            pure (if steps.any (·.1) then rep else some lv, steps.map (·.2))
          pure (rep.getD emptyRow)
        foldFromM groups ([] : List (Level × Option (List Level))) fun acc (_, rows) => do
          let rep ← representative rows
          let ok ← match having with
            | some h => do pure ((← evalExpr fuel env ({ rep with aliases } :: sc) (some rows) h).value.truth? == some true)
            | none => pure true
          pure (if ok then acc ++ [(rep, some rows)] else acc)
      let windowCalls := (projExprs.filterMap id ++ orderExprs).flatMap (Expr.windowCalls 64)
      let out ← if windowCalls.isEmpty then
          contexts.mapM fun (lv, g) => do
            let vals ← project lv g projExprs
            let ks ← keysOf lv g vals orderExprs
            pure (vals, ks)
        else do
          let named ← liftCheck (resolveNamedWindows windows)
          let columns ← windowCalls.mapM fun c => windowColumn fuel env sc here named c contexts
          -- the rows come out as the windows sort them, the first window's order first
          let sequence := columns.reverse.foldl (fun (seq : List Nat) (_, ranks) =>
            seq.mergeSort fun a b => ranks.getD a 0 ≤ ranks.getD b 0) (List.range contexts.length)
          sequence.mapM fun i => do
            let (lv, g) := contexts.getD i default
            let values := columns.map fun (vs, _) => vs.getD i .null
            let (xs, rest) := (projExprs.mapM fun (x? : Option Expr) => x?.mapM (Expr.fillWindows 64)).run values
            let ys := (orderExprs.mapM (Expr.fillWindows 64)).run' rest
            let vals ← project lv g xs
            let ks ← keysOf lv g vals ys
            pure (vals, ks)
      pure { rows := if distinct then distinctBy colls (·.1) out else out, keys := sortKeys }

/-- The values of a window call for the rows before the result columns are read (in the
order they came), and the rank each row sorts by in the call's window. -/
def windowColumn : Nat → Env → Scope → Level → List (String × Window) → Expr →
    List (Level × Option (List Level)) → Fallible (List Value × List Nat)
  | 0, _, _, _, _, _, _ => throw (SqlError.logic "query nested too deeply")
  | fuel + 1, env, sc, here, named, call, contexts =>
    match call with
    | .call n _ args star filter _ (some spec) => do
      let w ← liftCheck (resolveWindow named spec)
      let rows ← contexts.mapM fun (lv, g) => do
        let at_ (e : Expr) : Fallible Typed := evalExpr fuel env (lv :: sc) g e
        let partition ← w.partition.mapM fun e => do pure (← at_ e).value
        let keys ← w.order.mapM fun (.mk e _ _) => do pure (← at_ e).value
        let args ← args.mapM fun a => do
          let t ← at_ a
          pure (t.value, t.info.json)
        let counted ← match filter with
          | some f => do pure ((← at_ f).value.truth? == some true)
          | none => pure true
        pure ({ partition, keys, args, counted } : WindowRow)
      let typeOf (x : Expr) : Collation := (exprType fuel env (here :: sc) x).collation.getD .binary
      let partColls := w.partition.map typeOf
      let sortKeys : List SortKey := w.order.map fun (.mk x desc nf) =>
        { collation := typeOf x, desc, nullsFirst := nf }
      let coll := match args.head? with
        | some a => typeOf a
        | none => .binary
      let offset (b : FrameBound) : Fallible (Option Value) :=
        match b with
        | .preceding e | .following e => do pure (some (← evalExpr fuel env [] none e).value)
        | _ => pure none
      let (startOff, finishOff) ← if contexts.isEmpty then pure (none, none) else do
        w.checkOffsets (← offset w.start) (← offset w.finish)
      let vals ← windowValues (foldName n) (star || args.isEmpty) coll w partColls sortKeys startOff finishOff rows
      pure (vals, keyRanks partColls sortKeys rows)
    | _ => throw (SqlError.logic "misuse of window function")

/-- Join the sources of a core: their frames, and the rows of the join. -/
def joinRows : Nat → Env → Scope → List Joined → Fallible (List Frame × List Level)
  | 0, _, _, _ => throw (SqlError.logic "query nested too deeply")
  | fuel + 1, env, sc, srcs => do
    let templates ← liftCheck (joinFrames fuel env sc srcs)
    let init : List Frame × List Level := ([], [{}])
    foldFromM (srcs.zip templates) init fun (done, combos) (j, tpl) =>
      match j with
      | .mk kind _ src on _ => do
        -- a table function's arguments may read the sources before it, so its rows are
        -- found for each row of those
        let fixed ← match src with
          | .call .. => pure none
          | _ => some <$> sourceRows fuel env sc src tpl
        let rowsFor (lv : Level) : Fallible (List Frame) :=
          match fixed with
          | some rows => pure rows
          | none => sourceRows fuel env ({ frames := lv.frames } :: sc) src tpl
        let meets (lv : Level) (r : Frame) : Fallible Bool :=
          if !(tpl.merged.all fun n => usingEqual lv.frames r n) then pure false
          else
            match on with
            | some c => do
              pure ((← evalExpr fuel env ({ frames := lv.frames ++ [r] } :: sc) none c).value.truth? == some true)
            | none => pure true
        let step ← foldFromM combos (([] : List Level), ([] : List Nat)) fun (acc, seen) lv => do
          let rows ← rowsFor lv
          let hits ← rows.zipIdx.filterM fun (r, _) => meets lv r
          let adds : List Level := hits.map fun (r, _) => { frames := lv.frames ++ [r] }
          let adds := if adds.isEmpty && (kind == .left || kind == .full) then
              [{ frames := lv.frames ++ [tpl.nulls] }]
            else adds
          pure (acc ++ adds, seen ++ hits.map (·.2))
        let extra : List Level :=
          if kind == .right || kind == .full then
            (fixed.getD []).zipIdx.filterMap fun (r, i) =>
              if step.2.contains i then none else some { frames := done.map Frame.nulls ++ [r] }
          else []
        pure (done ++ [tpl], step.1 ++ extra)

/-- The rows of a source, as frames of its template. -/
def sourceRows : Nat → Env → Scope → Source → Frame → Fallible (List Frame)
  | 0, _, _, _, _ => throw (SqlError.logic "query nested too deeply")
  | fuel + 1, env, sc, src, tpl =>
    let ofResult (rs : ResultSet) : List Frame := rs.rows.map fun vs => { tpl with values := vs }
    match src with
    | .table schema n _ =>
      match (if schema.isNone then env.cte? n else none) with
      | some (b, visible) => do
        let rs ← cteRows fuel env b visible
        pure (ofResult rs)
      | none =>
        match env.schema.table? n with
        | some t => pure ((env.db.rows t.name).map fun r => { tpl with values := r.values, rowid := .int r.rowid })
        | none =>
          match env.schema.view? n with
          | some v => do
            let rs ← runQuery fuel { env with ctes := [], inTrigger := false } [] v.query
            pure (ofResult rs)
          | none =>
            if isSchemaTableName n then
              pure ((schemaRows env.db).map fun (i, vs) => { tpl with values := vs, rowid := .int i })
            else throw (SqlError.logic ("no such table: " ++ n))
    | .query q _ => do
      let rs ← runQuery fuel env sc q
      pure (ofResult rs)
    | .values rows _ => do
      let rs ← runQuery fuel env sc (.mk false [] (.values rows) [] [] none none)
      pure (ofResult rs)
    | .call n args _ => do
      let vals ← args.mapM fun e => do pure (← evalExpr fuel env sc none e).value
      let rows ← tableFunctionRows n vals
      pure (rows.map fun (vs, marks) => { tpl with values := vs, marks })

/-- The rows of a named query. -/
def cteRows : Nat → Env → CteBinding → List CteBinding → Fallible ResultSet
  | 0, _, _, _ => throw (SqlError.logic "query nested too deeply")
  | fuel + 1, env, b, visible =>
    match b.body with
    | .rows rs => pure rs
    | .pending .. => throw { kind := .unsettled, message := b.name }
    | .query q cols _ =>
      let inner : Env := { env with ctes := visible }
      let rename (infos : List ColumnInfo) : List ColumnInfo :=
        if cols.isEmpty then infos else (cols.zip infos).map fun (c, info) => { info with name := c }
      if Query.namesSource b.name 64 q then
        match q with
        | .mk _ _ first rest _ limit offset => do
          let namesIt (c : Core) : Bool := Query.namesSource b.name 64 (.mk false [] c [] [] none none)
          let setupRest := rest.takeWhile fun (_, c) => !namesIt c
          let recursivePart := rest.drop setupRest.length
          let distinct := match recursivePart.head? with
            | some (.union, _) => true
            | _ => false
          let setup ← runQuery fuel inner [] (.mk false [] first setupRest [] none none)
          let columns := rename setup.columns
          let colls := columns.map fun c => c.collation.getD .binary
          let lim ← limit.mapM fun e => do limitInt (← evalExpr fuel inner [] none e).value
          let off ← offset.mapM fun e => do limitInt (← evalExpr fuel inner [] none e).value
          let skip : Nat := match off with
            | some k => if k > 0 then k.toNat else 0
            | none => 0
          let bound : Option Nat := lim.bind fun l => if l < 0 then none else some (l.toNat + skip)
          let initial := if distinct then distinctBy colls id setup.rows else setup.rows
          if bound == some 0 then pure { columns, rows := [] }
          else do
            let rows ← cteLoop fuel inner b.name visible columns recursivePart distinct bound initial initial []
            pure { columns, rows := rows.drop skip }
      else do
        let rs ← runQuery fuel inner [] q
        pure { rs with columns := rename rs.columns }

/-- The rounds of a recursive named query: take the oldest queued row into the result and
run the recursive part on it. -/
def cteLoop : Nat → Env → String → List CteBinding → List ColumnInfo → List (CompoundOp × Core) → Bool →
    Option Nat → List (List Value) → List (List Value) → List (List Value) → Fallible (List (List Value))
  | 0, _, _, _, _, _, _, _, _, _, _ => throw (SqlError.logic "recursive query did not end")
  | fuel + 1, env, name, visible, cols, recursivePart, distinct, bound, queue, seen, out =>
    match queue with
    | [] => pure out
    | row :: more =>
      let out := out ++ [row]
      if bound.any (out.length ≥ ·) then pure out
      else do
        let self : CteBinding := { name, body := .rows ⟨cols, [row]⟩ }
        let selfEnv : Env := { env with ctes := self :: visible }
        let produced ← foldFromM recursivePart ([] : List (List Value)) fun acc (_, core) => do
          let r ← runCore fuel selfEnv [] core []
          pure (acc ++ r.rows.map (·.1))
        let colls := cols.map fun c => c.collation.getD .binary
        let (fresh, seen) :=
          if distinct then
            produced.foldl (fun (fr, sn) r =>
              if sn.any (fun s => compareRows colls s r == .eq) then (fr, sn) else (fr ++ [r], sn ++ [r]))
              (([] : List (List Value)), seen)
          else (produced, seen)
        cteLoop fuel env name visible cols recursivePart distinct bound (more ++ fresh) seen out

end

/-- How much evaluation may nest and loop. -/
def evalFuel : Nat := 1000000

/-- Run a query. -/
def Env.query (env : Env) (q : Query) : Fallible ResultSet := runQuery evalFuel env [] q

/-- Evaluate an expression with no sources in scope. -/
def Env.evalClosed (env : Env) (e : Expr) : Fallible Value := do
  pure (← evalExpr evalFuel env [] none e).value

end Windowing.Sql
