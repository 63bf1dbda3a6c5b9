import Windowing.Sql.Scope
import Windowing.Sql.JsonEach

set_option autoImplicit false

/-! # What a query produces, and what a statement names

Before a statement runs, every name in it is looked up: tables, views and named queries in
its `FROM` clauses, columns in its expressions, and functions with the number of their
arguments. The first failure refuses the statement, whatever rows the tables hold.

A query's result columns are named by their alias, by the column they take, or by their
text; a repeated name gets a `:N` suffix. Each column keeps the affinity and collation of
its expression, which a view or a subquery passes on to the queries that use it.

An expression is walked from the outside in, each node before its operands, and a later
failure replaces an earlier one. A column that is not found ends the walk, and so does
any node met after a failure was found; a call, though, goes on after its arguments to the
operands after it. In a list of expressions, the first expression that fails ends the
check. Some failures are found only when the statement's program is made, after every name
was found: a row value where one value is wanted, a subquery of the wrong width, a
hexadecimal literal too large, `RAISE` outside a trigger. The parts of a table's own
definition (`CHECK` constraints, indexed expressions and conditions, generated columns)
may hold no parameters and no subqueries, and the indexed expressions and generated columns
no qualified names and no functions whose result may change. The clauses of a query are checked in the order: the sources, the limit, the
result columns, `HAVING`, `WHERE` (with the `ON` conditions), `ORDER BY`, `GROUP BY`. -/

namespace Windowing.Sql

/-- Whether an expression holds an aggregate call outside subqueries (a call with a window
is no aggregate, though its arguments may hold one). -/
def Expr.hasAggregate : Nat → Expr → Bool
  | 0, _ => false
  | fuel + 1, e =>
    let any (es : List Expr) : Bool := es.any (Expr.hasAggregate fuel)
    match e with
    | .call n _ args star filter _ windowSpec =>
      (windowSpec.isNone && isAggregateCall n (if star then 0 else args.length)) || any args || any filter.toList
    | .unary _ a | .cast a _ | .collate a _ | .isNull _ a => Expr.hasAggregate fuel a
    | .binary _ a b | .isOp _ a b => any [a, b]
    | .between _ a b c => any [a, b, c]
    | .inList _ a items => any (a :: items)
    | .inQuery _ a _ | .inTable _ a _ => Expr.hasAggregate fuel a
    | .like _ _ a b esc => any (a :: b :: esc.toList)
    | .caseOf op whens other => any (op.toList ++ whens.flatMap (fun (x, y) => [x, y]) ++ other.toList)
    | .vector items => any items
    | _ => false

/-- The ordinal of a number: `1st`, `2nd`, `3rd`, `4th`, `11th`, … -/
def ordinalText (n : Nat) : String :=
  let x := n % 10
  let x := if x ≥ 4 || (n / 10) % 10 == 1 then 0 else x
  toString n ++ (match x with | 1 => "st" | 2 => "nd" | 3 => "rd" | _ => "th")

/-- The integer an expression is when it is an integer literal. -/
def Expr.asInteger? : Expr → Option Int
  | .number t false =>
    if t.startsWith "-" then ((t.drop 1).toString.toNat?).map (fun n => -(n : Int)) else (t.toNat?).map (fun n => (n : Int))
  | .unary .pos e => e.asInteger?
  | _ => none

/-- Checking names: the last failure found so far; a failure that ends the check at once
is thrown. -/
abbrev CheckM := StateT (Option String) (Except String)

/-- Record a failure and go on. -/
def CheckM.note (msg : String) : CheckM Unit := set (some msg)

/-- The outcome of a check: its failure, if any. -/
def CheckM.outcome (m : CheckM Unit) : Option String :=
  match m.run none with
  | .ok ((), s) => s
  | .error e => some e

/-- Run a check and end at once if it failed. -/
def CheckM.strict (m : CheckM Unit) : Except String Unit :=
  match m.outcome with
  | some e => .error e
  | none => .ok ()

/-- A column of a query's result before it is evaluated: an expression with its alias and
its text, or a column of a source by position (what `*` stands for). -/
inductive Projection where
  | expr (e : Expr) (aliasName : Option String) (text : String)
  | slot (frame col : Nat) (info : ColumnInfo)
  deriving Inhabited

/-- The result columns a list stands for, with `*` and `t.*` expanded over the sources. -/
def expandColumns (frames : List Frame) (cols : List ResultColumn) : Except String (List Projection) :=
  foldFromM cols [] fun acc rc =>
    match rc with
    | .all =>
      if frames.isEmpty then .error "no tables specified"
      else .ok (acc ++ frames.zipIdx.flatMap fun (f, i) =>
        f.columns.zipIdx.filterMap fun (c, j) => if c.hidden || c.unlisted then none else some (.slot i j c))
    | .allOf t =>
      match frames.zipIdx.find? (fun (f, _) => sameName f.name t) with
      | some (f, i) => .ok (acc ++ f.columns.zipIdx.filterMap fun (c, j) =>
          if c.unlisted then none else some (.slot i j { c with hidden := false }))
      | none => .error ("no such table: " ++ t)
    | .expr e a text => .ok (acc ++ [.expr e a text])

/-- The names of the schema table's columns. -/
def schemaTableColumns : List ColumnInfo :=
  [{ name := "type", affinity := some .text, declType := some "text" },
   { name := "name", affinity := some .text, declType := some "text" },
   { name := "tbl_name", affinity := some .text, declType := some "text" },
   { name := "rootpage", affinity := some .integer, declType := some "int" },
   { name := "sql", affinity := some .text, declType := some "text" }]

/-- Whether a name is the schema table's. -/
def isSchemaTableName (n : String) : Bool :=
  let f := foldName n
  f == "sqlite_master" || f == "sqlite_schema" || f == "sqlite_temp_master" || f == "sqlite_temp_schema"

/-- The columns of a table as a scope sees them. -/
def Table.columnInfos (t : Table) : List ColumnInfo :=
  t.columns.map fun c =>
    { name := c.name, affinity := some c.affinity, collation := some c.collation,
      declType := if c.type.isEmpty then none else some c.type }

/-- Bind the queries of a `WITH` clause. -/
def Env.withCtes (env : Env) (recursive : Bool) (cs : List Cte) : Env :=
  { env with ctes := (cs.map fun (.mk n cols q) => { name := n, body := .query q cols recursive }).reverse ++ env.ctes }

/-- The named query of a name in force, with the bindings it sees. -/
def Env.cte? (env : Env) (n : String) : Option (CteBinding × List CteBinding) :=
  let rec go : List CteBinding → Option (CteBinding × List CteBinding)
    | [] => none
    | b :: rest => if sameName b.name n then some (b, rest) else go rest
  go env.ctes

/-- Whether a query names a source (in any of its `FROM` clauses, not looking into
expressions). -/
def Query.namesSource (n : String) : Nat → Query → Bool
  | 0, _ => false
  | fuel + 1, .mk _ _ first rest _ _ _ =>
    let inSource : Source → Bool
      | .table none t _ => sameName t n
      | .table _ _ _ => false
      | .query q _ => Query.namesSource n fuel q
      | .values _ _ | .call _ _ _ => false
    let inCore : Core → Bool
      | .values _ => false
      | .select _ _ srcs _ _ _ _ => srcs.any fun (.mk _ _ s _ _) => inSource s
    inCore first || rest.any (fun (_, c) => inCore c)

/-- The first core of a query, as a query of its own. -/
def Query.firstOnly : Query → Query
  | .mk r cs first _ _ _ _ => .mk r cs first [] [] none none

/-- The name of a compound operator in messages. -/
def CompoundOp.text : CompoundOp → String
  | .union => "UNION"
  | .unionAll => "UNION ALL"
  | .intersect => "INTERSECT"
  | .except => "EXCEPT"

mutual

/-- The type of an expression in a scope. -/
def exprType : Nat → Env → Scope → Expr → TypeInfo
  | 0, _, _, _ => {}
  | fuel + 1, env, sc, e =>
    let all (es : List Expr) : TypeInfo := TypeInfo.combineAll (es.map (exprType fuel env sc))
    match e with
    | .column qual n dq =>
      match resolveName sc qual n dq with
      | .ok (.column d i j) =>
        match sc.frame? d i with
        | some f => let c := f.columns.getD j default; { affinity := c.affinity, collation := c.collation }
        | none => {}
      | .ok (.rowid _ _) => { affinity := some .integer }
      | .ok (.alias d x) => exprType fuel env (sc.drop d) x
      | _ => {}
    | .cast inner t =>
      let ti := exprType fuel env sc inner
      { ti with affinity := some (typeAffinity t) }
    | .collate inner c =>
      let ti := exprType fuel env sc inner
      { affinity := ti.affinity, collation := some ((Collation.ofName? c).getD .binary), explicit := true }
    | .unary .pos inner => { exprType fuel env sc inner with affinity := none }
    | .unary _ inner => all [inner]
    | .scalar q =>
      match queryColumns fuel env sc q with
      | .ok (c :: _) => { affinity := c.affinity }
      | _ => {}
    | .vector (x :: _) => exprType fuel env sc x
    | .subColumn q i _ =>
      match queryColumns fuel env sc q with
      | .ok cs => { affinity := (cs.getD i default).affinity }
      | _ => {}
    | .binary _ a b | .isOp _ a b => TypeInfo.combine (exprType fuel env sc a) (exprType fuel env sc b)
    | .isNull _ a => all [a]
    | .between _ a b c => all [a, b, c]
    | .inList _ a items => all (a :: items)
    | .inQuery _ a _ | .inTable _ a _ => all [a]
    | .like _ _ a b esc => all (b :: a :: esc.toList)
    | .call _ _ args _ _ _ _ => all args
    | .caseOf op whens other => all (op.toList ++ whens.flatMap (fun (x, y) => [x, y]) ++ other.toList)
    | _ => {}

/-- Check the names of an expression (`aggOk`: aggregates may stand here), walking it from
the outside in, each node before its operands; true when the walk ended early. A column
that is not found ends the walk, and so does any other node reached after a failure was
found, before its operands; a call and a null test go on after their own operands ended
the walk, to the operands after them. -/
def walkExpr : Nat → Env → Scope → Bool → Expr → CheckM Bool
  | 0, _, _, _, _ => pure false
  | fuel + 1, env, sc, aggOk, e =>
    let walkAll (es : List Expr) : CheckM Bool := es.anyM (walkExpr fuel env sc aggOk)
    -- a node that was checked ends the walk when a failure was found, else walks its operands
    let thenOperands (es : List Expr) : CheckM Bool := do
      if (← get).isSome then pure true else walkAll es
    -- the width of an operand as a row value: a subquery's is its number of columns
    let width (x : Expr) : Nat :=
      match x with
      | .vector items => items.length
      | .scalar q =>
        match queryColumns fuel env sc q with
        | .ok cols => cols.length
        | .error _ => 1
      | _ => 1
    -- a check that making the statement's program makes
    let late (failed : Bool) (msg : String) : CheckM Unit :=
      if env.programChecks && failed then throw msg else pure ()
    -- the names of a subquery; a failure in it is kept
    let subquery (q : Query) : CheckM (Option (List ColumnInfo)) :=
      match queryColumns fuel env sc q with
      | .ok cols => pure (some cols)
      | .error msg => do
        CheckM.note msg
        pure none
    -- a subquery where a table's definition may hold none
    let noSubquery : CheckM Bool := do
      match env.part with
      | some p =>
        CheckM.note ("subqueries prohibited in " ++ p.plural)
        pure true
      | none => pure false
    -- an operand of a comparison, which may be a row value
    let operand (x : Expr) : CheckM Bool :=
      match x with
      | .vector items => thenOperands items
      | .scalar q => do
        if ← noSubquery then return true
        let _ ← subquery q
        pure (← get).isSome
      | _ => walkExpr fuel env sc aggOk x
    let compared (xs : List Expr) : CheckM Bool := do
      if xs.any (fun x => width x != width (xs.headD x)) then CheckM.note "row value misused"
      if (← get).isSome then pure true else xs.anyM operand
    match e with
    | .lit _ => thenOperands []
    | .param _ => do
      match env.part with
      | some p => CheckM.note ("parameters prohibited in " ++ p.plural)
      | none => pure ()
      thenOperands []
    | .number t isFloat => do
      let digits := if t.startsWith "-" then (t.drop 1).toString else t
      if !isFloat && (digits.startsWith "0x" || digits.startsWith "0X") then
        let hex := ((digits.drop 2).toString.toList.dropWhile (· == '0'))
        late (hex.length > 16 || (t.startsWith "-" && hex.length == 16 && hex.head? == some '8' &&
          (hex.drop 1).all (· == '0'))) ("hex literal too big: " ++ t)
      thenOperands []
    | .column qual n dq => do
      if !qual.isEmpty && (env.part == some .indexExpr || env.part == some .generated) then
        CheckM.note ("the \".\" operator prohibited in " ++ (env.part.map (·.plural)).getD "")
      match resolveName sc qual n dq with
      | .ok (.alias _ x) =>
        if !aggOk && Expr.hasAggregate 64 x then
          CheckM.note ("misuse of aliased aggregate " ++ n)
          pure true
        else pure false
      | .ok _ => pure false
      | .error msg =>
        CheckM.note msg
        pure true
    | .unary _ a | .cast a _ | .collate a _ => thenOperands [a]
    | .isNull _ a => do
      let _ ← walkExpr fuel env sc aggOk a
      pure false
    | .isOp _ a (.lit .null) => do
      let _ ← walkExpr fuel env sc aggOk a
      pure false
    | .isOp _ a b => do
      -- a name on the right is looked up first
      match b with
      | .column [] _ _ => if ← walkExpr fuel env sc aggOk b then return true
      | _ => pure ()
      compared [a, b]
    | .binary op a b =>
      if op.isComparison then compared [a, b] else thenOperands [a, b]
    | .between _ a b c => compared [a, b, c]
    | .inList _ a items => thenOperands (a :: items)
    | .inQuery _ a q => do
      if ← noSubquery then return true
      match ← subquery q with
      | some cols =>
        late (cols.length != width a)
          ("sub-select returns " ++ toString cols.length ++ " columns - expected " ++ toString (width a))
        if (← get).isSome then pure true else operand a
      | none => pure true
    | .subColumn q _ w => do
      if ← noSubquery then return true
      match ← subquery q with
      | some cols =>
        late (cols.length != w) (toString w ++ " columns assigned " ++ toString cols.length ++ " values")
        pure (← get).isSome
      | none => pure true
    | .inTable _ a t => do
      if ← noSubquery then return true
      match sourceFrame fuel env sc (.table none t none) with
      | .ok _ => thenOperands [a]
      | .error msg =>
        CheckM.note msg
        pure true
    | .like kind _ a b esc => do
      -- a pattern test is a call of its function, the pattern first
      if kind == .regexp then CheckM.note "no such function: REGEXP"
      let _ ← walkAll (b :: a :: esc.toList)
      pure false
    | .call n _ args star filter order windowSpec => do
      let argc := if star then 0 else args.length
      let f := foldName n
      let known := (scalarArities.lookup f).map (·.allows argc)
      let knownAgg := (aggregateArities.lookup f).map (·.allows argc)
      let extra := (extraArities.lookup f).map (·.allows argc)
      let win := (windowArities.lookup f).map (·.allows argc)
      let exists_ := known.isSome || knownAgg.isSome || extra.isSome || win.isSome
      let fits := known == some true || knownAgg == some true || extra == some true || win == some true
      -- aggregates and window functions that fit their arguments
      let agg := knownAgg == some true || win == some true
      let inner : Env := { env with windowOk := false }
      if fits && volatileFunctions.contains f then
        match env.part with
        | some p =>
          if p != .check then CheckM.note ("non-deterministic functions prohibited in " ++ p.plural)
        | none => pure ()
      match windowSpec with
      | some spec =>
        let misused := agg && (!aggOk || !env.windowOk)
        -- the function found for these arguments (or for any, when none fits) must be one
        -- that can take a window
        let windowCapable :=
          if fits then knownAgg == some true || win == some true else knownAgg.isSome || win.isSome
        if exists_ && !windowCapable then
          CheckM.note (n ++ "() may not be used as a window function")
        else if misused then CheckM.note ("misuse of window function " ++ n ++ "()")
        else if !exists_ then CheckM.note ("no such function: " ++ n)
        else if !fits then CheckM.note ("wrong number of arguments to function " ++ n ++ "()")
        let _ ← args.anyM (walkExpr fuel inner sc aggOk)
        if agg && !misused then
          if (← get).isNone then
            match resolveNamedWindows env.windows >>= fun named => resolveWindow named spec with
            | .error msg => CheckM.note msg
            | .ok w => do
              match w.failure (win == some true) filter.isSome with
              | some msg => CheckM.note msg
              | none => pure ()
              let _ ← w.partition.anyM (walkExpr fuel inner sc aggOk)
              let _ ← w.order.anyM fun (.mk e _ _) => walkExpr fuel inner sc aggOk e
              let _ ← filter.toList.anyM (walkExpr fuel inner sc aggOk)
          else
            let _ ← filter.toList.anyM (walkExpr fuel inner sc aggOk)
        pure false
      | none =>
        if win == some true then CheckM.note ("misuse of window function " ++ n ++ "()")
        else if agg && !aggOk then CheckM.note ("misuse of aggregate function " ++ n ++ "()")
        else if !exists_ then CheckM.note ("no such function: " ++ n)
        else if !fits then CheckM.note ("wrong number of arguments to function " ++ n ++ "()")
        else if f == "likelihood" && !(args.getD 1 default).isProbability then
          CheckM.note ("second argument to " ++ n ++ "() must be a constant between 0.0 and 1.0")
        else if !agg && filter.isSome then CheckM.note ("FILTER may not be used with non-aggregate " ++ n ++ "()")
        else if !agg && !order.isEmpty then
          CheckM.note ("ORDER BY may not be used with non-aggregate " ++ n ++ "()")
        let nested := aggOk && !agg
        let _ ← args.anyM (walkExpr fuel inner sc nested)
        if agg then
          let _ ← order.anyM fun (.mk e _ _) => walkExpr fuel inner sc nested e
          let _ ← filter.toList.anyM (walkExpr fuel inner sc nested)
        pure false
    | .caseOf op whens other =>
      thenOperands (op.toList ++ whens.flatMap (fun (x, y) => [x, y]) ++ other.toList)
    | .exists q => do
      if ← noSubquery then return true
      let _ ← subquery q
      pure (← get).isSome
    | .scalar q => do
      if ← noSubquery then return true
      match ← subquery q with
      | some cols =>
        late (cols.length != 1) ("sub-select returns " ++ toString cols.length ++ " columns - expected 1")
        pure (← get).isSome
      | none => pure true
    | .raise _ _ => do
      late (!env.inTrigger) "RAISE() may only be used within a trigger-program"
      thenOperands []
    | .vector items => do
      late true "row value misused"
      thenOperands items

/-- Check the names of an expression (`aggOk`: aggregates may stand here). -/
def checkExpr : Nat → Env → Scope → Bool → Expr → CheckM Unit
  | 0, _, _, _, _ => pure ()
  | fuel + 1, env, sc, aggOk, e => do
    let _ ← walkExpr fuel env sc aggOk e

/-- The result columns of a query, after checking its names. -/
def queryColumns : Nat → Env → Scope → Query → Except String (List ColumnInfo)
  | 0, _, _, _ => .error "query nested too deeply"
  | fuel + 1, env, sc, .mk recursive withs first rest order limit offset => do
    let env := env.withCtes recursive withs
    let cores := first :: rest.map (·.2)
    -- the sources of every core, the last core first
    cores.reverse.forM fun c => do
      let _ ← coreFrames fuel env sc c
      pure ()
    -- the limit and offset name nothing
    let noNames : Scope := []
    (CheckM.strict (limit.toList.forM (checkExpr fuel env noNames false)))
    (CheckM.strict (offset.toList.forM (checkExpr fuel env noNames false)))
    -- every core, the last first
    let simpleOrder := if rest.isEmpty then order else []
    let colsRev ← cores.reverse.mapM fun c => coreColumns fuel env sc c (if rest.isEmpty then simpleOrder else [])
    let colsList := colsRev.reverse
    let firstCols := colsList.headD []
    -- all cores give as many columns
    let pairs := rest.zip (colsList.drop 1)
    for (op, cols) in pairs do
      if cols.length != firstCols.length then
        throw ("SELECTs to the left and right of " ++ op.1.text ++ " do not have the same number of result columns")
    -- a compound's order terms name result columns
    if !rest.isEmpty then
      (order.zipIdx.forM fun (.mk e _ _, i) => do
        let e := match e with | .collate x _ => x | x => x
        match e.asInteger? with
        | some k =>
          if k < 1 || k > firstCols.length then
            throw (ordinalText (i + 1) ++ " ORDER BY term out of range - should be between 1 and " ++ toString firstCols.length)
        | none =>
          match e with
          | .column [] n _ =>
            if firstCols.any (fun c => sameName c.name n) then pure ()
            else throw (ordinalText (i + 1) ++ " ORDER BY term does not match any column in the result set")
          | _ => throw (ordinalText (i + 1) ++ " ORDER BY term does not match any column in the result set"))
    pure firstCols

/-- The frames of a core's sources. -/
def coreFrames : Nat → Env → Scope → Core → Except String (List Frame)
  | 0, _, _, _ => .error "query nested too deeply"
  | fuel + 1, env, sc, core =>
    match core with
    | .values _ => pure []
    | .select _ _ srcs _ _ _ _ => joinFrames fuel env sc srcs

/-- The frames of joined sources, with the columns that `USING` and natural joins merge. -/
def joinFrames : Nat → Env → Scope → List Joined → Except String (List Frame)
  | 0, _, _, _ => .error "query nested too deeply"
  | fuel + 1, env, sc, srcs =>
    foldFromM srcs [] fun acc (.mk _ natural src _ usingCols) => do
      let f ← sourceFrame fuel env sc src
      let names : List String :=
        if natural then
          f.columns.filterMap fun c =>
            if acc.any (fun g => g.columns.any fun d => sameName d.name c.name) then some c.name else none
        else usingCols
      for n in usingCols do
        if !(f.columns.any fun c => sameName c.name n) || !(acc.any fun g => g.columns.any fun d => sameName d.name n) then
          throw ("cannot join using column " ++ n ++ " - column not present in both tables")
      let f := { f with
        merged := names,
        columns := f.columns.map fun c => if names.any (sameName · c.name) then { c with hidden := true } else c }
      pure (acc ++ [f])

/-- The frame of a source, without rows. -/
def sourceFrame : Nat → Env → Scope → Source → Except String Frame
  | 0, _, _, _ => .error "query nested too deeply"
  | fuel + 1, env, sc, src =>
    match src with
    | .table schema n a =>
      let label := a.getD n
      let qualified := match schema with | some s => s ++ "." ++ n | none => n
      match (if schema.isNone then env.cte? n else none) with
      | some (b, visible) =>
        match b.body with
        | .rows rs => pure { name := label, columns := rs.columns }
        | .pending q scope => do
          pure { name := label, columns := ← queryColumns fuel { env with ctes := visible } scope q }
        | .query q cols _ => do
          let inner : Env := { env with ctes := visible }
          let qcols ← if Query.namesSource n 64 q then
              (do
                let firstCols ← queryColumns fuel inner [] q.firstOnly
                let named := if cols.isEmpty then firstCols else cols.map fun c => ({ name := c } : ColumnInfo)
                let selfEnv : Env := { inner with ctes := { name := n, body := .rows ⟨named, []⟩ } :: visible }
                queryColumns fuel selfEnv [] q)
            else queryColumns fuel inner [] q
          if !cols.isEmpty && cols.length != qcols.length then
            throw ("table " ++ n ++ " has " ++ toString qcols.length ++ " values for " ++ toString cols.length ++ " columns")
          let named := if cols.isEmpty then qcols
            else (cols.zip qcols).map fun (c, info) => { info with name := c }
          pure { name := label, columns := named }
      | none =>
        if schema.any (fun s => !sameName s "main" && !sameName s "temp") then
          throw ("no such table: " ++ qualified)
        else
          match env.schema.table? n with
          | some t => pure { name := label, isTable := true, columns := t.columnInfos, hasRowid := !t.withoutRowid }
          | none =>
            match env.schema.view? n with
            | some v => do
              let inner : Env := { env with ctes := [], inTrigger := false }
              let vcols ← queryColumns fuel inner [] v.query
              if !v.columns.isEmpty && v.columns.length != vcols.length then
                throw ("expected " ++ toString v.columns.length ++ " columns for '" ++ v.name ++ "' but got " ++ toString vcols.length)
              let named := if v.columns.isEmpty then vcols
                else (v.columns.zip vcols).map fun (c, info) => { info with name := c }
              pure { name := label, isTable := true, columns := named }
            | none =>
              if isSchemaTableName n then
                pure { name := label, isTable := true, columns := schemaTableColumns, hasRowid := true }
              else throw ("no such table: " ++ qualified)
    | .query q a => do
      let cols ← queryColumns fuel env sc q
      pure { name := a.getD "", columns := cols }
    | .values rows a => do
      let cols ← queryColumns fuel env sc (.mk false [] (.values rows) [] [] none none)
      pure { name := a.getD "", columns := cols }
    | .call n args a =>
      let label := a.getD n
      if (env.cte? n).isSome || (env.schema.table? n).isSome || (env.schema.view? n).isSome then
        throw ("'" ++ n ++ "' is not a function")
      else
        match tableFunction? n with
        | some (name, columns, most) =>
          if args.length > most then
            throw ("too many arguments on " ++ name ++ "() - max " ++ toString most)
          else pure { name := label, columns }
        | none => throw ("no such table: " ++ n)

/-- The result columns of one core, after checking its names; `order` is its `ORDER BY`
when it is the only core. -/
def coreColumns : Nat → Env → Scope → Core → List OrderTerm → Except String (List ColumnInfo)
  | 0, _, _, _, _ => .error "query nested too deeply"
  | fuel + 1, env, sc, core, order =>
    match core with
    | .values rows => do
      let lvScope : Scope := ({} : Level) :: sc
      for row in rows do
        for e in row do
          CheckM.strict (checkExpr fuel env lvScope false e)
      let firstRow := rows.headD []
      pure (firstRow.zipIdx.map fun (e, i) =>
        let t := exprType fuel env lvScope e
        { name := "column" ++ toString (i + 1), affinity := t.affinity, collation := t.collation })
    | .select _ cols srcs filter groupBy having windows => do
      let env : Env := { env with windows, windowOk := false }
      let withWindows : Env := { env with windowOk := true }
      let frames ← joinFrames fuel env sc srcs
      let projections ← expandColumns frames cols
      let level : Level := { frames }
      let here : Scope := level :: sc
      -- the arguments of table functions
      for (.mk _ _ src _ _) in srcs do
        match src with
        | .call _ args _ => CheckM.strict (args.forM (checkExpr fuel env here false))
        | _ => pure ()
      -- the result columns
      for p in projections do
        match p with
        | .expr e _ _ => CheckM.strict (checkExpr fuel withWindows here true e)
        | .slot _ _ _ => pure ()
      let aliases : List (String × Expr) := projections.filterMap fun p =>
        match p with
        | .expr e (some a) _ => some (a, e)
        | _ => none
      let isAggregate := !groupBy.isEmpty ||
        projections.any (fun p => match p with | .expr e _ _ => Expr.hasAggregate 64 e | _ => false) ||
        (having.map (Expr.hasAggregate 64)).getD false ||
        order.any (fun (.mk e _ _) => Expr.hasAggregate 64 e)
      let withAliases : Scope := { level with aliases } :: sc
      match having with
      | some h =>
        if !isAggregate then throw "HAVING clause on a non-aggregate query"
        CheckM.strict (checkExpr fuel env withAliases true h)
      | none => pure ()
      -- the filter and the join conditions, as one expression
      let conditions := filter.toList ++ srcs.filterMap (fun (.mk _ _ _ on _) => on)
      CheckM.strict (conditions.forM (checkExpr fuel env withAliases false))
      -- order terms
      for (.mk e _ _, i) in order.zipIdx do
        let bare := match e with | .collate x _ => x | x => x
        match bare.asInteger? with
        | some k =>
          if k < 1 || k > projections.length then
            throw (ordinalText (i + 1) ++ " ORDER BY term out of range - should be between 1 and " ++ toString projections.length)
        | none =>
          let isAlias := match bare with
            | .column [] n _ => aliases.any (fun a => sameName a.1 n)
            | _ => false
          if !isAlias then CheckM.strict (checkExpr fuel withWindows withAliases true e)
      -- grouping terms
      for (g, i) in groupBy.zipIdx do
        let bare := match g with | .collate x _ => x | x => x
        match bare.asInteger? with
        | some k =>
          if k < 1 || k > projections.length then
            throw (ordinalText (i + 1) ++ " GROUP BY term out of range - should be between 1 and " ++ toString projections.length)
        | none =>
          CheckM.strict (checkExpr fuel env withAliases true g)
          if Expr.hasAggregate 64 g then throw "aggregate functions are not allowed in the GROUP BY clause"
      -- names and types of the result columns
      let infos := projections.map fun p =>
        match p with
        | .slot _ _ info => info
        | .expr e a text =>
          let t := exprType fuel env here e
          let bare := match e with | .collate x _ => x | x => x
          let direct := match e with | .column .. => true | _ => false
          let (colName, declType) : Option String × Option String := match bare with
            | .column qual n dq =>
              match resolveName here qual n dq with
              | .ok (.column d fi j) =>
                match here.frame? d fi with
                | some f => let c := f.columns.getD j default; (some c.name, if direct then c.declType else none)
                | none => (none, none)
              | .ok (.rowid _ _) => (some "rowid", none)
              | _ => (none, none)
            | _ => (none, none)
          { name := a.getD (colName.getD text), affinity := t.affinity, collation := t.collation,
            declType }
      let names := uniqueNames (infos.map (·.name))
      pure ((infos.zip names).map fun (c, n) => { c with name := n })

end

end Windowing.Sql
