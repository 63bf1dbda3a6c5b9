import Windowing.Sql.Value

set_option autoImplicit false

/-! # Statements and expressions

The syntax trees the parser builds: expressions, queries (with common table expressions,
joins, grouping, compounds, ordering and limits) and statements (queries, the three
kinds of change, the definitions of tables, indexes, views and triggers, their removal
and alteration, pragmas and transactions). -/

namespace Windowing.Sql

/-- The unary operators. -/
inductive UnaryOp where
  | neg
  | pos
  | bitNot
  | not
  deriving BEq, Inhabited

/-- The binary operators that evaluate both sides alike. -/
inductive BinaryOp where
  | or
  | and
  | eq
  | ne
  | lt
  | le
  | gt
  | ge
  | bitAnd
  | bitOr
  | shl
  | shr
  | add
  | sub
  | mul
  | div
  | rem
  | concat
  /-- `->`: the JSON text at a path. -/
  | arrow
  /-- `->>`: the SQL value at a path. -/
  | arrow2
  deriving BEq, Inhabited

/-- The pattern operators. -/
inductive LikeKind where
  | like
  | glob
  | regexp
  | matchOp
  deriving BEq, Inhabited

/-- What `RAISE` does. -/
inductive RaiseKind where
  | ignore
  | rollback
  | abort
  | fail
  deriving BEq, Inhabited

/-- How a statement resolves a conflict with a constraint. -/
inductive Conflict where
  | rollback
  | abort
  | fail
  | ignore
  | replace
  deriving BEq, Inhabited

/-- How two queries are combined. -/
inductive CompoundOp where
  | union
  | unionAll
  | intersect
  | except
  deriving BEq, Inhabited

/-- How two sources are joined. -/
inductive JoinKind where
  | inner
  | left
  | right
  | full
  | cross
  deriving BEq, Inhabited

/-- What a window frame counts in: rows, ranges of the order's value, or groups of
rows equal in the order. -/
inductive FrameUnits where
  | rows
  | range
  | groups
  deriving BEq, Inhabited

/-- What a window frame leaves out of itself. -/
inductive FrameExclude where
  | noOthers
  | currentRow
  | group
  | ties
  deriving BEq, Inhabited

/-- Whether an operator compares its operands. -/
def BinaryOp.isComparison (op : BinaryOp) : Bool :=
  op == .eq || op == .ne || op == .lt || op == .le || op == .gt || op == .ge

mutual

/-- An expression. -/
inductive Expr where
  | lit (v : Value)
  /-- A number as written: its text and whether it has a point or an exponent. Its value
  is fixed when the statement is prepared, so that a minus sign before it can make the
  least integer. -/
  | number (text : String) (isFloat : Bool)
  /-- A column reference: the qualifiers written before it (schema and table), its
  name, and whether the name was in double quotes (it then reads as a string when no
  column has that name). -/
  | column (qual : List String) (name : String) (dquoted : Bool)
  | param (index : Nat)
  | unary (op : UnaryOp) (e : Expr)
  | binary (op : BinaryOp) (a b : Expr)
  /-- `a IS b` (or `IS NOT` when negated). -/
  | isOp (negated : Bool) (a b : Expr)
  | isNull (negated : Bool) (e : Expr)
  | between (negated : Bool) (e lo hi : Expr)
  | inList (negated : Bool) (e : Expr) (items : List Expr)
  | inQuery (negated : Bool) (e : Expr) (q : Query)
  | inTable (negated : Bool) (e : Expr) (table : String)
  | like (kind : LikeKind) (negated : Bool) (a b : Expr) (escape : Option Expr)
  /-- A function call: its name as written, `DISTINCT`, the arguments, `*` for `f(*)`,
  a `FILTER` clause, the order an aggregate takes its rows in, and the window of a window
  function (`OVER`). -/
  | call (name : String) (distinct : Bool) (args : List Expr) (star : Bool) (filter : Option Expr)
      (order : List OrderTerm) (windowSpec : Option WindowSpec)
  | cast (e : Expr) (type : String)
  | collate (e : Expr) (name : String)
  | caseOf (operand : Option Expr) (whens : List (Expr × Expr)) (otherwise : Option Expr)
  | exists (q : Query)
  | scalar (q : Query)
  | raise (kind : RaiseKind) (message : String)
  | vector (items : List Expr)
  /-- Column `index` of the first row of a subquery whose columns are assigned to `width`
  columns at once (`SET (a, b) = (SELECT …)`); null when it has no rows. -/
  | subColumn (q : Query) (index width : Nat)

/-- A column of a query's result: `*`, `t.*`, or an expression with an optional alias
and its text as written. -/
inductive ResultColumn where
  | all
  | allOf (table : String)
  | expr (e : Expr) (aliasName : Option String) (text : String)

/-- A source of rows in a `FROM` clause. -/
inductive Source where
  | table (schema : Option String) (name : String) (aliasName : Option String)
  | query (q : Query) (aliasName : Option String)
  | values (rows : List (List Expr)) (aliasName : Option String)
  /-- A table function, such as `json_each`, called with arguments. -/
  | call (name : String) (args : List Expr) (aliasName : Option String)

/-- A source joined to those before it: how, and on what (`ON` or `USING`). -/
inductive Joined where
  | mk (kind : JoinKind) (natural : Bool) (src : Source) (on : Option Expr) (usingCols : List String)

/-- One `SELECT` (or `VALUES`) of a compound query. -/
inductive Core where
  | values (rows : List (List Expr))
  | select (distinct : Bool) (columns : List ResultColumn) (sources : List Joined)
      (filter : Option Expr) (groupBy : List Expr) (having : Option Expr)
      (windows : List (String × WindowSpec))

/-- A term of `ORDER BY`: the expression and whether it is descending, and where nulls
go when it says so. -/
inductive OrderTerm where
  | mk (e : Expr) (desc : Bool) (nullsFirst : Option Bool)

/-- A bound of a window frame. -/
inductive FrameBound where
  | unboundedPreceding
  | preceding (offset : Expr)
  | currentRow
  | following (offset : Expr)
  | unboundedFollowing

/-- A window frame: its units, where it starts and ends, and what it leaves out. -/
inductive WindowFrame where
  | mk (units : FrameUnits) (start finish : FrameBound) (exclude : FrameExclude)

/-- A window as written after `OVER`: a named window as it is, or a window built from the
named window it builds on, how it partitions the rows, how it orders each partition, and
its frame (none: the default one). -/
inductive WindowSpec where
  | named (name : String)
  | mk (base : Option String) (partition : List Expr) (order : List OrderTerm) (frame : Option WindowFrame)

/-- A named query of a `WITH` clause, with its column names. -/
inductive Cte where
  | mk (name : String) (columns : List String) (q : Query)

/-- A query: its `WITH` clause (and whether it is recursive), its first core and the
compounded ones, its order and its limit and offset. -/
inductive Query where
  | mk (recursive : Bool) (ctes : List Cte) (first : Core) (rest : List (CompoundOp × Core))
      (order : List OrderTerm) (limit : Option Expr) (offset : Option Expr)

end

instance : Inhabited Expr := ⟨.lit .null⟩

/-- The operands of an expression, not looking into its subqueries or its window. -/
def Expr.operands : Expr → List Expr
  | .unary _ a | .isNull _ a | .cast a _ | .collate a _ | .inQuery _ a _ | .inTable _ a _ => [a]
  | .binary _ a b | .isOp _ a b => [a, b]
  | .between _ e lo hi => [e, lo, hi]
  | .inList _ e items => e :: items
  | .like _ _ a b esc => a :: b :: esc.toList
  | .call _ _ args _ _ _ _ => args
  | .caseOf op whens other => op.toList ++ whens.flatMap (fun (w, t) => [w, t]) ++ other.toList
  | .vector items => items
  | _ => []

/-- The names of the columns an expression reads (one with no subqueries, as a `CHECK`
constraint is). -/
def Expr.columnNames : Nat → Expr → List String
  | 0, _ => []
  | fuel + 1, e =>
    match e with
    | .column _ n _ => [n]
    | e => e.operands.flatMap (Expr.columnNames fuel)

/-- Rebuild an expression with each operand (as `Expr.operands` lists them, in that order)
replaced by what a step gives for it. -/
def Expr.mapOperandsM {m : Type → Type} [Monad m] (f : Expr → m Expr) (e : Expr) : m Expr :=
  match e with
  | .unary op a => do pure (.unary op (← f a))
  | .isNull n a => do pure (.isNull n (← f a))
  | .cast a t => do pure (.cast (← f a) t)
  | .collate a c => do pure (.collate (← f a) c)
  | .inQuery n a q => do pure (.inQuery n (← f a) q)
  | .inTable n a t => do pure (.inTable n (← f a) t)
  | .binary op a b => do
    let a' ← f a
    pure (.binary op a' (← f b))
  | .isOp n a b => do
    let a' ← f a
    pure (.isOp n a' (← f b))
  | .between n x lo hi => do
    let x' ← f x
    let lo' ← f lo
    pure (.between n x' lo' (← f hi))
  | .inList n x items => do
    let x' ← f x
    pure (.inList n x' (← items.mapM f))
  | .like k n a b esc => do
    let a' ← f a
    let b' ← f b
    pure (.like k n a' b' (← esc.mapM f))
  | .call n d args star filter order windowSpec => do
    pure (.call n d (← args.mapM f) star filter order windowSpec)
  | .caseOf op whens other => do
    let op' ← op.mapM f
    let whens' ← whens.mapM fun (w, t) => do
      let w' ← f w
      pure (w', ← f t)
    pure (.caseOf op' whens' (← other.mapM f))
  | .vector items => do pure (.vector (← items.mapM f))
  | e => pure e

/-- Whether an expression is a real literal no greater than one, as the probability that
`likelihood` takes must be. -/
def Expr.isProbability : Expr → Bool
  | .number text true =>
    match numericText false text with
    | .real r => r ≤ 1.0
    | .int i => i ≤ 1
    | _ => false
  | _ => false

/-- Whether an expression is constant as written: no column, function, subquery or
`RAISE` in it (`TRUE` and `FALSE` are constants). -/
def Expr.isWrittenConstant : Nat → Expr → Bool
  | 0, _ => false
  | fuel + 1, e =>
    match e with
    | .column [] n false => n.toLower == "true" || n.toLower == "false"
    | .column .. | .call .. | .exists _ | .scalar _ | .inQuery .. | .inTable .. | .raise .. | .subColumn .. => false
    | _ => e.operands.all (Expr.isWrittenConstant fuel)

instance : Inhabited Core := ⟨.values []⟩

instance : Inhabited Query := ⟨.mk false [] default [] [] none none⟩

/-- A table's name, with the schema it was written with. -/
structure QualName where
  schema : Option String := none
  name : String
  deriving Inhabited

/-- The options written after a table's definition: whether the table has no row id
(`WITHOUT ROWID`) and whether its columns take only values of their declared types
(`STRICT`). -/
structure TableOptions where
  withoutRowid : Bool := false
  strict : Bool := false
  deriving Inhabited

/-- A column constraint. -/
inductive ColumnConstraint where
  | primaryKey (desc : Bool) (conflict : Option Conflict) (autoincrement : Bool)
  | notNull (conflict : Option Conflict)
  | unique (conflict : Option Conflict)
  | check (e : Expr) (text : String)
  | default (e : Expr) (text : String)
  | collate (name : String)
  | references
  | generated (e : Expr) (stored : Bool)
  | null
  deriving Inhabited

/-- A column of a table definition: its name, declared type, and its constraints with
their names. -/
structure ColumnDef where
  name : String
  type : String := ""
  constraints : List (Option String × ColumnConstraint) := []
  deriving Inhabited

/-- A column of an index: a column name or an expression, with its collation. -/
structure IndexedColumn where
  e : Expr
  collation : Option String := none
  desc : Bool := false
  deriving Inhabited

/-- A table constraint. -/
inductive TableConstraint where
  | primaryKey (columns : List IndexedColumn) (conflict : Option Conflict) (autoincrement : Bool)
  | unique (columns : List IndexedColumn) (conflict : Option Conflict)
  | check (e : Expr) (text : String)
  | foreignKey
  deriving Inhabited

/-- When a trigger fires. -/
inductive TriggerTime where
  | before
  | after
  | insteadOf
  deriving BEq, Inhabited

/-- What a trigger fires on. -/
inductive TriggerEvent where
  | delete
  | insert
  /-- An update, of the listed columns (of any when none are listed). -/
  | update (columns : List String)
  deriving Inhabited

/-- What an `ALTER TABLE` does. -/
inductive AlterAction where
  | renameTable (newName : String)
  | renameColumn (old new : String)
  | addColumn (c : ColumnDef) (text : String)
  | dropColumn (name : String)
  deriving Inhabited

/-- The kinds of schema objects. -/
inductive ObjectKind where
  | table
  | index
  | view
  | trigger
  deriving BEq, Inhabited

/-- Where the rows of an `INSERT` come from. -/
inductive InsertSource where
  | values (rows : List (List Expr))
  | query (q : Query)
  | defaults
  deriving Inhabited

/-- The `ON CONFLICT` clause of an `INSERT`: the conflict target's columns, and the update
to do (none: do nothing) with its condition. -/
structure Upsert where
  target : List IndexedColumn := []
  targetFilter : Option Expr := none
  sets : Option (List (List String × Expr)) := none
  filter : Option Expr := none
  deriving Inhabited

/-- A statement. -/
inductive Stmt where
  | query (q : Query)
  | insert (ctes : List Cte) (conflict : Option Conflict) (table : QualName) (aliasName : Option String)
      (columns : Option (List String)) (source : InsertSource) (upserts : List Upsert)
  | update (ctes : List Cte) (conflict : Option Conflict) (table : QualName) (aliasName : Option String)
      (sets : List (List String × Expr)) (sources : List Joined) (filter : Option Expr)
  | delete (ctes : List Cte) (table : QualName) (aliasName : Option String) (filter : Option Expr)
  /-- A table definition, with the text the schema keeps for it and where in that text a
  new column's definition goes. -/
  | createTable (temp ifNotExists : Bool) (name : QualName) (columns : List ColumnDef)
      (constraints : List (Option String × TableConstraint)) (options : TableOptions) (sql : String)
      (addColumnAt : Nat)
  | createTableAs (temp ifNotExists : Bool) (name : QualName) (q : Query)
  | createIndex (unique ifNotExists : Bool) (name : QualName) (table : String)
      (columns : List IndexedColumn) (filter : Option Expr) (sql : String)
  | createView (temp ifNotExists : Bool) (name : QualName) (columns : List String) (q : Query)
      (sql : String)
  | createTrigger (temp ifNotExists : Bool) (name : QualName) (time : TriggerTime)
      (event : TriggerEvent) (table : String) (whenClause : Option Expr) (body : List Stmt)
      (sql : String)
  | drop (kind : ObjectKind) (ifExists : Bool) (name : QualName)
  | alter (table : QualName) (action : AlterAction)
  | pragma (name : QualName) (value : Option String)
  | begin
  | commit
  | rollback (savepoint : Option String)
  | savepoint (name : String)
  | release (name : String)
  | vacuum
  /-- A statement that changes nothing here: `ANALYZE`, `REINDEX`. -/
  | maintenance
  | explain (s : Stmt)
  deriving Inhabited

end Windowing.Sql
