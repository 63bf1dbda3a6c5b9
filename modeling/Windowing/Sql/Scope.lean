import Windowing.Sql.Schema
import Windowing.Sql.Function
import Windowing.Sql.Window

set_option autoImplicit false

/-! # Scopes and names

An expression is evaluated in a scope: the rows of the sources of its query, then those
of the queries it is nested in. A column name is looked for in the innermost level
first: among the columns of the sources the qualifier (if any) names, then as `rowid`,
`oid` or `_rowid_` of the one source with a row id, then among the aliases of the result
columns where those may be used; when it is not found there, the next level out is
searched. A name found twice in one level is ambiguous. A name found nowhere is a string
when it was written in double quotes, and `TRUE` and `FALSE` are one and zero.

The sources `NEW` and `OLD` of a trigger are found only by their qualifier. A column that a
`USING` clause (or a natural join) merged into an earlier source is found only there. -/

namespace Windowing.Sql

/-- A column as a scope sees it: its name, its affinity (none when it has none), its
collation, its declared type, whether `*` leaves it out (a column a join merged away), and
whether every star leaves it out (an argument column of a table function). -/
structure ColumnInfo where
  name : String
  affinity : Option Affinity := none
  collation : Option Collation := none
  declType : Option String := none
  hidden : Bool := false
  unlisted : Bool := false
  deriving Inhabited

/-- A source's row in a scope: the name it goes by, whether it is a table of the database,
its columns and their values (and which of those are marked as JSON), its row id (when it
has one), whether it is found only by its qualifier, and the columns a join merged away. -/
structure Frame where
  name : String
  isTable : Bool := false
  columns : List ColumnInfo
  values : List Value := []
  marks : List Bool := []
  hasRowid : Bool := false
  rowid : Value := .null
  qualifiedOnly : Bool := false
  merged : List String := []
  deriving Inhabited

/-- A level of a scope: the rows of one query's sources, and the result aliases its
clauses may use. -/
structure Level where
  frames : List Frame := []
  aliases : List (String × Expr) := []
  deriving Inhabited

/-- A scope: its levels, the innermost first. -/
abbrev Scope := List Level

/-- What a column name refers to. -/
inductive Ref where
  | column (depth frame col : Nat)
  | rowid (depth frame : Nat)
  | alias (depth : Nat) (e : Expr)
  | literal (v : Value)
  deriving Inhabited

/-- Whether a name is another name for the row id. -/
def isRowidName (n : String) : Bool :=
  let f := foldName n
  f == "rowid" || f == "oid" || f == "_rowid_"

/-- The names a column reference was written with, joined by dots. -/
def qualifiedText (qual : List String) (name : String) : String :=
  ".".intercalate (qual ++ [name])

/-- Whether a frame answers to a qualifier (schema and table). -/
def Frame.answers (f : Frame) (zDb zTab : Option String) : Bool :=
  match zTab with
  | none => !f.qualifiedOnly
  | some t =>
    sameName f.name t &&
      match zDb with
      | none => true
      | some d => f.isTable && (sameName d "main")

/-- Look a name up in one level: the matches, as frame and column, and the frames with a
row id that answer to the qualifier while nothing matched. -/
def Level.lookup (lv : Level) (zDb zTab : Option String) (name : String) :
    List (Nat × Nat) × List Nat :=
  lv.frames.zipIdx.foldl (fun (acc : List (Nat × Nat) × List Nat) (f, i) =>
    if !f.answers zDb zTab then acc
    else
      match f.columns.findIdx? (fun c => sameName c.name name) with
      | some j =>
        if !acc.1.isEmpty && zTab.isNone && f.merged.any (sameName · name) then acc
        else (acc.1 ++ [(i, j)], acc.2)
      | none =>
        if acc.1.isEmpty && f.hasRowid then (acc.1, acc.2 ++ [i]) else acc) ([], [])

/-- Resolve a column reference in a scope. -/
def resolveName (sc : Scope) (qual : List String) (name : String) (dq : Bool) : Except String Ref :=
  let (zDb, zTab) : Option String × Option String := match qual with
    | [] => (none, none)
    | [t] => (none, some t)
    | d :: t :: _ => (some d, some t)
  let notFound : Except String Ref :=
    if zTab.isNone && dq then .ok (.literal (.text name))
    else if zTab.isNone && foldName name == "true" then .ok (.literal (.int 1))
    else if zTab.isNone && foldName name == "false" then .ok (.literal (.int 0))
    else .error ("no such column: " ++ qualifiedText qual name)
  let rec go : Nat → Scope → Except String Ref
    | _, [] => notFound
    | d, lv :: outer =>
      let (hits, rowidFrames) := lv.lookup zDb zTab name
      match hits with
      | [(i, j)] => .ok (.column d i j)
      | _ :: _ :: _ => .error ("ambiguous column name: " ++ qualifiedText qual name)
      | [] =>
        if isRowidName name && !rowidFrames.isEmpty then
          match rowidFrames with
          | [i] => .ok (.rowid d i)
          | _ => .error ("ambiguous column name: " ++ qualifiedText qual name)
        else
          match (if zTab.isNone then lv.aliases.find? (fun a => sameName a.1 name) else none) with
          | some (_, e) => .ok (.alias d e)
          | none => go (d + 1) outer
  go 0 sc

/-- The frame a reference points to. -/
def Scope.frame? (sc : Scope) (depth frame : Nat) : Option Frame :=
  (sc[depth]?).bind fun lv => lv.frames[frame]?

/-- What an expression's value carries besides itself: its affinity, its collation, and
whether that collation comes from a `COLLATE` inside it. -/
structure TypeInfo where
  affinity : Option Affinity := none
  collation : Option Collation := none
  explicit : Bool := false
  /-- Whether the value is marked as JSON (a JSON function's result). -/
  json : Bool := false
  deriving Inhabited

/-- The type of a combination of two operands: no affinity, and the collation of the
first operand that has a `COLLATE` in it. -/
def TypeInfo.combine (a b : TypeInfo) : TypeInfo :=
  if a.explicit then { collation := a.collation, explicit := true }
  else if b.explicit then { collation := b.collation, explicit := true }
  else {}

/-- The type of a combination of several operands. -/
def TypeInfo.combineAll (ts : List TypeInfo) : TypeInfo :=
  match ts.find? (·.explicit) with
  | some t => { collation := t.collation, explicit := true }
  | none => {}

/-- The collation two compared operands use: the left one's `COLLATE`, the right one's,
the left one's own, the right one's own, else binary. -/
def comparisonCollation (a b : TypeInfo) : Collation :=
  if a.explicit then a.collation.getD .binary
  else if b.explicit then b.collation.getD .binary
  else (a.collation <|> b.collation).getD .binary

/-- The affinity two compared operands use. -/
def comparisonAffinity (a b : TypeInfo) : Affinity := compareAffinity a.affinity b.affinity

/-- A query's result: its columns and its rows. -/
structure ResultSet where
  columns : List ColumnInfo
  rows : List (List Value)
  deriving Inhabited

/-- A named query of a `WITH` clause: its query and column names (and whether it may name
itself), or, while a recursive query runs, the rows it holds so far. A subquery of a running
statement that does not read the statement's row is named too: in its scope and not yet
evaluated, then with its rows once it has been. -/
inductive CteBody where
  | query (q : Query) (columns : List String) (recursive : Bool)
  | rows (r : ResultSet)
  | pending (q : Query) (scope : Scope)
  deriving Inhabited

/-- A named query in force. -/
structure CteBinding where
  name : String
  body : CteBody
  deriving Inhabited

/-- A part of a table's own definition whose expressions follow stricter rules than a
statement's: a `CHECK` constraint, the condition of a partial index, an indexed
expression, or the expression of a generated column. -/
inductive DefinitionPart where
  | check
  | partialIndex
  | indexExpr
  | generated
  deriving BEq, Inhabited

/-- How messages name the expressions of a part of a definition. -/
def DefinitionPart.plural : DefinitionPart → String
  | .check => "CHECK constraints"
  | .partialIndex => "partial index WHERE clauses"
  | .indexExpr => "index expressions"
  | .generated => "generated columns"

/-- What evaluation reads: the database and its schema, the parameters, the named queries
in force (the newest first), the connection's facts for functions, and whether a trigger
is running. -/
structure Env where
  db : Database
  schema : Schema
  params : List Value := []
  ctes : List CteBinding := []
  call : CallContext := {}
  inTrigger : Bool := false
  /-- Whether a window function may stand in the expression being read: in the result
  columns and the `ORDER BY` of a `SELECT`. -/
  windowOk : Bool := false
  /-- The named windows of the `SELECT` being read. -/
  windows : List (String × WindowSpec) := []
  /-- The part of a table's definition the expression being read belongs to, if any. -/
  part : Option DefinitionPart := none
  /-- Whether reading also makes the checks that making a statement's program makes (the
  widths of row values and subqueries, the size of hexadecimal literals, `RAISE` outside a
  trigger); they are made only once every name of the statement was found. -/
  programChecks : Bool := false
  deriving Inhabited

/-- Make names unique: a repeated name gets `:1`, `:2`, … after it (in place of such a
suffix it already has). -/
def uniqueNames (names : List String) : List String :=
  names.foldl (fun acc n =>
    let taken (m : String) : Bool := acc.any (sameName · m)
    if !taken n then acc ++ [n]
    else
      let base :=
        let cs := n.toList
        let ds := (cs.reverse.takeWhile Char.isDigit).length
        if ds < cs.length && cs.length > 1 && (cs.reverse.drop ds).head? == some ':' && ds > 0 then
          String.ofList (cs.take (cs.length - ds - 1))
        else n
      let rec pick : Nat → Nat → String
        | 0, k => base ++ ":" ++ toString k
        | fuel + 1, k =>
          let cand := base ++ ":" ++ toString k
          if taken cand then pick fuel (k + 1) else cand
      acc ++ [pick (acc.length + 2) 1]) []

/-- The affinity of a declared type, as the type of a result column. -/
def typeAffinity (t : String) : Affinity := Affinity.ofType t

end Windowing.Sql
