import Windowing.Sql.Database
import Windowing.Sql.Parse.Statement
import Windowing.Sql.Error

set_option autoImplicit false

/-! # Schemas

The schema is read from the texts of the schema table's entries: tables with their
columns and constraints, indexes, views and triggers.

A table's column that is declared `INTEGER PRIMARY KEY` (the type the standard `INTEGER`,
the key not descending) is another name for the row id. Every other primary key, and every
`UNIQUE` constraint, is a key that no two rows may share; such keys are checked in the
reverse of the order they were made, those of later indexes first. Triggers on one table
fire in the reverse of the order they were made. -/

namespace Windowing.Sql

/-- The declared types that are standard: the only ones a strict table's columns may have. -/
inductive StandardType where
  | any
  | blob
  | int
  | integer
  | real
  | text
  deriving BEq, Inhabited

/-- The name a standard type is known by. -/
def StandardType.name : StandardType → String
  | .any => "ANY"
  | .blob => "BLOB"
  | .int => "INT"
  | .integer => "INTEGER"
  | .real => "REAL"
  | .text => "TEXT"

/-- The affinity of a column of a standard type, in a table that is not strict. -/
def StandardType.affinity : StandardType → Affinity
  | .any => .numeric
  | .blob => .blob
  | .int | .integer => .integer
  | .real => .real
  | .text => .text

/-- Whether a character opens a quoted name or string. -/
def isQuoteChar (c : Char) : Bool := c == '"' || c == '\'' || c == '`' || c == '['

/-- The text inside a quoted text, with doubled quotes read as one; a text that does not
start with a quote is as it is. What follows the closing quote is dropped. -/
def dequoteText (s : String) : String :=
  match s.toList with
  | q :: rest =>
    if !isQuoteChar q then s
    else
      let close := if q == '[' then ']' else q
      let rec go : List Char → List Char → List Char
        | [], acc => acc.reverse
        | c :: more, acc =>
          if c == close then
            match more with
            | d :: after => if d == close then go after (c :: acc) else acc.reverse
            | [] => acc.reverse
          else go more (c :: acc)
      String.ofList (go rest [])
  | [] => s

/-- The standard type a declared type names: the whole declaration is the type's name in
any case, or that name in quotes (with no other quote inside). -/
def StandardType.ofDeclared? (declared : String) : Option StandardType :=
  let cs := declared.toList
  let bare :=
    match cs with
    | q :: rest@(_ :: _) =>
      if isQuoteChar q && !(rest.dropLast.any isQuoteChar) then String.ofList rest.dropLast else declared
    | _ => declared
  [StandardType.any, .blob, .int, .integer, .real, .text].find? fun t => t.name == bare.toUpper

/-- The name a stored value's type is reported by. -/
def Value.storageName : Value → String
  | .null => "NULL"
  | .int _ => "INT"
  | .real _ => "REAL"
  | .text _ => "TEXT"
  | .blob _ => "BLOB"

/-- Whether a strict table's column of a type takes a value, after its affinity: null
always, an integer as a real too. -/
def StandardType.admits : StandardType → Value → Bool
  | _, .null | .any, _ => true
  | .blob, .blob _ => true
  | .int, .int _ | .integer, .int _ => true
  | .real, .real _ | .real, .int _ => true
  | .text, .text _ => true
  | _, _ => false

/-- A column of a table. -/
structure Column where
  name : String
  /-- The declared type, by its standard name when it has one. -/
  type : String := ""
  /-- The standard type it is declared with, if any. -/
  standard : Option StandardType := none
  affinity : Affinity := .blob
  notNull : Bool := false
  notNullConflict : Option Conflict := none
  default : Option Expr := none
  collation : Collation := .binary
  generated : Option Expr := none
  deriving Inhabited

/-- A part of a key: a column by its position, or an expression, with a collation. -/
inductive KeyPart where
  | column (index : Nat) (collation : Collation)
  | expr (e : Expr) (collation : Collation)
  deriving Inhabited

/-- A key that no two rows of a table may share: the index that keeps it, its parts, how
a conflict is resolved, whether it is the primary key, and the rows it covers. -/
structure Key where
  name : String
  parts : List KeyPart
  conflict : Option Conflict := none
  primary : Bool := false
  filter : Option Expr := none
  deriving Inhabited

/-- A table. -/
structure Table where
  name : String
  columns : List Column
  /-- The column that is another name for the row id. -/
  rowidAlias : Option Nat := none
  rowidConflict : Option Conflict := none
  autoincrement : Bool := false
  withoutRowid : Bool := false
  /-- Whether the columns take only values of their types. -/
  strict : Bool := false
  /-- The `CHECK` constraints, each with the name it is reported by. -/
  checks : List (String × Expr) := []
  keys : List Key := []
  sql : String := ""
  addColumnAt : Nat := 0
  deriving Inhabited

/-- A view. -/
structure View where
  name : String
  columns : List String
  query : Query
  deriving Inhabited

/-- A trigger. -/
structure Trigger where
  name : String
  table : String
  time : TriggerTime
  event : TriggerEvent
  whenClause : Option Expr
  body : List Stmt
  deriving Inhabited

/-- An index made by `CREATE INDEX`. -/
structure Index where
  name : String
  table : String
  unique : Bool
  columns : List IndexedColumn
  filter : Option Expr
  deriving Inhabited

/-- A schema. -/
structure Schema where
  tables : List Table := []
  views : List View := []
  indexes : List Index := []
  triggers : List Trigger := []
  deriving Inhabited

/-- A collation by name, or the failure to find it. -/
def collationNamed (n : String) : Except String Collation :=
  match Collation.ofName? n.toUpper with
  | some c => .ok c
  | none => .error ("no such collation sequence: " ++ n)

/-- The position of a column by name. -/
def columnIndex? (cols : List Column) (n : String) : Option Nat :=
  cols.findIdx? fun c => sameName c.name n

/-- The parts of a key over named columns. -/
def keyParts (cols : List Column) (ics : List IndexedColumn) : Except String (List KeyPart) :=
  ics.mapM fun ic => do
    match ic.e with
    | .column [] n _ =>
      match columnIndex? cols n with
      | some i =>
        let coll ← match ic.collation with
          | some c => collationNamed c
          | none => pure (cols.getD i default).collation
        pure (.column i coll)
      | none => throw ("no such column: " ++ n)
    | e =>
      let coll ← match ic.collation with
        | some c => collationNamed c
        | none => pure .binary
      pure (.expr e coll)

/-- Whether an expression may be a column's default: it reads no column, parameter or
subquery, raises nothing and calls no window function (other functions may stand in it, and
the names `true` and `false` read as values). -/
def Expr.fitsDefault : Nat → Expr → Bool
  | 0, _ => true
  | fuel + 1, e =>
    match e with
    | .column [] n _ => sameName n "true" || sameName n "false"
    | .column .. | .param _ | .inQuery .. | .inTable .. | .exists _ | .scalar _ | .raise .. | .subColumn .. => false
    | .call _ _ args _ filter _ windowSpec => windowSpec.isNone && (args ++ filter.toList).all (Expr.fitsDefault fuel)
    | e => e.operands.all (Expr.fitsDefault fuel)

/-- The failure of a generated column in a primary key. -/
def generatedKeyFailure : String := "generated columns cannot be part of the PRIMARY KEY"

/-- What a table definition has read so far. -/
structure TableDraft where
  columns : List Column := []
  primary : Option (List IndexedColumn × Option Conflict × Bool × Bool) := none
  uniques : List (List IndexedColumn × Option Conflict × Bool) := []
  checks : List (String × Expr) := []

/-- Read a column definition into a draft. -/
def TableDraft.addColumn (tableName : String) (d : TableDraft) (c : ColumnDef) : Except String TableDraft := do
  if d.columns.any (fun x => sameName x.name c.name) then
    throw ("duplicate column name: " ++ c.name)
  let standard := StandardType.ofDeclared? c.type
  let type := match standard with
    | some t => t.name
    | none => dequoteText c.type
  let affinity := match standard with
    | some t => t.affinity
    | none => Affinity.ofColumnType type
  let base : Column := { name := c.name, type, standard, affinity }
  let self : IndexedColumn := { e := .column [] c.name false }
  foldFromM c.constraints ({ d with columns := d.columns ++ [base] }) fun d (named, cc) => do
    let idx := d.columns.length - 1
    let update (f : Column → Column) : TableDraft :=
      { d with columns := d.columns.set idx (f (d.columns.getD idx base)) }
    let col := d.columns.getD idx base
    match cc with
    | .notNull conflict => pure (update fun col => { col with notNull := true, notNullConflict := conflict })
    | .default e _ =>
      if !e.fitsDefault 10000 then throw ("default value of column [" ++ c.name ++ "] is not constant")
      if col.generated.isSome then throw "cannot use DEFAULT on a generated column"
      pure (update fun col => { col with default := some e })
    | .collate n =>
      let coll ← collationNamed n
      pure (update fun col => { col with collation := coll })
    | .primaryKey desc conflict auto =>
      if d.primary.isSome then throw ("table \"" ++ tableName ++ "\" has more than one primary key")
      if col.generated.isSome then throw generatedKeyFailure
      pure { d with primary := some ([{ self with desc }], conflict, auto, desc) }
    | .unique conflict => pure { d with uniques := d.uniques ++ [([self], conflict, false)] }
    | .check e text => pure { d with checks := d.checks ++ [(named.getD text, e)] }
    | .generated e _ =>
      if col.default.isSome || col.generated.isSome then
        throw ("error in generated column \"" ++ c.name ++ "\"")
      let inKey := d.primary.any fun (ics, _) => ics.any fun ic => match ic.e with
        | .column [] n _ => sameName n c.name
        | _ => false
      if inKey then throw generatedKeyFailure
      -- a generated column that only names another column reads it through a unary plus
      let e := match e with
        | .column [] _ _ => .unary .pos e
        | e => e
      pure (update fun col => { col with generated := some e })
    | .references | .null => pure d

/-- Read a table constraint into a draft. -/
def TableDraft.addConstraint (tableName : String) (d : TableDraft) (nc : Option String × TableConstraint) :
    Except String TableDraft :=
  match nc.2 with
  | .primaryKey cols conflict auto =>
    let generated := cols.any fun ic => match ic.e with
      | .column [] n _ | .lit (.text n) =>
        d.columns.any fun c => sameName c.name n && c.generated.isSome
      | _ => false
    if d.primary.isSome then .error ("table \"" ++ tableName ++ "\" has more than one primary key")
    else if generated then .error generatedKeyFailure
    else .ok { d with primary := some (cols, conflict, auto, false) }
  | .unique cols conflict => .ok { d with uniques := d.uniques ++ [(cols, conflict, false)] }
  | .check e text => .ok { d with checks := d.checks ++ [(nc.1.getD text, e)] }
  | .foreignKey => .ok d

/-- The table a definition makes. -/
def Table.define (name : String) (cols : List ColumnDef) (cons : List (Option String × TableConstraint))
    (options : TableOptions) (sql : String) (addColumnAt : Nat) : Except String Table := do
  let withoutRowid := options.withoutRowid
  let d ← cols.foldlM (TableDraft.addColumn name) {}
  let d ← cons.foldlM (TableDraft.addConstraint name) d
  -- a strict table's columns have standard types; those of type ANY keep values as they are
  let columns ← if !options.strict then pure d.columns else
    d.columns.mapM fun c =>
      match c.standard with
      | some .any => pure { c with affinity := .blob }
      | some _ => pure c
      | none =>
        if c.type.isEmpty then throw ("missing datatype for " ++ name ++ "." ++ c.name)
        else throw ("unknown datatype for " ++ name ++ "." ++ c.name ++ ": \"" ++ c.type ++ "\"")
  -- the keys in the order they are made
  let (aliasName, aliasConflict, auto, pkKeys) ← match d.primary with
    | none =>
      if withoutRowid then throw ("PRIMARY KEY missing on table " ++ name)
      pure (none, none, false, [])
    | some (ics, conflict, auto, desc) =>
      let single : Option Nat := match ics with
        | [ic] => match ic.e with
          | .column [] n _ => columnIndex? columns n
          | _ => none
        | _ => none
      match single with
      | some i =>
        if (columns.getD i default).standard == some .integer && !desc && !withoutRowid then
          pure (some i, conflict, auto, [])
        else if auto then throw "AUTOINCREMENT is only allowed on an INTEGER PRIMARY KEY"
        else
          let parts ← keyParts columns ics
          pure (none, none, false, [({ name := "", parts, conflict, primary := true } : Key)])
      | none =>
        if auto then throw "AUTOINCREMENT is only allowed on an INTEGER PRIMARY KEY"
        let parts ← keyParts columns ics
        pure (none, none, false, [({ name := "", parts, conflict, primary := true } : Key)])
  let uniqueKeys ← d.uniques.mapM fun (ics, conflict, _) => do
    let parts ← keyParts columns ics
    pure ({ name := "", parts, conflict } : Key)
  -- the primary key's columns of a table without row ids, or of a strict table, hold no nulls
  let columns := if withoutRowid || options.strict then
      columns.mapIdx fun i c =>
        if pkKeys.any (fun k => k.parts.any fun p => match p with | .column j _ => j == i | _ => false)
        then { c with notNull := true } else c
    else columns
  let made := (pkKeys ++ uniqueKeys).mapIdx fun i k =>
    { k with name := "sqlite_autoindex_" ++ name ++ "_" ++ toString (i + 1) }
  return { name, columns, rowidAlias := aliasName, rowidConflict := aliasConflict,
           autoincrement := auto, withoutRowid, strict := options.strict, checks := d.checks, keys := made.reverse,
           sql, addColumnAt }

namespace Schema

/-- The table of a name. -/
def table? (s : Schema) (n : String) : Option Table := s.tables.find? fun t => sameName t.name n

/-- The view of a name. -/
def view? (s : Schema) (n : String) : Option View := s.views.find? fun v => sameName v.name n

/-- The index of a name. -/
def index? (s : Schema) (n : String) : Option Index := s.indexes.find? fun i => sameName i.name n

/-- The trigger of a name. -/
def trigger? (s : Schema) (n : String) : Option Trigger := s.triggers.find? fun t => sameName t.name n

/-- Add an index; a unique one adds its key to its table, checked before the older ones. -/
def addIndex (s : Schema) (ix : Index) : Schema :=
  let s := { s with indexes := s.indexes ++ [ix] }
  if !ix.unique then s
  else
    { s with tables := s.tables.map fun t =>
        if sameName t.name ix.table then
          match keyParts t.columns ix.columns with
          | .ok parts => { t with keys := { name := ix.name, parts, filter := ix.filter } :: t.keys }
          | .error _ => t
        else t }

/-- Read one entry of the schema table into the schema. -/
def addEntry (s : Schema) (e : SchemaEntry) : Schema :=
  match e.sql with
  | none => s
  | some sql =>
    match parseStatement sql with
    | .ok (some (.createTable _ _ q cols cons options text addAt)) =>
      match Table.define q.name cols cons options text addAt with
      | .ok t => { s with tables := s.tables ++ [t] }
      | .error _ => s
    | .ok (some (.createIndex unique _ q table cols filter _)) =>
      s.addIndex { name := q.name, table, unique, columns := cols, filter }
    | .ok (some (.createView _ _ q cols sel _)) =>
      { s with views := s.views ++ [{ name := q.name, columns := cols, query := sel }] }
    | .ok (some (.createTrigger _ _ q time event table w body _)) =>
      { s with triggers := { name := q.name, table, time, event, whenClause := w, body } :: s.triggers }
    | _ => s

end Schema

/-- The schema a database's entries define. -/
def Database.schema (d : Database) : Schema := d.entries.foldl Schema.addEntry {}

end Windowing.Sql
