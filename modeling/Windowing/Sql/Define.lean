import Windowing.Sql.Change
import Windowing.Sql.Collating

set_option autoImplicit false

/-! # Defining, removing and altering objects

`CREATE`, `DROP` and `ALTER TABLE` change the schema table:

* a new object's name must not start with `sqlite_`, and must not be taken (tables and
  views share names, indexes have their own, and so do triggers); with `IF NOT EXISTS` a
  taken name leaves everything as it is;
* a table's definition also makes an index entry for each of its `PRIMARY KEY` and
  `UNIQUE` constraints (`sqlite_autoindex_T_N`), and, for the first table with
  `AUTOINCREMENT`, the table `sqlite_sequence`;
* `CREATE TABLE … AS` names its columns after the query's result and types them by their
  affinity, writing its own definition text;
* a unique index cannot be made over rows that clash;
* dropping a table drops its indexes and triggers and forgets its sequence;
* renaming a table or a column rewrites the definition texts that name it; a new column's
  definition is spliced into its table's text after the last column. -/

namespace Windowing.Sql

/-- Whether a name is kept for the database's own objects. -/
def isReservedName (n : String) : Bool := (foldName n).startsWith "sqlite_"

/-- A new object's name must not be one kept for the database's own objects. -/
def checkObjectName (n : String) : Except String Unit :=
  if isReservedName n then .error ("object name reserved for internal use: " ++ n) else .ok ()

/-- The only schemas are `main` and `temp`. -/
def checkSchemaName (q : QualName) : Except String Unit :=
  match q.schema with
  | some s => if sameName s "main" || sameName s "temp" then .ok () else .error ("unknown database " ++ s)
  | none => .ok ()

/-- A name as written with its schema. -/
def QualName.written (q : QualName) : String :=
  match q.schema with
  | some s => s ++ "." ++ q.name
  | none => q.name

/-- The words that are keywords of the language. -/
def keywordList : List String :=
  ["ABORT", "ACTION", "ADD", "AFTER", "ALL", "ALTER", "ALWAYS", "ANALYZE", "AND", "AS", "ASC",
   "ATTACH", "AUTOINCREMENT", "BEFORE", "BEGIN", "BETWEEN", "BY", "CASCADE", "CASE", "CAST",
   "CHECK", "COLLATE", "COLUMN", "COMMIT", "CONFLICT", "CONSTRAINT", "CREATE", "CROSS",
   "CURRENT", "CURRENT_DATE", "CURRENT_TIME", "CURRENT_TIMESTAMP", "DATABASE", "DEFAULT",
   "DEFERRABLE", "DEFERRED", "DELETE", "DESC", "DETACH", "DISTINCT", "DO", "DROP", "EACH",
   "ELSE", "END", "ESCAPE", "EXCEPT", "EXCLUDE", "EXCLUSIVE", "EXISTS", "EXPLAIN", "FAIL",
   "FILTER", "FIRST", "FOLLOWING", "FOR", "FOREIGN", "FROM", "FULL", "GENERATED", "GLOB",
   "GROUP", "GROUPS", "HAVING", "IF", "IGNORE", "IMMEDIATE", "IN", "INDEX", "INDEXED",
   "INITIALLY", "INNER", "INSERT", "INSTEAD", "INTERSECT", "INTO", "IS", "ISNULL", "JOIN",
   "KEY", "LAST", "LEFT", "LIKE", "LIMIT", "MATCH", "MATERIALIZED", "NATURAL", "NO", "NOT",
   "NOTHING", "NOTNULL", "NULL", "NULLS", "OF", "OFFSET", "ON", "OR", "ORDER", "OTHERS",
   "OUTER", "OVER", "PARTITION", "PLAN", "PRAGMA", "PRECEDING", "PRIMARY", "QUERY", "RAISE",
   "RANGE", "RECURSIVE", "REFERENCES", "REGEXP", "REINDEX", "RELEASE", "RENAME", "REPLACE",
   "RESTRICT", "RETURNING", "RIGHT", "ROLLBACK", "ROW", "ROWS", "SAVEPOINT", "SELECT", "SET",
   "TABLE", "TEMP", "TEMPORARY", "THEN", "TIES", "TO", "TRANSACTION", "TRIGGER", "UNBOUNDED",
   "UNION", "UNIQUE", "UPDATE", "USING", "VACUUM", "VALUES", "VIEW", "VIRTUAL", "WHEN", "WHERE",
   "WINDOW", "WITH", "WITHOUT"]

/-- A name as a definition text writes it: in double quotes when it is not a plain word or
is a keyword. -/
def quoteIdent (n : String) : String :=
  let cs := n.toList
  let plain := !cs.isEmpty && !(cs.headD ' ').isDigit &&
    cs.all (fun c => c.isAlphanum || c == '_') && !keywordList.contains n.toUpper
  if plain then n else "\"" ++ n.replace "\"" "\"\"" ++ "\""

/-- A name always in double quotes. -/
def doubleQuoted (n : String) : String := "\"" ++ n.replace "\"" "\"\"" ++ "\""

/-- The type a made definition gives a column of an affinity. -/
def Affinity.typeWord : Affinity → String
  | .blob => ""
  | .text => " TEXT"
  | .numeric => " NUM"
  | .integer => " INT"
  | .real => " REAL"

/-- The definition text of a table made from a query: on one line when its names are
short, else one column to a line. -/
def createTableText (name : String) (cols : List (String × Affinity)) : String :=
  let width (n : String) : Nat := (Utf8.bytes n).length + 2 + (n.toList.filter (· == '"')).length
  let n := cols.foldl (fun acc (c, _) => acc + width c + 5) 0 + width name
  let (sep, sep2, fin) := if n < 50 then ("", ",", ")") else ("\n  ", ",\n  ", "\n)")
  "CREATE TABLE " ++ quoteIdent name ++ "(" ++
    String.join (cols.zipIdx.map fun ((c, a), i) => (if i == 0 then sep else sep2) ++ quoteIdent c ++ a.typeWord) ++
    fin

/-- Replace spans of a text (start and length, in characters) with new texts. -/
def replaceSpans (s : String) (edits : List (Nat × Nat × String)) : String :=
  let cs := s.toList
  let sorted := edits.mergeSort fun a b => a.1 ≤ b.1
  let (out, pos) := sorted.foldl (fun (acc : List Char × Nat) (st, len, rep) =>
    if st < acc.2 then acc
    else (acc.1 ++ (cs.drop acc.2).take (st - acc.2) ++ rep.toList, st + len)) ([], 0)
  String.ofList (out ++ cs.drop pos)

/-- Whether a token is a name (a word or a quoted name) equal to `n`. -/
def Token.names (t : Token) (n : String) : Bool :=
  (t.kind == .word || t.kind == .quoted) && sameName t.nameValue n

/-- The words after which a name is a table's. -/
def tableContextWords : List String := ["TABLE", "EXISTS", "ON", "FROM", "JOIN", "INTO", "UPDATE", "REFERENCES"]

/-- A definition text with the references to a table renamed (in double quotes). -/
def renameTableRefs (sql old new : String) : String :=
  let toks := tokenize sql
  let edits := toks.zipIdx.filterMap fun (t, k) =>
    let prev := if k == 0 then none else toks[k - 1]?
    let next := toks[k + 1]?
    let inContext := match prev with
      | some p => (p.kind == .word && tableContextWords.contains p.text.toUpper) || p.isOp ","
      | none => false
    let qualifier := match next with
      | some n => n.isOp "."
      | none => false
    if t.names old && (inContext || qualifier) then some (t.start, t.text.length, doubleQuoted new) else none
  replaceSpans sql edits

/-- The text a renamed column is written with in place of a token. -/
def columnRenameText (t : Token) (new : String) : String :=
  if t.kind == .quoted then doubleQuoted new else quoteIdent new

/-- A table's definition text with a column renamed (leaving out the table's name and the
columns of other tables that a `REFERENCES` clause names). -/
def renameColumnInTable (sql old new : String) : String :=
  let toks := tokenize sql
  let (edits, _, _) := toks.zipIdx.foldl (fun (acc : List (Nat × Nat × String) × Nat × Bool) (t, k) =>
    let (es, depth, inRefs) := acc
    let prev := if k == 0 then none else toks[k - 1]?
    let afterTableWord := match prev with
      | some p => p.isWord "TABLE" || p.isWord "EXISTS"
      | none => false
    if t.isWord "REFERENCES" then (es, depth, true)
    else if inRefs && t.isOp "(" then (es, depth + 1, true)
    else if inRefs && t.isOp ")" then (es, depth - 1, depth > 1)
    else if inRefs then (es, depth, inRefs && (depth > 0 || t.kind == .word || t.kind == .quoted))
    else if t.names old && !afterTableWord then (es ++ [(t.start, t.text.length, columnRenameText t new)], depth, false)
    else (es, depth, false)) ([], 0, false)
  replaceSpans sql edits

/-- An index's definition text with a column of its table renamed. -/
def renameColumnInIndex (sql old new : String) : String :=
  let toks := tokenize sql
  let start := (toks.findIdx? (·.isOp "(")).getD toks.length
  let edits := toks.zipIdx.filterMap fun (t, k) =>
    if k > start && t.names old then some (t.start, t.text.length, columnRenameText t new) else none
  replaceSpans sql edits

/-- A trigger's definition text with a column of its table renamed where it is qualified by
`NEW`, `OLD` or the table, or listed after `UPDATE OF`. -/
def renameColumnInTrigger (sql table old new : String) : String :=
  let toks := tokenize sql
  let (edits, _) := toks.zipIdx.foldl (fun (acc : List (Nat × Nat × String) × Bool) (t, k) =>
    let (es, inOf) := acc
    let prev := if k == 0 then none else toks[k - 1]?
    let qual := if k < 2 then none else toks[k - 2]?
    let qualified := match prev, qual with
      | some p, some q => p.isOp "." && (q.names "new" || q.names "old" || q.names table)
      | _, _ => false
    let inOf := if t.isWord "OF" then true else if t.isWord "ON" then false else inOf
    if t.names old && (qualified || inOf) then (es ++ [(t.start, t.text.length, columnRenameText t new)], inOf)
    else (es, inOf)) ([], false)
  replaceSpans sql edits

/-- The spans of a table's column definitions in its definition text: where each column's
name starts. -/
def columnStarts (sql : String) : List Nat :=
  let toks := tokenize sql
  let (starts, _, _) := toks.foldl (fun (acc : List Nat × Nat × Bool) t =>
    let (ss, depth, atStart) := acc
    if t.isOp "(" then (if depth == 0 then (ss, 1, true) else (ss, depth + 1, false))
    else if t.isOp ")" then (ss, depth - 1, false)
    else if t.isOp "," && depth == 1 then (ss, depth, true)
    else if atStart && depth == 1 then
      let isConstraint := ["CONSTRAINT", "PRIMARY", "UNIQUE", "CHECK", "FOREIGN"].any t.isWord
      if isConstraint then (ss, depth, false) else (ss ++ [t.start], depth, false)
    else (ss, depth, false)) ([], 0, false)
  starts

/-- A table's definition text without a column: from its name to the next column's name,
or, for the last, from the comma before it to the end of the columns. -/
def dropColumnText (sql : String) (i : Nat) (addAt : Nat) : String :=
  let starts := columnStarts sql
  let cs := sql.toList
  match starts[i]?, starts[i + 1]? with
  | some a, some b => String.ofList (cs.take a ++ cs.drop b)
  | some a, none =>
    let before := (cs.take a).reverse
    let back := (before.takeWhile (· != ',')).length + 1
    String.ofList (cs.take (a - back) ++ cs.drop addAt)
  | _, _ => sql

/-- Whether a default value is a constant a new column of a table with rows may take. -/
def Expr.isConstantDefault : Expr → Bool
  | .lit _ | .number _ _ => true
  | .unary .neg e | .unary .pos e => e.isConstantDefault
  | .cast e _ => e.isConstantDefault
  | .column [] n _ => sameName n "true" || sameName n "false"
  | _ => false

/-- The object of a name: table or view. -/
def Schema.relationKind? (s : Schema) (n : String) : Option String :=
  if (s.table? n).isSome then some "table"
  else if (s.view? n).isSome then some "view"
  else none

/-- A failure that adding a column meets in the rows the table already holds: a logic error,
as a failure found in the statement's text is. -/
def addColumnFailure (msg : String) : SqlError := SqlError.logic msg

/-- Check the parts of a table's definition that read its own row: the `CHECK` constraints
(the first that fails ends them), then each generated column, which may not read the row
id. A table whose columns are all generated is refused whatever they read. Once every name
was found, the generated columns must make a program and have an order in which each is
worked out after those it reads. -/
def Table.checkOwnParts (env : Env) (t : Table) : Except String Unit := do
  let frame := t.frameAs t.name
  let gens := t.columns.filterMap (·.generated)
  let walk (env : Env) : CheckM Unit := do
    let _ ← t.checks.anyM fun (_, e) => do
      checkExpr evalFuel { env with part := some .check } [{ frames := [frame] }] false e
      pure (← get).isSome
    for g in gens do
      checkExpr evalFuel { env with part := some .generated } [{ frames := [{ frame with hasRowid := false }] }] false g
  let allGenerated := !gens.isEmpty && t.columns.all (·.generated.isSome)
  match CheckM.strict (walk env) with
  | .error m => throw (if allGenerated then "must have at least one non-generated column" else m)
  | .ok () =>
    if allGenerated then throw "must have at least one non-generated column"
    CheckM.strict (walk { env with programChecks := true })
    let _ ← t.generationOrder

/-- Check the parts of an index on a table that read its rows: the condition of a partial
index, then the indexed columns and expressions (which may not read the row id) until one
has failed. -/
def Table.checkIndexParts (env : Env) (t : Table) (cols : List IndexedColumn) (filter : Option Expr) :
    Except String Unit :=
  let frame := t.frameAs t.name
  CheckM.strict do
    for f in filter do
      checkExpr evalFuel { env with part := some .partialIndex } [{ frames := [frame] }] false f
    let _ ← cols.anyM fun ic => do
      checkExpr evalFuel { env with part := some .indexExpr } [{ frames := [{ frame with hasRowid := false }] }] false ic.e
      pure (← get).isSome

namespace Database

/-- Read a database's schema again after an `ALTER TABLE` (`what` names it in a failure):
entry by entry, each table and index must still be well defined; then each view and each
trigger on a table must read only names that exist. -/
def testSchema (db : Database) (env : Env) (what : String) : Except String Unit := do
  let schema := db.schema
  let env : Env := { env with db, schema }
  let failed (kind name m : String) : String := "error in " ++ kind ++ " " ++ name ++ " after " ++ what ++ ": " ++ m
  for e in db.entries do
    match e.sql.map parseStatement with
    | some (.ok (some (.createTable _ _ q cols cons options text addAt))) =>
      match Table.define q.name cols cons options text addAt >>= fun nt => nt.checkOwnParts env with
      | .ok () => pure ()
      | .error m => throw (failed "table" e.name m)
    | some (.ok (some (.createIndex _ _ _ table cols filter _))) =>
      match schema.table? table with
      | some it =>
        match it.checkIndexParts env cols filter with
        | .ok () => pure ()
        | .error m => throw (failed "index" e.name m)
      | none => pure ()
    | _ => pure ()
  for e in db.entries do
    match e.kind with
    | .view =>
      match schema.view? e.name with
      | some v =>
        match queryColumns evalFuel env [] v.query with
        | .ok _ => pure ()
        | .error m => throw (failed "view" e.name m)
      | none => pure ()
    | .trigger =>
      match schema.trigger? e.name, schema.table? e.table with
      | some tr, some tt =>
        let k : ChangeKind := match tr.event with
          | .insert => .insert
          | .delete => .delete
          | .update _ => .update
        let lvl := tt.triggerLevel k none none
        let inner : Env := { env with inTrigger := true, ctes := [] }
        let checked : Except String Unit := do
          CheckM.strict (tr.whenClause.toList.forM (checkExpr evalFuel inner [lvl] false))
          tr.body.forM (checkChange evalFuel inner [lvl] [tr.name])
        match checked with
        | .ok () => pure ()
        | .error m => throw (failed "trigger" e.name m)
      | _, _ => pure ()
    | _ => pure ()

/-- Whether an index entry (one a table's constraint made) of a name exists. -/
def hasIndexEntry (db : Database) (n : String) : Bool :=
  db.entries.any fun e => e.kind == .index && sameName e.name n

/-- Make a table. -/
def createTable (db : Database) (env : Env) (ifNotExists : Bool) (q : QualName) (cols : List ColumnDef)
    (cons : List (Option String × TableConstraint)) (options : TableOptions) (sql : String) (addAt : Nat) :
    Except String Database := do
  checkSchemaName q
  checkObjectName q.name
  match env.schema.relationKind? q.name with
  | some kind => if ifNotExists then return db else throw (kind ++ " " ++ q.name ++ " already exists")
  | none => pure ()
  if db.hasIndexEntry q.name then throw ("there is already an index named " ++ q.name)
  let t ← Table.define q.name cols cons options sql addAt
  t.checkOwnParts env
  let db := db.addEntry { kind := .table, name := q.name, table := q.name, rootPage := db.nextPage, sql := some sql }
  let made := t.keys.reverse.filter fun k => !(options.withoutRowid && k.primary)
  let db := made.foldl (fun d k =>
    d.addEntry { kind := .index, name := k.name, table := q.name, rootPage := d.nextPage, sql := none }) db
  let db := if t.autoincrement && (db.entry? "sqlite_sequence").isNone then
      db.addEntry { kind := .table, name := "sqlite_sequence", table := "sqlite_sequence",
                    rootPage := db.nextPage, sql := some "CREATE TABLE sqlite_sequence(name,seq)" }
    else db
  pure (db.setRows q.name [])

/-- Make a table from a query's result. -/
def createTableAs (db : Database) (env : Env) (ifNotExists : Bool) (q : QualName) (sel : Query) :
    Fallible Database := do
  liftCheck (checkSchemaName q)
  liftCheck (checkObjectName q.name)
  match env.schema.relationKind? q.name with
  | some kind => if ifNotExists then return db else throw (SqlError.logic (kind ++ " " ++ q.name ++ " already exists"))
  | none => pure ()
  if db.hasIndexEntry q.name then throw (SqlError.logic ("there is already an index named " ++ q.name))
  let _ ← liftCheck (queryColumns evalFuel env [] sel)
  let _ ← liftCheck (queryColumns evalFuel { env with programChecks := true } [] sel)
  match (Stmt.createTableAs false ifNotExists q sel).collationFailure env.schema with
  | some m => throw (SqlError.logic m)
  | none => pure ()
  let rs ← runQuery evalFuel env [] sel
  let cols := rs.columns.map fun c => (c.name, c.affinity.getD .blob)
  let sql := createTableText q.name cols
  let rows := rs.rows.zipIdx.map fun (vs, i) =>
    ({ rowid := (i : Int) + 1, values := (cols.zip vs).map fun ((_, a), v) => v.withAffinity a } : Row)
  let db := db.addEntry { kind := .table, name := q.name, table := q.name, rootPage := db.nextPage, sql := some sql }
  pure (db.setRows q.name rows)

/-- Make an index. -/
def createIndex (db : Database) (env : Env) (unique ifNotExists : Bool) (q : QualName) (table : String)
    (cols : List IndexedColumn) (filter : Option Expr) (sql : String) : Fallible Database := do
  liftCheck (checkSchemaName q)
  let t ← match env.schema.table? table with
    | some t => pure t
    | none =>
      if (env.schema.view? table).isSome then throw (SqlError.logic "views may not be indexed")
      else if isSchemaTableName table then throw (SqlError.logic "table sqlite_master may not be indexed")
      else throw (SqlError.logic ("no such table: main." ++ table))
  if isReservedName t.name then throw (SqlError.logic ("table " ++ t.name ++ " may not be indexed"))
  liftCheck (checkObjectName q.name)
  if (env.schema.relationKind? q.name).isSome then
    throw (SqlError.logic ("there is already a table named " ++ q.name))
  if db.hasIndexEntry q.name then
    if ifNotExists then return db else throw (SqlError.logic ("index " ++ q.name ++ " already exists"))
  liftCheck (t.checkIndexParts env cols filter)
  let parts ← liftCheck (keyParts t.columns cols)
  let key : Key := { name := q.name, parts, filter }
  let rows := db.rows t.name
  -- every row's entry is worked out before any two are compared
  for r in rows do
    if ← inKey env t key r then
      let _ ← keyOf env t key r
  if unique then
    for r in rows do
      let clashes ← keyClashes env t key (rows.filter (·.rowid < r.rowid)) r none
      if !clashes.isEmpty then throw (keyFailure t key .abort)
  pure (db.addEntry { kind := .index, name := q.name, table := t.name, rootPage := db.nextPage, sql := some sql })

/-- Make a view. -/
def createView (db : Database) (env : Env) (ifNotExists : Bool) (q : QualName) (sql : String) :
    Except String Database := do
  checkSchemaName q
  checkObjectName q.name
  match env.schema.relationKind? q.name with
  | some kind => if ifNotExists then return db else throw (kind ++ " " ++ q.name ++ " already exists")
  | none => pure ()
  if db.hasIndexEntry q.name then throw ("there is already an index named " ++ q.name)
  pure (db.addEntry { kind := .view, name := q.name, table := q.name, sql := some sql })

/-- Make a trigger. -/
def createTrigger (db : Database) (env : Env) (ifNotExists : Bool) (q : QualName) (time : TriggerTime)
    (table : String) (sql : String) : Except String Database := do
  checkSchemaName q
  let (target, isView) ← match env.schema.table? table, env.schema.view? table with
    | some t, _ => pure (t.name, false)
    | none, some v => pure (v.name, true)
    | none, none => throw ("no such table: main." ++ table)
  checkObjectName q.name
  if (env.schema.trigger? q.name).isSome then
    if ifNotExists then return db else throw ("trigger " ++ q.name ++ " already exists")
  if isReservedName target then throw "cannot create trigger on system table"
  if isView && time != .insteadOf then
    throw ("cannot create " ++ (if time == .before then "BEFORE" else "AFTER") ++ " trigger on view: main." ++ target)
  if !isView && time == .insteadOf then throw ("cannot create INSTEAD OF trigger on table: " ++ target)
  pure (db.addEntry { kind := .trigger, name := q.name, table := target, sql := some sql })

/-- Remove an object. -/
def drop (db : Database) (env : Env) (kind : ObjectKind) (ifExists : Bool) (q : QualName) :
    Except String Database := do
  let n := q.name
  let missing (what : String) : Except String Database :=
    if ifExists then .ok db else .error ("no such " ++ what ++ ": " ++ q.written)
  match kind with
  | .table =>
    match env.schema.table? n, env.schema.view? n with
    | some t, _ =>
      if isReservedName t.name then throw ("table " ++ t.name ++ " may not be dropped")
      let db := { db with entries := db.entries.filter fun e => !(sameName e.table t.name || sameName e.name t.name) }
      let db := db.dropRows t.name
      let seq := db.rows "sqlite_sequence"
      let db := if (db.entry? "sqlite_sequence").isSome then
          db.setRows "sqlite_sequence" (seq.filter fun r => match r.values with
            | .text m :: _ => m != t.name
            | _ => true)
        else db
      pure db
    | none, some v => throw ("use DROP VIEW to delete view " ++ v.name)
    | none, none =>
      if isSchemaTableName n then throw "table sqlite_master may not be dropped" else missing "table"
  | .view =>
    match env.schema.view? n, env.schema.table? n with
    | some v, _ =>
      pure { db with entries := db.entries.filter fun e =>
        !(sameName e.name v.name || (e.kind == .trigger && sameName e.table v.name)) }
    | none, some t => throw ("use DROP TABLE to delete table " ++ t.name)
    | none, none => missing "view"
  | .index =>
    match db.entries.find? fun e => e.kind == .index && sameName e.name n with
    | some e =>
      if e.sql.isNone then throw "index associated with UNIQUE or PRIMARY KEY constraint cannot be dropped"
      else pure (db.removeEntry e.name)
    | none => missing "index"
  | .trigger =>
    match env.schema.trigger? n with
    | some tr => pure (db.removeEntry tr.name)
    | none => missing "trigger"

/-- Rename a table. -/
def renameTable (db : Database) (env : Env) (q : QualName) (new : String) : Except String Database := do
  let (old, isView) ← match env.schema.table? q.name, env.schema.view? q.name with
    | some t, _ => pure (t.name, false)
    | none, some v => pure (v.name, true)
    | none, none => throw ("no such table: " ++ q.written)
  if (env.schema.relationKind? new).isSome || db.hasIndexEntry new then
    throw ("there is already another table or index with this name: " ++ new)
  if isReservedName old then throw ("table " ++ old ++ " may not be altered")
  checkObjectName new
  if isView then throw ("view " ++ old ++ " may not be altered")
  let autoPrefix := "sqlite_autoindex_" ++ old ++ "_"
  let entries := db.entries.map fun e =>
    let sql := if isReservedName e.name || (e.kind == .index && !sameName e.table old) then e.sql
      else e.sql.map fun s => renameTableRefs s old new
    let owned := sameName e.table old && e.kind != .view
    let name :=
      if e.kind == .table && sameName e.name old then new
      else if e.kind == .index && owned && (foldName e.name).startsWith (foldName autoPrefix) then
        "sqlite_autoindex_" ++ new ++ "_" ++ (e.name.drop autoPrefix.length).toString
      else e.name
    { e with sql, name, table := if owned then new else e.table }
  let rows := db.rows old
  let db := ({ db with entries } : Database).dropRows old
  let db := db.setRows new rows
  let seq := db.rows "sqlite_sequence"
  let db := if (db.entry? "sqlite_sequence").isSome then
      db.setRows "sqlite_sequence" (seq.map fun r => match r.values with
        | [.text m, s] => if m == old then { r with values := [.text new, s] } else r
        | _ => r)
    else db
  pure db

/-- Rename a column of a table. -/
def renameColumn (db : Database) (env : Env) (q : QualName) (old new : String) : Except String Database := do
  let t ← match env.schema.table? q.name, env.schema.view? q.name with
    | some t, _ => pure t
    | none, some v =>
      if isReservedName v.name then throw ("table " ++ v.name ++ " may not be altered")
      else throw ("cannot rename columns of view \"" ++ v.name ++ "\"")
    | none, none => throw ("no such table: " ++ q.written)
  if isReservedName t.name then throw ("table " ++ t.name ++ " may not be altered")
  let some i := columnIndex? t.columns old | throw ("no such column: \"" ++ old ++ "\"")
  let oldName := (t.columns.getD i default).name
  let entries := db.entries.map fun e =>
    if e.kind == .table && sameName e.name t.name then { e with sql := e.sql.map (renameColumnInTable · oldName new) }
    else if e.kind == .index && sameName e.table t.name then { e with sql := e.sql.map (renameColumnInIndex · oldName new) }
    else if e.kind == .trigger && sameName e.table t.name then
      { e with sql := e.sql.map (renameColumnInTrigger · t.name oldName new) }
    else e
  let db' : Database := { db with entries }
  match (db'.entries.find? fun e => e.kind == .table && sameName e.name t.name).bind (·.sql) with
  | some sql =>
    match parseStatement sql with
    | .ok (some (.createTable _ _ q' cols cons options text addAt)) =>
      match Table.define q'.name cols cons options text addAt with
      | .ok _ => pure db'
      | .error e => throw ("error in table " ++ t.name ++ " after rename: " ++ e)
    | .error e => throw ("error in table " ++ t.name ++ " after rename: " ++ e)
    | _ => pure db'
  | none => pure db'

/-- Add a column to a table. -/
def addColumn (db : Database) (env : Env) (q : QualName) (c : ColumnDef) (text : String) :
    Fallible Database := do
  let t ← match env.schema.table? q.name, env.schema.view? q.name with
    | some t, _ => pure t
    | none, some _ => throw (SqlError.logic "Cannot add a column to a view")
    | none, none => throw (SqlError.logic ("no such table: " ++ q.written))
  if isReservedName t.name then throw (SqlError.logic ("table " ++ t.name ++ " may not be altered"))
  -- the new column's definition is read as a table's column is
  let _ ← liftCheck (TableDraft.addColumn t.name { columns := t.columns } c)
  for (_, cc) in c.constraints do
    match cc with
    | .primaryKey .. => throw (SqlError.logic "Cannot add a PRIMARY KEY column")
    | .unique _ => throw (SqlError.logic "Cannot add a UNIQUE column")
    | _ => pure ()
  let rows := db.rows t.name
  let dflt : Option Expr := c.constraints.findSome? fun (_, cc) =>
    match cc with
    | .default e _ => match e with
      | .lit .null => none
      | e => some e
    | _ => none
  let notNull := c.constraints.any fun (_, cc) => match cc with | .notNull _ => true | _ => false
  let stored := c.constraints.any fun (_, cc) => match cc with | .generated _ s => s | _ => false
  let generated := c.constraints.any fun (_, cc) => match cc with | .generated _ _ => true | _ => false
  if !rows.isEmpty then
    if stored then throw (addColumnFailure "cannot add a STORED column")
    if !generated && notNull && dflt.isNone then
      throw (addColumnFailure "Cannot add a NOT NULL column with default value NULL")
    if !generated && dflt.any (!·.isConstantDefault) then
      throw (addColumnFailure "Cannot add a column with non-constant default")
  let some entry := db.entries.find? (fun e => e.kind == .table && sameName e.name t.name) |
    throw (SqlError.logic ("no such table: " ++ q.written))
  let sql := entry.sql.getD t.sql
  let cs := sql.toList
  let newSql := String.ofList (cs.take t.addColumnAt) ++ ", " ++ text ++ String.ofList (cs.drop t.addColumnAt)
  -- the table must still be well defined with the new column
  let failed (e : String) : SqlError := SqlError.logic ("error in table " ++ t.name ++ " after add column: " ++ e)
  let grown ← match parseStatement newSql with
    | .ok (some (.createTable _ _ q' cols cons options text addAt)) =>
      match Table.define q'.name cols cons options text addAt with
      | .ok g =>
        match g.checkOwnParts env with
        | .ok () => pure g
        | .error e => throw (failed e)
      | .error e => throw (failed e)
    | .error e => throw (failed e)
    | _ => pure t
  let column := grown.columns.getLast?.getD default
  let value ← match dflt with
    | some e => env.evalClosed e
    | none => pure .null
  let value := value.withAffinity column.affinity
  -- the rows of a strict table take the default, which must be of the column's type
  if grown.strict && !rows.isEmpty && !(column.standard.all (·.admits value)) then
    throw (addColumnFailure "type mismatch on DEFAULT")
  let db : Database := { db with entries := db.entries.map fun (e : SchemaEntry) =>
    if e.kind == ObjectKind.table && sameName e.name t.name then { e with sql := some newSql } else e }
  let db := db.setRows t.name (rows.map fun (r : Row) => { r with values := r.values ++ [value] })
  -- a generated column is worked out for each row; the rows must meet the table's NOT NULL
  -- and CHECK constraints with the new column
  let schema := db.schema
  match schema.table? t.name with
  | some t' =>
    let env' : Env := { env with db, schema }
    let rows ← if generated then
        (db.rows t.name).mapM fun r => do pure { r with values := ← t'.withGenerated env' r.rowid r.values }
      else pure (db.rows t.name)
    let db := db.setRows t.name rows
    let env' : Env := { env' with db }
    for r in rows do
      if column.notNull && generated && (r.values.getLast?.getD .null).isNull then
        throw (addColumnFailure "NOT NULL constraint failed")
      for (_, e) in t'.checks do
        let v ← evalInRow env' "a CHECK constraint" t' r e
        if v.truth? == some false then throw (addColumnFailure "CHECK constraint failed")
    pure db
  | none => pure db

/-- Drop a column of a table. -/
def dropColumn (db : Database) (env : Env) (q : QualName) (n : String) : Except String Database := do
  let t ← match env.schema.table? q.name, env.schema.view? q.name with
    | some t, _ => pure t
    | none, some v => throw ("cannot drop column from view \"" ++ v.name ++ "\"")
    | none, none => throw ("no such table: " ++ q.written)
  if isReservedName t.name then throw ("table " ++ t.name ++ " may not be altered")
  let some i := columnIndex? t.columns n | throw ("no such column: \"" ++ n ++ "\"")
  let col := (t.columns.getD i default).name
  let inKey (k : Key) : Bool := k.parts.any fun p => match p with | .column j _ => j == i | _ => false
  let autoKeys := t.keys.filter fun k => (foldName k.name).startsWith "sqlite_autoindex_"
  if t.rowidAlias == some i || autoKeys.any (fun k => k.primary && inKey k) then
    throw ("cannot drop PRIMARY KEY column: \"" ++ col ++ "\"")
  if autoKeys.any (fun k => !k.primary && inKey k) then
    throw ("cannot drop UNIQUE column: \"" ++ col ++ "\"")
  if t.columns.length ≤ 1 then
    throw ("cannot drop column \"" ++ col ++ "\": no other columns exist")
  let entries := db.entries.map fun e =>
    if e.kind == .table && sameName e.name t.name then
      { e with sql := e.sql.map fun s => dropColumnText s i t.addColumnAt }
    else e
  let db := ({ db with entries } : Database)
  let db := db.setRows t.name ((db.rows t.name).map fun r => { r with values := r.values.eraseIdx i })
  db.testSchema env "drop column"
  pure db

end Database

end Windowing.Sql
