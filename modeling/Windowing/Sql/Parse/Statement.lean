import Windowing.Sql.Parse.Query

set_option autoImplicit false

/-! # Reading statements

A script is statements separated by semicolons; empty statements are skipped. A statement
is a query; an `INSERT`, `REPLACE`, `UPDATE` or `DELETE`, each possibly after a `WITH`
clause; a `CREATE` or `DROP` of a table, index, view or trigger; an `ALTER TABLE`; a
`PRAGMA`; a transaction or savepoint command; `VACUUM`, `ANALYZE` or `REINDEX`; and any of
these after `EXPLAIN`.

The schema keeps the text of each definition: `CREATE TABLE`, `CREATE VIEW`, `CREATE
INDEX` or `CREATE TRIGGER`, then the text from the object's name (without its schema) to
the end of the definition. -/

namespace Windowing.Sql

/-- A name, possibly after a schema name and a dot, and where the last name starts. -/
def qualNameAt : Parser (QualName × Nat) := do
  let a ← nextStart
  let n ← name
  if ← acceptOp "." then
    let b ← nextStart
    let m ← name
    return ({ schema := some n, name := m }, b)
  else return ({ name := n }, a)

/-- A name, possibly after a schema name and a dot. -/
def qualName : Parser QualName := do return (← qualNameAt).1

/-- An optional `IF NOT EXISTS`. -/
def ifNotExistsClause : Parser Bool := do
  if ← atWord "IF" then
    advance
    expectWord "NOT"
    expectWord "EXISTS"
    return true
  else return false

/-- An optional `IF EXISTS`. -/
def ifExistsClause : Parser Bool := do
  if ← atWord "IF" then
    advance
    expectWord "EXISTS"
    return true
  else return false

/-- An optional `OR` and a conflict resolution. -/
def orConflict : Parser (Option Conflict) := do
  if ← acceptWord "OR" then return some (← conflictWord) else return none

/-- Where the text after the statement starts: the next `;`, or the end of the text. -/
def statementEnd : Parser Nat := nextStart

/-- The text of the last tokens of a definition from a place to the end of the last token
taken. -/
def textFrom (a : Nat) : Parser String := do sourceBetween a (← get).lastEnd

/-- One column of an index or of a key: an expression with its collation and order. -/
def indexedColumn (fuel : Nat) : Parser IndexedColumn := do
  let e ← expr fuel
  let desc ← if ← acceptWord "DESC" then pure true else do let _ ← acceptWord "ASC"; pure false
  if ← acceptWord "NULLS" then
    if !(← acceptWord "FIRST") then expectWord "LAST"
  match e with
  | .collate inner c => return { e := inner, collation := some c, desc }
  | _ => return { e, desc }

/-- The columns of a key, which must be names. -/
def keyColumns (fuel : Nat) : Parser (List IndexedColumn) := do
  let cs ← commaList (indexedColumn fuel) fuel
  cs.mapM fun c => match c.e with
    | .column [] n _ => pure { c with e := .column [] n false }
    | .lit (.text n) => pure { c with e := .column [] n false }
    | _ => throw "expressions prohibited in PRIMARY KEY and UNIQUE constraints"

/-- The type of a column: words, with an optional size, as written; it stops before a
constraint. -/
def columnType (fuel : Nat) : Parser String := do
  let a ← nextStart
  let rec words : Nat → Parser Unit
    | 0 => pure ()
    | n + 1 => do
      match ← peek with
      | some t =>
        if ((t.kind == .word && !isReserved t.text && !t.isWord "GENERATED") ||
            t.kind == .quoted || t.kind == .string) then
          advance
          words n
        else pure ()
      | none => pure ()
  words fuel
  if (← get).lastEnd ≤ a then return ""
  if ← atOp "(" then
    advance
    let signed : Parser Unit := do
      if !(← acceptOp "+") then let _ ← acceptOp "-"
      match ← peek with
      | some t => if t.kind == .integer || t.kind == .float then advance else syntaxError
      | none => syntaxError
    signed
    if ← acceptOp "," then signed
    expectOp ")"
  textFrom a

/-- The literal of a `DEFAULT` clause. -/
def defaultValue (fuel : Nat) : Parser Expr := do
  if ← acceptOp "(" then
    let e ← expr fuel
    expectOp ")"
    return e
  let sign ← if ← acceptOp "-" then pure (some "-")
    else if ← acceptOp "+" then pure (some "+") else pure none
  match ← peek with
  | none => syntaxError
  | some t =>
    match t.kind, sign with
    | .integer, s => advance; return .number ((if s == some "-" then "-" else "") ++ t.text) false
    | .float, s => advance; return .number ((if s == some "-" then "-" else "") ++ t.text) true
    | .string, none => advance; return .lit (.text t.value)
    | .blob, none => advance; return .lit (.blob (blobOfHex t.value))
    | .quoted, none => advance; return .lit (.text t.value)
    | .word, none =>
      let w := t.text.toUpper
      if w == "NULL" then advance; return .lit .null
      else if w == "CURRENT_TIME" || w == "CURRENT_DATE" || w == "CURRENT_TIMESTAMP" then
        advance
        return .call t.text.toLower false [] false none [] none
      else if w == "TRUE" then advance; return .lit (.int 1)
      else if w == "FALSE" then advance; return .lit (.int 0)
      else if isReserved w then syntaxError
      else advance; return .lit (.text t.text)
    | .word, some _ =>
      let w := t.text.toUpper
      if w == "NULL" then advance; return .lit .null
      else if w == "CURRENT_TIME" || w == "CURRENT_DATE" || w == "CURRENT_TIMESTAMP" then
        advance
        return .call t.text.toLower false [] false none [] none
      else syntaxError
    | .string, some "-" => advance; return .unary .neg (.lit (.text t.value))
    | .string, some _ => advance; return .lit (.text t.value)
    | _, _ => syntaxError

/-- What follows `REFERENCES name`: column names, actions and match clauses, and a
deferral clause. -/
def referenceTail (fuel : Nat) : Parser Unit := do
  if ← atOp "(" then let _ ← nameList fuel
  let rec args : Nat → Parser Unit
    | 0 => pure ()
    | n + 1 => do
      if ← acceptWord "MATCH" then
        let _ ← name
        args n
      else if ← atWord "ON" then
        advance
        if !(← acceptWord "DELETE") then
          if !(← acceptWord "UPDATE") then expectWord "INSERT"
        if ← acceptWord "SET" then
          if !(← acceptWord "NULL") then expectWord "DEFAULT"
        else if ← acceptWord "CASCADE" then pure ()
        else if ← acceptWord "RESTRICT" then pure ()
        else
          expectWord "NO"
          expectWord "ACTION"
        args n
      else pure ()
  args fuel

/-- An optional deferral clause: `[NOT] DEFERRABLE [INITIALLY DEFERRED|IMMEDIATE]`. -/
def deferral : Parser Unit := do
  let isDeferrable ← if ← atWord "NOT" then
      if ← atWordAt 1 "DEFERRABLE" then advance; advance; pure true else pure false
    else if ← acceptWord "DEFERRABLE" then pure true else pure false
  if isDeferrable then
    if ← acceptWord "INITIALLY" then
      if !(← acceptWord "DEFERRED") then expectWord "IMMEDIATE"

/-- The words that start a constraint of a column definition. -/
def columnConstraintWords : List String :=
  ["CONSTRAINT", "DEFAULT", "NULL", "NOT", "PRIMARY", "UNIQUE", "CHECK", "REFERENCES", "DEFERRABLE",
   "COLLATE", "GENERATED", "AS"]

/-- The kind of a generated column, the word after its expression: `STORED`, `VIRTUAL`
or none (virtual). Any other name there is an error in the column `col`. -/
def generatedKind (col : String) : Parser Bool := do
  match ← peek with
  | some t =>
    let w := t.text.toUpper
    if t.kind == .word && w == "STORED" then advance; pure true
    else if t.kind == .word && w == "VIRTUAL" then advance; pure false
    else if t.kind == .quoted || (t.kind == .word && !isReserved w && !columnConstraintWords.contains w) then
      throw ("error in generated column \"" ++ col ++ "\"")
    else pure false
  | none => pure false

/-- The constraints of the column definition of `col`, each with the name given to it. -/
def columnConstraints (fuel : Nat) (col : String) : Nat → Option String → Parser (List (Option String × ColumnConstraint))
  | 0, _ => pure []
  | n + 1, named => do
    let more (c : ColumnConstraint) : Parser (List (Option String × ColumnConstraint)) := do
      let rest ← columnConstraints fuel col n none
      return (named, c) :: rest
    if ← acceptWord "CONSTRAINT" then
      let nm ← name
      columnConstraints fuel col n (some nm)
    else if ← acceptWord "DEFAULT" then
      let (e, text) ← withText (defaultValue fuel)
      more (.default e text)
    else if ← acceptWord "NULL" then
      let _ ← onConflict
      more .null
    else if ← atWord "NOT" then
      if ← atWordAt 1 "NULL" then
        advance; advance
        let c ← onConflict
        more (.notNull c)
      else
        deferral
        columnConstraints fuel col n named
    else if ← acceptWord "PRIMARY" then
      expectWord "KEY"
      let desc ← if ← acceptWord "DESC" then pure true else do let _ ← acceptWord "ASC"; pure false
      let c ← onConflict
      let auto ← acceptWord "AUTOINCREMENT"
      more (.primaryKey desc c auto)
    else if ← acceptWord "UNIQUE" then
      let c ← onConflict
      more (.unique c)
    else if ← acceptWord "CHECK" then
      expectOp "("
      let (e, text) ← withText (expr fuel)
      expectOp ")"
      more (.check e text)
    else if ← acceptWord "REFERENCES" then
      let _ ← name
      referenceTail fuel
      more .references
    else if ← atWord "DEFERRABLE" then
      deferral
      columnConstraints fuel col n named
    else if ← acceptWord "COLLATE" then
      let c ← name
      more (.collate c)
    else if (← atWord "GENERATED") || (← atWord "AS") then
      if ← acceptWord "GENERATED" then expectWord "ALWAYS"
      expectWord "AS"
      expectOp "("
      let e ← expr fuel
      expectOp ")"
      let stored ← generatedKind col
      more (.generated e stored)
    else
      match named with
      | some _ => syntaxError
      | none => pure []

/-- A column definition: its name, type and constraints. -/
def columnDef (fuel : Nat) : Parser ColumnDef := do
  let n ← name
  let ty ← columnType fuel
  let cs ← columnConstraints fuel n fuel none
  return { name := n, type := ty, constraints := cs }

/-- Whether the next token starts a table constraint. -/
def atTableConstraint : Parser Bool := do
  return (← atWord "CONSTRAINT") || (← atWord "PRIMARY") || (← atWord "UNIQUE") ||
    (← atWord "CHECK") || (← atWord "FOREIGN")

/-- A table constraint, with its name. -/
def tableConstraint (fuel : Nat) : Parser (Option String × TableConstraint) := do
  let named ← if ← acceptWord "CONSTRAINT" then some <$> name else pure none
  if ← acceptWord "PRIMARY" then
    expectWord "KEY"
    expectOp "("
    let cs ← keyColumns fuel
    let auto ← acceptWord "AUTOINCREMENT"
    expectOp ")"
    let c ← onConflict
    return (named, .primaryKey cs c auto)
  else if ← acceptWord "UNIQUE" then
    expectOp "("
    let cs ← keyColumns fuel
    expectOp ")"
    let c ← onConflict
    return (named, .unique cs c)
  else if ← acceptWord "CHECK" then
    expectOp "("
    let (e, text) ← withText (expr fuel)
    expectOp ")"
    let _ ← onConflict
    return (named, .check e text)
  else if ← acceptWord "FOREIGN" then
    expectWord "KEY"
    let _ ← nameList fuel
    expectWord "REFERENCES"
    let _ ← name
    referenceTail fuel
    deferral
    return (named, .foreignKey)
  else syntaxError

/-- The table constraints, separated by optional commas. -/
def tableConstraints (fuel : Nat) : Nat → Parser (List (Option String × TableConstraint))
  | 0 => pure []
  | n + 1 => do
    let c ← tableConstraint fuel
    if ← acceptOp "," then
      let rest ← tableConstraints fuel n
      return c :: rest
    else if ← atTableConstraint then
      let rest ← tableConstraints fuel n
      return c :: rest
    else return [c]

/-- The column definitions of a table, then its constraints, and where the constraints
(or the closing parenthesis) start. -/
def tableBody (fuel : Nat) : Nat → Parser (List ColumnDef × List (Option String × TableConstraint) × Nat)
  | 0 => syntaxError
  | n + 1 => do
    let c ← columnDef fuel
    if ← atOp "," then
      let commaAt ← nextStart
      advance
      if ← atTableConstraint then
        let cons ← tableConstraints fuel fuel
        return ([c], cons, commaAt)
      else
        let (cs, cons, pos) ← tableBody fuel n
        return (c :: cs, cons, pos)
    else return ([c], [], ← nextStart)

/-- The options after a table definition, each of them given at least once. -/
def tableOptions : Nat → Parser TableOptions
  | 0 => pure {}
  | n + 1 => do
    let opt : Parser TableOptions := do
      if ← acceptWord "WITHOUT" then
        let t ← name
        if t.toLower == "rowid" then return { withoutRowid := true }
        else throw ("unknown table option: " ++ t)
      else
        let t ← name
        if t.toLower == "strict" then return { strict := true }
        else throw ("unknown table option: " ++ t)
    let w ← opt
    if ← acceptOp "," then
      let r ← tableOptions n
      return { withoutRowid := w.withoutRowid || r.withoutRowid, strict := w.strict || r.strict }
    else return w

/-- `CREATE TABLE`, after `TABLE`. -/
def createTableTail (fuel : Nat) (temp : Bool) : Parser Stmt := do
  let ifNotExists ← ifNotExistsClause
  let (q, nameAt) ← qualNameAt
  if ← acceptWord "AS" then
    let sel ← query fuel
    return .createTableAs temp ifNotExists q sel
  expectOp "("
  let (cols, cons, consAt) ← tableBody fuel fuel
  expectOp ")"
  let hasOptions ← match ← peek with
    | some t => pure (!(t.isOp ";"))
    | none => pure false
  let options ← if hasOptions then tableOptions fuel else pure {}
  let text ← if hasOptions then do sourceBetween nameAt (← statementEnd) else textFrom nameAt
  return .createTable temp ifNotExists q cols cons options ("CREATE TABLE " ++ text)
    (13 + (consAt - nameAt))

/-- `CREATE [UNIQUE] INDEX`, after `INDEX`. -/
def createIndexTail (fuel : Nat) (unique : Bool) : Parser Stmt := do
  let ifNotExists ← ifNotExistsClause
  let (q, nameAt) ← qualNameAt
  expectWord "ON"
  let table ← name
  expectOp "("
  let cols ← commaList (indexedColumn fuel) fuel
  expectOp ")"
  let filter ← if ← acceptWord "WHERE" then some <$> expr fuel else pure none
  let text ← sourceBetween nameAt (← statementEnd)
  let head := if unique then "CREATE UNIQUE INDEX " else "CREATE INDEX "
  return .createIndex unique ifNotExists q table cols filter (head ++ text)

/-- The text of a view from its name to the end of the statement, without trailing
blanks. -/
def trimmedTail (a : Nat) : Parser String := do
  let s ← sourceBetween a (← statementEnd)
  return String.ofList (s.toList.reverse.dropWhile isSpace).reverse

/-- `CREATE VIEW`, after `VIEW`. -/
def createViewTail (fuel : Nat) (temp : Bool) : Parser Stmt := do
  let ifNotExists ← ifNotExistsClause
  let (q, nameAt) ← qualNameAt
  let cols ← if ← atOp "(" then nameList fuel else pure []
  expectWord "AS"
  let sel ← query fuel
  let text ← trimmedTail nameAt
  return .createView temp ifNotExists q cols sel ("CREATE VIEW " ++ text)

/-- The name of a table changed by a statement: a name with an optional alias (`AS`), or,
inside a trigger, a bare name. -/
def targetTable (inTrigger : Bool) : Parser (QualName × Option String) := do
  let q ← qualName
  if inTrigger then
    if q.schema.isSome then
      throw "qualified table names are not allowed on INSERT, UPDATE, and DELETE statements within triggers"
    return (q, none)
  let a ← if ← acceptWord "AS" then some <$> name else pure none
  return (q, a)

/-- An optional `INDEXED BY name` or `NOT INDEXED`. -/
def indexedBy (inTrigger : Bool) : Parser Unit := do
  if ← acceptWord "INDEXED" then
    if inTrigger then
      throw "the INDEXED BY clause is not allowed on UPDATE or DELETE statements within triggers"
    expectWord "BY"
    let _ ← name
  else if ← atWord "NOT" then
    if ← atWordAt 1 "INDEXED" then
      if inTrigger then
        throw "the NOT INDEXED clause is not allowed on UPDATE or DELETE statements within triggers"
      advance; advance

/-- An optional `RETURNING` clause. -/
def returning (fuel : Nat) : Parser Unit := do
  if ← acceptWord "RETURNING" then let _ ← resultColumns fuel

/-- The assignments of an `UPDATE`: a column, or parenthesized columns, and a value. -/
def setList (fuel : Nat) : Parser (List (List String × Expr)) :=
  commaList (do
    let cols ← if ← atOp "(" then nameList fuel else do
        let n ← name
        pure [n]
    expectOp "="
    let e ← expr fuel
    pure (cols, e)) fuel

/-- The `ON CONFLICT` clauses of an `INSERT`, and its `RETURNING` clause. -/
def upserts (fuel : Nat) : Nat → Parser (List Upsert)
  | 0 => pure []
  | n + 1 => do
    if ← atWord "ON" then
      advance
      expectWord "CONFLICT"
      let (target, targetFilter) ← if ← acceptOp "(" then
          let cs ← commaList (indexedColumn fuel) fuel
          expectOp ")"
          let f ← if ← acceptWord "WHERE" then some <$> expr fuel else pure none
          pure (cs, f)
        else pure ([], none)
      expectWord "DO"
      let (sets, filter) ← if ← acceptWord "NOTHING" then pure (none, none)
        else
          expectWord "UPDATE"
          expectWord "SET"
          let s ← setList fuel
          let f ← if ← acceptWord "WHERE" then some <$> expr fuel else pure none
          pure (some s, f)
      let u : Upsert := { target, targetFilter, sets, filter }
      if target.isEmpty then
        returning fuel
        return [u]
      let rest ← upserts fuel n
      return u :: rest
    else
      returning fuel
      return []

/-- An `INSERT` or `REPLACE`. -/
def insertStmt (fuel : Nat) (ctes : List Cte) (inTrigger : Bool) : Parser Stmt := do
  let conflict ← if ← acceptWord "REPLACE" then pure (some Conflict.replace)
    else
      expectWord "INSERT"
      orConflict
  expectWord "INTO"
  let (table, aliasName) ← targetTable inTrigger
  let columns ← if ← atOp "(" then some <$> nameList fuel else pure none
  if !inTrigger && (← atWord "DEFAULT") then
    advance
    expectWord "VALUES"
    returning fuel
    return .insert ctes conflict table aliasName columns .defaults []
  let sel ← query fuel
  let source := match sel with
    | .mk false [] (.values rows) [] [] none none => InsertSource.values rows
    | q => .query q
  let ups ← upserts fuel fuel
  return .insert ctes conflict table aliasName columns source ups

/-- An `UPDATE`. -/
def updateStmt (fuel : Nat) (ctes : List Cte) (inTrigger : Bool) : Parser Stmt := do
  expectWord "UPDATE"
  let conflict ← orConflict
  let (table, aliasName) ← targetTable inTrigger
  indexedBy inTrigger
  expectWord "SET"
  let sets ← setList fuel
  let srcs ← if ← acceptWord "FROM" then sources fuel else pure []
  let filter ← if ← acceptWord "WHERE" then some <$> expr fuel else pure none
  if !inTrigger then returning fuel
  return .update ctes conflict table aliasName sets srcs filter

/-- A `DELETE`. -/
def deleteStmt (fuel : Nat) (ctes : List Cte) (inTrigger : Bool) : Parser Stmt := do
  expectWord "DELETE"
  expectWord "FROM"
  let (table, aliasName) ← targetTable inTrigger
  indexedBy inTrigger
  let filter ← if ← acceptWord "WHERE" then some <$> expr fuel else pure none
  if !inTrigger then returning fuel
  return .delete ctes table aliasName filter

/-- A query or a change, possibly after a `WITH` clause. -/
def dataStmt (fuel : Nat) (inTrigger : Bool) : Parser Stmt := do
  if ← atWord "WITH" then
    advance
    let r ← acceptWord "RECURSIVE"
    let cs ← ctes fuel
    if (← atWord "SELECT") || (← atWord "VALUES") then
      return .query (← queryAfterWith fuel r cs)
    else if inTrigger then syntaxError
    else if (← atWord "INSERT") || (← atWord "REPLACE") then insertStmt fuel cs false
    else if ← atWord "UPDATE" then updateStmt fuel cs false
    else if ← atWord "DELETE" then deleteStmt fuel cs false
    else syntaxError
  else if (← atWord "SELECT") || (← atWord "VALUES") then return .query (← query fuel)
  else if (← atWord "INSERT") || (← atWord "REPLACE") then insertStmt fuel [] inTrigger
  else if ← atWord "UPDATE" then updateStmt fuel [] inTrigger
  else if ← atWord "DELETE" then deleteStmt fuel [] inTrigger
  else syntaxError

/-- The statements of a trigger's body, each ending with `;`, up to `END`. -/
def triggerBody (fuel : Nat) : Nat → Parser (List Stmt)
  | 0 => syntaxError
  | n + 1 => do
    let s ← dataStmt fuel true
    expectOp ";"
    if ← acceptWord "END" then return [s]
    let rest ← triggerBody fuel n
    return s :: rest

/-- `CREATE TRIGGER`, after `TRIGGER`. -/
def createTriggerTail (fuel : Nat) (temp : Bool) : Parser Stmt := do
  let ifNotExists ← ifNotExistsClause
  let (q, nameAt) ← qualNameAt
  let time ← if ← acceptWord "BEFORE" then pure TriggerTime.before
    else if ← acceptWord "AFTER" then pure .after
    else if ← atWord "INSTEAD" then
      advance
      expectWord "OF"
      pure .insteadOf
    else pure .before
  let event ← if ← acceptWord "DELETE" then pure TriggerEvent.delete
    else if ← acceptWord "INSERT" then pure .insert
    else if ← acceptWord "UPDATE" then
      if ← acceptWord "OF" then
        let cols ← commaList name fuel
        pure (.update cols)
      else pure (.update [])
    else syntaxError
  expectWord "ON"
  let table ← do
    let n ← name
    if ← acceptOp "." then name else pure n
  if ← acceptWord "FOR" then
    expectWord "EACH"
    expectWord "ROW"
  let whenClause ← if ← acceptWord "WHEN" then some <$> expr fuel else pure none
  expectWord "BEGIN"
  let body ← triggerBody fuel fuel
  let text ← textFrom nameAt
  return .createTrigger temp ifNotExists q time event table whenClause body ("CREATE TRIGGER " ++ text)

/-- A `CREATE` statement, after `CREATE`. -/
def createStmt (fuel : Nat) : Parser Stmt := do
  let temp ← if (← acceptWord "TEMP") || (← acceptWord "TEMPORARY") then pure true else pure false
  if ← acceptWord "TABLE" then createTableTail fuel temp
  else if ← acceptWord "VIEW" then createViewTail fuel temp
  else if ← acceptWord "TRIGGER" then createTriggerTail fuel temp
  else if temp then syntaxError
  else if ← acceptWord "UNIQUE" then
    expectWord "INDEX"
    createIndexTail fuel true
  else if ← acceptWord "INDEX" then createIndexTail fuel false
  else syntaxError

/-- A `DROP` statement, after `DROP`. -/
def dropStmt : Parser Stmt := do
  let kind ← if ← acceptWord "TABLE" then pure ObjectKind.table
    else if ← acceptWord "INDEX" then pure .index
    else if ← acceptWord "VIEW" then pure .view
    else if ← acceptWord "TRIGGER" then pure .trigger
    else syntaxError
  let ifExists ← ifExistsClause
  let q ← qualName
  return .drop kind ifExists q

/-- An `ALTER TABLE` statement, after `ALTER`. -/
def alterStmt (fuel : Nat) : Parser Stmt := do
  expectWord "TABLE"
  let q ← qualName
  if ← acceptWord "RENAME" then
    if ← acceptWord "TO" then
      let n ← name
      return .alter q (.renameTable n)
    let _ ← acceptWord "COLUMN"
    let old ← name
    expectWord "TO"
    let new ← name
    return .alter q (.renameColumn old new)
  else if ← acceptWord "ADD" then
    let _ ← acceptWord "COLUMN"
    let a ← nextStart
    let c ← columnDef fuel
    let s ← sourceBetween a (← statementEnd)
    let text := String.ofList (s.toList.reverse.dropWhile (fun ch => ch == ';' || isSpace ch)).reverse
    return .alter q (.addColumn c text)
  else if ← acceptWord "DROP" then
    let _ ← acceptWord "COLUMN"
    let n ← name
    return .alter q (.dropColumn n)
  else syntaxError

/-- The value of a `PRAGMA`: a signed number, a name, or a keyword. -/
def pragmaValue : Parser String := do
  let sign ← if ← acceptOp "-" then pure "-" else do let _ ← acceptOp "+"; pure ""
  match ← peek with
  | some t =>
    if t.kind == .integer || t.kind == .float then advance; return sign ++ t.text
    else if sign == "-" then syntaxError
    else if t.isWord "ON" || t.isWord "DELETE" || t.isWord "DEFAULT" then advance; return t.text
    else name
  | none => syntaxError

/-- A `PRAGMA` statement, after `PRAGMA`. -/
def pragmaStmt : Parser Stmt := do
  let q ← qualName
  if ← acceptOp "=" then
    let v ← pragmaValue
    return .pragma q (some v)
  else if ← acceptOp "(" then
    let v ← pragmaValue
    expectOp ")"
    return .pragma q (some v)
  else return .pragma q none

/-- An optional `TRANSACTION [name]`. -/
def transactionWord : Parser Unit := do
  if ← acceptWord "TRANSACTION" then
    if ← atName then let _ ← name

/-- A statement without `EXPLAIN`. -/
def command (fuel : Nat) : Parser Stmt := do
  if ← acceptWord "CREATE" then createStmt fuel
  else if ← acceptWord "DROP" then dropStmt
  else if ← acceptWord "ALTER" then alterStmt fuel
  else if ← acceptWord "PRAGMA" then pragmaStmt
  else if ← acceptWord "BEGIN" then
    let _ ← (acceptWord "DEFERRED" <||> acceptWord "IMMEDIATE" <||> acceptWord "EXCLUSIVE")
    transactionWord
    return .begin
  else if (← acceptWord "COMMIT") || (← acceptWord "END") then
    transactionWord
    return .commit
  else if ← acceptWord "ROLLBACK" then
    transactionWord
    if ← acceptWord "TO" then
      let _ ← acceptWord "SAVEPOINT"
      return .rollback (some (← name))
    return .rollback none
  else if ← acceptWord "SAVEPOINT" then return .savepoint (← name)
  else if ← acceptWord "RELEASE" then
    let _ ← acceptWord "SAVEPOINT"
    return .release (← name)
  else if ← acceptWord "VACUUM" then
    if ← atName then let _ ← name
    if ← acceptWord "INTO" then let _ ← expr fuel
    return .vacuum
  else if (← acceptWord "ANALYZE") || (← acceptWord "REINDEX") then
    if ← atName then let _ ← qualName
    return .maintenance
  else dataStmt fuel false

/-- A statement. -/
def statement (fuel : Nat) : Parser Stmt := do
  if ← acceptWord "EXPLAIN" then
    if ← acceptWord "QUERY" then expectWord "PLAN"
    return .explain (← command fuel)
  command fuel

/-- Skip semicolons. -/
def skipSemicolons : List Token → List Token
  | t :: rest => if t.isOp ";" then skipSemicolons rest else t :: rest
  | [] => []

/-- The next statement of a script and the tokens after it; none when only semicolons
are left. -/
def nextStatement (source : String) (tokens : List Token) : Except String (Option (Stmt × List Token)) :=
  match skipSemicolons tokens with
  | [] => .ok none
  | ts =>
    let fuel := 32 * (ts.length + 2)
    let p : Parser Stmt := do
      let s ← statement fuel
      match ← peek with
      | none => pure s
      | some t => if t.isOp ";" then advance; pure s else syntaxError
    match p.run { tokens := ts, source } with
    | .ok (s, st) => .ok (some (s, st.tokens))
    | .error e => .error e

/-- The one statement of a text. -/
def parseStatement (source : String) : Except String (Option Stmt) :=
  match nextStatement source (tokenize source) with
  | .ok (some (s, _)) => .ok (some s)
  | .ok none => .ok none
  | .error e => .error e

end Windowing.Sql
