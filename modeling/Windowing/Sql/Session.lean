import Windowing.Sql.Define
import Windowing.Text.Quote

set_option autoImplicit false

/-! # Sessions

A session is one connection's view of a database: the database itself, the counts that
`changes()`, `total_changes()` and `last_insert_rowid()` report, the open transaction
and its savepoints, and the temporary objects it made.

Outside a transaction every statement is its own transaction. A failed statement undoes
what its failure says: its own changes (the common case), nothing (`FAIL`), or the whole
transaction (`ROLLBACK`), which then ends. `BEGIN` opens a transaction, `COMMIT` ends it,
and `ROLLBACK` puts the database back as the transaction found it; a savepoint outside a
transaction opens one, and releasing that savepoint commits it.

A script runs its statements in turn, each read just before it runs, and stops at the
first that fails: the statements before it keep their effects. A statement with
parameters takes them by position; one that needs a parameter it is not given fails
before it runs. Closing a session undoes the open transaction and removes its temporary
objects. -/

namespace Windowing.Sql

/-- A connection to a database. -/
structure Session where
  db : Database
  changes : Int := 0
  totalChanges : Int := 0
  lastInsertRowid : Int := 0
  /-- The database as the open transaction found it. -/
  txnStart : Option Database := none
  /-- The open savepoints, newest first, each with the database as it found it, and
  whether it opened the transaction. -/
  savepoints : List (String × Database × Bool) := []
  /-- The temporary objects made, removed when the session closes. -/
  temps : List (ObjectKind × String) := []
  deriving Inhabited

/-- What a statement's failure reports before it is a database failure: a parameter it
is not given, or a failure of the database. -/
inductive StepError where
  | missing (message : String)
  | failed (e : SqlError)
  deriving Inhabited

/-- The text of a failure. -/
def StepError.render : StepError → String
  | .missing m => m
  | .failed e => e.render

namespace Session

/-- What evaluation reads in a session. -/
def env (s : Session) (params : List Value) : Env :=
  { db := s.db, schema := s.db.schema, params,
    call := { changes := s.changes, totalChanges := s.totalChanges, lastInsertRowid := s.lastInsertRowid } }

/-- Whether a transaction is open. -/
def inTransaction (s : Session) : Bool := s.txnStart.isSome

/-- End the open transaction, keeping the database as it is. -/
def endTransaction (s : Session) : Session := { s with txnStart := none, savepoints := [] }

/-- Undo the open transaction. -/
def rollbackAll (s : Session) : Session :=
  match s.txnStart with
  | some d => { s with db := d, txnStart := none, savepoints := [] }
  | none => s

/-- Close the session: undo the open transaction and remove the temporary objects. -/
def close (s : Session) : Database :=
  let s := s.rollbackAll
  s.temps.foldl (fun d (kind, n) =>
    match kind with
    | .table => ({ d with entries := d.entries.filter fun e => !(sameName e.table n || sameName e.name n) } : Database).dropRows n
    | _ => d.removeEntry n) s.db

/-- A logic failure. -/
def logicFailure (m : String) : SqlError := SqlError.logic m

/-- Lift a check's failure into a failure of the database. -/
def ofCheck {α : Type} (r : Except String α) : Fallible α := liftCheck r

/-- The outcome of a change statement on the session. -/
def afterChange (s : Session) (st : ChangeState) (r : Except SqlError Unit) : Session × Fallible ResultSet :=
  let kept : Session :=
    { s with db := st.db, changes := st.pending, totalChanges := s.totalChanges + st.pendingAll,
             lastInsertRowid := st.lastInsertRowid }
  match r with
  | .ok () => (kept, .ok { columns := [], rows := [] })
  | .error e =>
    match e.undo with
    | .nothing => (kept, .error e)
    | .statement => ({ s with changes := 0, lastInsertRowid := st.lastInsertRowid }, .error e)
    | .transaction =>
      ({ s.rollbackAll with changes := 0, lastInsertRowid := st.lastInsertRowid }, .error e)

/-- Run a change statement: check what it names, then change the rows. -/
def change (s : Session) (params : List Value) (stmt : Stmt) : Session × Fallible ResultSet :=
  let env := s.env params
  match checkChange evalFuel env [] [] stmt with
  | .error m => (s, .error (logicFailure m))
  | .ok () =>
    let st0 : ChangeState :=
      { db := s.db, schema := env.schema, changes := s.changes, totalChanges := s.totalChanges,
        lastInsertRowid := s.lastInsertRowid }
    let (r, st) := ((runChange changeFuel { params } stmt).run).run st0
    s.afterChange st r

/-- Apply a definition to the database. -/
def define (s : Session) (r : Fallible Database) : Session × Fallible ResultSet :=
  match r with
  | .ok d => ({ s with db := d }, .ok { columns := [], rows := [] })
  | .error e => (s, .error e)

/-- The empty result. -/
def done (s : Session) : Session × Fallible ResultSet := (s, .ok { columns := [], rows := [] })

/-- The failure a query or a change meets as it is read: a name it uses that does not
exist, then what making its program finds. -/
def namesFailure (env : Env) (stmt : Stmt) : Option SqlError :=
  let check (env : Env) : Option String := match stmt with
    | .query q =>
      match queryColumns evalFuel env [] q with
      | .ok _ => none
      | .error m => some m
    | .insert .. | .update .. | .delete .. =>
      match checkChange evalFuel env [] [] stmt with
      | .ok () => none
      | .error m => some m
    | _ => none
  -- the checks of making the program come once every name was found
  let names := (check env).or (check { env with programChecks := true })
  match names with
  | some m => some (logicFailure m)
  | none =>
    match stmt with
    | .query _ | .insert .. | .update .. | .delete .. => (stmt.collationFailure env.schema).map logicFailure
    | _ => none

/-- The failure a statement meets as it is read, before it runs: a name it uses that does
not exist, or a definition the schema refuses. -/
def prepareFailure (s : Session) (params : List Value) (stmt : Stmt) : Option SqlError :=
  let env := s.env params
  match stmt with
  | .createTable _ ifNotExists q cols cons options sql addAt =>
    match s.db.createTable env ifNotExists q cols cons options sql addAt with
    | .error m => some (logicFailure m)
    | .ok _ => none
  | .createIndex unique ifNotExists q table cols filter sql =>
    match s.db.createIndex env unique ifNotExists q table cols filter sql with
    | .error e => some e
    | .ok _ => none
  | _ => namesFailure env stmt

/-- Run one statement. -/
def execute (s : Session) (params : List Value) (stmt : Stmt) : Session × Fallible ResultSet :=
  let env := s.env params
  match stmt with
  | .query q =>
    match s.prepareFailure params stmt with
    | some e => (s, .error e)
    | none =>
      match env.query q with
      | .ok rs => (s, .ok rs)
      | .error e => (s, .error e)
  | .insert .. | .update .. | .delete .. =>
    match s.prepareFailure params stmt with
    | some e => (s, .error e)
    | none => s.change params stmt
  | .createTable temp ifNotExists q cols cons options sql addAt =>
    let s := if temp then { s with temps := s.temps ++ [(.table, q.name)] } else s
    s.define (ofCheck (s.db.createTable env ifNotExists q cols cons options sql addAt))
  | .createTableAs temp ifNotExists q sel =>
    let s := if temp then { s with temps := s.temps ++ [(.table, q.name)] } else s
    s.define (s.db.createTableAs env ifNotExists q sel)
  | .createIndex unique ifNotExists q table cols filter sql =>
    s.define (s.db.createIndex env unique ifNotExists q table cols filter sql)
  | .createView temp ifNotExists q _ _ sql =>
    let s := if temp then { s with temps := s.temps ++ [(.view, q.name)] } else s
    s.define (ofCheck (s.db.createView env ifNotExists q sql))
  | .createTrigger temp ifNotExists q time _ table _ _ sql =>
    let s := if temp then { s with temps := s.temps ++ [(.trigger, q.name)] } else s
    s.define (ofCheck (s.db.createTrigger env ifNotExists q time table sql))
  | .drop kind ifExists q => s.define (ofCheck (s.db.drop env kind ifExists q))
  | .alter q action =>
    match action with
    | .renameTable n => s.define (ofCheck (s.db.renameTable env q n))
    | .renameColumn old new => s.define (ofCheck (s.db.renameColumn env q old new))
    | .addColumn c text => s.define (s.db.addColumn env q c text)
    | .dropColumn n => s.define (ofCheck (s.db.dropColumn env q n))
  | .pragma _ _ | .maintenance => s.done
  | .vacuum =>
    if s.inTransaction then (s, .error (logicFailure "cannot VACUUM from within a transaction")) else s.done
  | .begin =>
    if s.inTransaction then (s, .error (logicFailure "cannot start a transaction within a transaction"))
    else ({ s with txnStart := some s.db }, .ok { columns := [], rows := [] })
  | .commit =>
    if s.inTransaction then s.endTransaction.done
    else (s, .error (logicFailure "cannot commit - no transaction is active"))
  | .rollback none =>
    if s.inTransaction then s.rollbackAll.done
    else (s, .error (logicFailure "cannot rollback - no transaction is active"))
  | .rollback (some n) =>
    match s.savepoints.findIdx? (fun (m, _) => sameName m n) with
    | some i =>
      let (_, d, opened) := s.savepoints.getD i default
      ({ s with db := d, savepoints := (s.savepoints.drop i).set 0 (n, d, opened) }, .ok { columns := [], rows := [] })
    | none => (s, .error (logicFailure ("no such savepoint: " ++ n)))
  | .savepoint n =>
    let opened := !s.inTransaction
    let s := if opened then { s with txnStart := some s.db } else s
    ({ s with savepoints := (n, s.db, opened) :: s.savepoints }, .ok { columns := [], rows := [] })
  | .release n =>
    match s.savepoints.findIdx? (fun (m, _) => sameName m n) with
    | some i =>
      let (_, _, opened) := s.savepoints.getD i default
      if opened then s.endTransaction.done
      else ({ s with savepoints := s.savepoints.drop (i + 1) }, .ok { columns := [], rows := [] })
    | none => (s, .error (logicFailure ("no such savepoint: " ++ n)))
  | .explain inner =>
    match s.prepareFailure params inner with
    | some e => (s, .error e)
    | none => s.done

end Session

/-- The parameters a statement's tokens name: each index with the name it is written
with (empty for a plain `?`). -/
def parameterSlots (toks : List Token) : List (Nat × String) :=
  toks.foldl (fun acc t =>
    let top := acc.foldl (fun m (i, _) => max m i) 0
    if t.kind != .variable then acc
    else
      match t.text.toList with
      | ['?'] => acc ++ [(top + 1, "")]
      | '?' :: ds =>
        let n := ds.foldl (fun a c => a * 10 + (c.toNat - '0'.toNat)) 0
        if acc.any (·.1 == n) then acc else acc ++ [(n, t.text)]
      | _ => if acc.any (·.2 == t.text) then acc else acc ++ [(top + 1, t.text)]) []

/-- The failure of binding `given` positional values to a statement's parameters: the
first parameter left without a value. -/
def missingParameter (toks : List Token) (given : Nat) : Option String :=
  let slots := parameterSlots toks
  let count := slots.foldl (fun m (i, _) => max m i) 0
  (List.range count).findSome? fun k =>
    let i := k + 1
    match slots.find? (·.1 == i) with
    | none | some (_, "") => if i ≤ given then none else some ("missing argument with index " ++ toString i)
    | some (_, name) =>
      let rest := (name.drop 1).toString
      if name.startsWith "?" && rest == toString i && i ≤ given then none
      else some ("missing named argument " ++ Text.quote rest)

namespace Session

/-- Run the statements of a text in turn with positional parameters, stopping at the
first failure: the session after them, the last statement's result, and the failure. -/
def script (s : Session) (sql : String) (params : List Value) : Session × ResultSet × Option StepError :=
  let all := tokenize sql
  let rec go : Nat → Session → ResultSet → List Token → Session × ResultSet × Option StepError
    | 0, s, rs, _ => (s, rs, none)
    | fuel + 1, s, rs, toks =>
      match nextStatement sql toks with
      | .error m => (s, rs, some (.failed (SqlError.logic m)))
      | .ok none => (s, rs, none)
      | .ok (some (stmt, rest)) =>
        let own := toks.take (toks.length - rest.length)
        match missingParameter own params.length with
        | some m =>
          -- a statement whose parameters are not all given is read but does not run
          match s.prepareFailure params stmt with
          | some e => (s, rs, some (.failed e))
          | none => (s, rs, some (.missing m))
        | none =>
          match s.execute params stmt with
          | (s', .error e) => (s', rs, some (.failed e))
          | (s', .ok rs') => go fuel s' rs' rest
  go (all.length + 1) s { columns := [], rows := [] } all

end Session

end Windowing.Sql
