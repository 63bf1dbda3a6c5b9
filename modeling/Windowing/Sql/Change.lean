import Windowing.Sql.Prepare
import Windowing.Sql.Settle

set_option autoImplicit false

/-! # Changing rows

`INSERT`, `UPDATE` and `DELETE` change a table row by row. For each row:

* `BEFORE` triggers run first (newest first), with the rows `NEW` and `OLD`; a trigger
  that raises `IGNORE` skips the row;
* a row id given must read as an integer, else the statement fails with a datatype
  mismatch; a new row without one gets one past the largest (with `AUTOINCREMENT`, past
  the largest ever used, kept in `sqlite_sequence`);
* the constraints are checked in order: `NOT NULL` (for an update, of the columns it
  sets), `CHECK` (a null result passes; an update checks only the constraints that name a
  column it sets), the row id, then the unique keys, newest first;
  a failure is resolved by the statement's `OR` clause, else the constraint's own, else
  `ABORT`: `IGNORE` skips the row, `REPLACE` removes the rows in the way (or puts a `NOT
  NULL` column's default in), and the others fail the statement, undoing its changes
  (`ABORT`), keeping them (`FAIL`) or undoing the transaction (`ROLLBACK`);
* the row is stored, each value under its column's affinity, and `AFTER` triggers run.

The values take their columns' affinities before the first `CHECK` constraint is
evaluated, else before the first key is checked; a strict table's values must then be of
their columns' types, else the statement fails (whatever its `OR` clause). A change that
fires `BEFORE` triggers does this before they run.

An `UPDATE` or `DELETE` first finds the rows its `WHERE` clause holds for, then changes
them in row id order, skipping a row a trigger removed meanwhile. A trigger does not fire
inside itself, and a trigger's statements take the conflict resolution of the statement
that fired it when that one gave one. -/

namespace Windowing.Sql

/-- A change in progress: the database and its schema, the connection's counts, the rows
changed by the running statement (by itself, and in all, triggers included), the rows of
the statements' subqueries run so far, and how many subqueries have been kept. -/
structure ChangeState where
  db : Database
  schema : Schema
  changes : Int := 0
  totalChanges : Int := 0
  lastInsertRowid : Int := 0
  pending : Int := 0
  pendingAll : Int := 0
  settled : List (String × ResultSet) := []
  keptCount : Nat := 0
  deriving Inhabited

/-- What a change runs under: the parameters, the conflict resolution that the statements
of the running trigger take, the running triggers, and the scope of their rows. -/
structure ChangeCtx where
  params : List Value := []
  override : Option Conflict := none
  active : List String := []
  outer : Scope := []
  /-- The named queries of the running statement, its settled subqueries among them. -/
  ctes : List CteBinding := []
  deriving Inhabited

/-- What evaluation reads while a change runs. -/
def ChangeState.env (st : ChangeState) (ctx : ChangeCtx) : Env :=
  { db := st.db, schema := st.schema, params := ctx.params,
    ctes := ctx.ctes.map fun b =>
      match b.body with
      | .pending .. =>
        match st.settled.lookup b.name with
        | some rs => { b with body := .rows rs }
        | none => b
      | _ => b,
    call := { changes := st.changes, totalChanges := st.totalChanges, lastInsertRowid := st.lastInsertRowid },
    inTrigger := !ctx.active.isEmpty }

/-- The rows of a table. -/
def ChangeState.rows (st : ChangeState) (t : Table) : List Row := st.db.rows t.name

/-- Replace the rows of a table. -/
def ChangeState.setRows (st : ChangeState) (t : Table) (rows : List Row) : ChangeState :=
  { st with db := st.db.setRows t.name rows }

/-- Count a changed row: the statement's own count only outside triggers. -/
def ChangeState.counted (st : ChangeState) (ctx : ChangeCtx) : ChangeState :=
  { st with pendingAll := st.pendingAll + 1, pending := if ctx.active.isEmpty then st.pending + 1 else st.pending }

/-- The values a table stores, each under its column's affinity. -/
def Table.stored (t : Table) (vals : List Value) : List Value :=
  (t.columns.zip vals).map fun (c, v) => v.withAffinity c.affinity

/-- The values with the row id in the column that stands for it. -/
def Table.withRowid (t : Table) (rowid : Int) (vals : List Value) : List Value :=
  match t.rowidAlias with
  | some i => vals.set i (.int rowid)
  | none => vals

/-- The name of the column that stands for the row id, or `rowid`. -/
def Table.rowidName (t : Table) : String :=
  match t.rowidAlias with
  | some i => (t.columns.getD i default).name
  | none => "rowid"

/-- A row id given to a row must read as an integer. -/
def mustBeInt (v : Value) : Fallible Int := limitInt v

/-- The row of `sqlite_sequence` for a table: its row id and the largest row id used. -/
def Database.sequenceOf (db : Database) (t : String) : Option (Int × Int) :=
  (db.rows "sqlite_sequence").findSome? fun r =>
    match r.values with
    | [.text n, seq] => if n == t then some (r.rowid, seq.toInt) else none
    | _ => none

/-- Record that a row id was used in a table with `AUTOINCREMENT`. -/
def Database.bumpSequence (db : Database) (t : String) (rowid : Int) : Database :=
  let rows := db.rows "sqlite_sequence"
  match db.sequenceOf t with
  | some (rid, seq) =>
    if rowid > seq then
      db.setRows "sqlite_sequence" (rows.map fun r => if r.rowid == rid then { r with values := [.text t, .int rowid] } else r)
    else db
  | none =>
    if rowid > 0 then
      let rid := ((Database.maxRowid? rows).getD 0) + 1
      db.setRows "sqlite_sequence" (Database.insertRow rows { rowid := rid, values := [.text t, .int rowid] })
    else db

/-- The row id of a new row. -/
def ChangeState.newRowid (st : ChangeState) (t : Table) : Fallible Int :=
  let top := (Database.maxRowid? (st.rows t)).getD 0
  let seq := if t.autoincrement then ((st.db.sequenceOf t.name).map (·.2)).getD 0 else 0
  let m := max top seq
  if m ≥ maxInt then throw { kind := .full, message := "database or disk is full" }
  else pure (m + 1)

/-- A constraint failure, undoing as its resolution says. -/
def constraintFailure (kind : ErrorKind) (message : String) (r : Conflict) : SqlError :=
  { kind, message,
    undo := match r with
      | .fail => .nothing
      | .rollback => .transaction
      | _ => .statement }

/-- The failure of a `NOT NULL` column. -/
def notNullFailure (t : Table) (c : Column) (r : Conflict) : SqlError :=
  constraintFailure .notNull ("NOT NULL constraint failed: " ++ t.name ++ "." ++ c.name) r

/-- The failure of a key. -/
def keyFailure (t : Table) (k : Key) (r : Conflict) : SqlError :=
  let msg := match k.columnNames t with
    | some ns => ", ".intercalate (ns.map (t.name ++ "." ++ ·))
    | none => "index '" ++ k.name ++ "'"
  constraintFailure (if k.primary then .primaryKey else .unique) ("UNIQUE constraint failed: " ++ msg) r

/-- The failure of a row id taken. -/
def rowidFailure (t : Table) (r : Conflict) : SqlError :=
  match t.rowidAlias with
  | some _ => constraintFailure .primaryKey ("UNIQUE constraint failed: " ++ t.name ++ "." ++ t.rowidName) r
  | none => constraintFailure .rowid ("UNIQUE constraint failed: " ++ t.name ++ ".rowid") r

/-- The failure of a strict table's column given a value of another type. -/
def datatypeFailure (t : Table) (c : Column) (ty : StandardType) (v : Value) : SqlError :=
  constraintFailure .datatype
    ("cannot store " ++ v.storageName ++ " value in " ++ ty.name ++ " column " ++ t.name ++ "." ++ c.name) .abort

/-- Check that a strict table's values (under their columns' affinities) are of their
columns' types. -/
def Table.checkTypes (t : Table) (vals : List Value) : Fallible Unit :=
  if !t.strict then pure ()
  else
    (t.columns.zip vals).forM fun (c, v) =>
      match c.standard, c.generated with
      | some ty, none => if ty.admits v then pure () else throw (datatypeFailure t c ty v)
      | _, _ => pure ()

/-- The generated columns of a table, by position. -/
def Table.generatedColumns (t : Table) : List Nat :=
  (List.range t.columns.length).filter fun i => (t.columns.getD i default).generated.isSome

/-- The positions of the generated columns that generated column `i` reads. -/
def Table.generatedReads (t : Table) (i : Nat) : List Nat :=
  match (t.columns.getD i default).generated with
  | some g => (g.columnNames evalFuel).filterMap fun n =>
      (columnIndex? t.columns n).filter fun j => (t.columns.getD j default).generated.isSome
  | none => []

/-- The generated columns in an order in which each comes after those it reads. Each pass
over the columns takes those whose generated reads are all taken (one taken is seen by the
later ones of its pass); a pass that takes none fails on the last column it left. -/
def Table.generationOrder (t : Table) : Except String (List Nat) :=
  let gens := t.generatedColumns
  let rec passes : Nat → List Nat → Except String (List Nat)
    | 0, done => .ok done
    | fuel + 1, done =>
      let (done', left) := gens.foldl (fun (acc : List Nat × Option Nat) i =>
        if acc.1.contains i then acc
        else if (t.generatedReads i).all acc.1.contains then (acc.1 ++ [i], acc.2)
        else (acc.1, some i)) (done, none)
      match left with
      | none => .ok done'
      | some i =>
        if done'.length == done.length then
          .error ("generated column loop on \"" ++ (t.columns.getD i default).name ++ "\"")
        else passes fuel done'
  passes (gens.length + 1) []

/-- Evaluate with the table's row in scope, for a part of the table's definition (named as
a failure names it) whose value must not depend on when it is worked out. -/
def evalInRow (env : Env) (place : String) (t : Table) (r : Row) (e : Expr) : Fallible Value := do
  let env := { env with call := { env.call with definition := some place } }
  pure (← evalExpr evalFuel env [{ frames := [t.rowAs t.name r] }] none e).value

/-- A row's values with its generated columns worked out, in the order the table's
definition allows (it was refused when there is none). The other values take their
columns' affinities first, and a strict table checks their types then; each generated value
takes its column's affinity. -/
def Table.withGenerated (env : Env) (t : Table) (rowid : Int) (vals : List Value) : Fallible (List Value) := do
  if t.columns.all (·.generated.isNone) then return vals
  let vals := t.withRowid rowid (t.stored vals)
  t.checkTypes vals
  let order := (t.generationOrder.toOption).getD []
  foldFromM order vals fun vs i => do
    let c := t.columns.getD i default
    match c.generated with
    | some g =>
      let v ← evalInRow env "a generated column" t { rowid, values := vs } g
      pure (vs.set i (v.withAffinity c.affinity))
    | none => pure vs

/-- Check the `NOT NULL` columns that `changed` says: the values, with a column's default
put in under `REPLACE`; none when the row is skipped. -/
def checkNotNull (env : Env) (t : Table) (conflict : Option Conflict) (changed : Nat → Bool) (rowid : Int)
    (vals : List Value) : Fallible (Option (List Value)) := do
  let watched (c : Column) (i : Nat) : Bool :=
    c.notNull && t.rowidAlias != some i && changed i && c.generated.isNone
  let first ← foldFromM t.columns.zipIdx (some vals) fun acc (c, i) =>
    match acc with
    | none => pure none
    | some vs =>
      if !watched c i || !(vs.getD i .null).isNull then pure (some vs)
      else
        match (conflict <|> c.notNullConflict).getD .abort with
        | .ignore => pure none
        | .replace =>
          match c.default with
          | some d => do pure (some (vs.set i (← env.evalClosed d)))
          | none => throw (notNullFailure t c .abort)
        | r => throw (notNullFailure t c r)
  match first with
  | none => pure none
  | some vs =>
    -- generated columns are checked after the others, on values worked out again when a
    -- default was put in
    let vs ← if vs.length == vals.length && (vs.zip vals).all (fun (a, b) => a.isNull == b.isNull) then pure vs
      else t.withGenerated env rowid vs
    foldFromM t.columns.zipIdx (some vs) fun acc (c, i) =>
      match acc with
      | none => pure none
      | some vs =>
        if !(vs.getD i .null).isNull then pure (some vs)
        else if watched c i then throw (notNullFailure t c .abort)
        else if c.notNull && c.generated.isSome then
          match (conflict <|> c.notNullConflict).getD .abort with
          | .ignore => pure none
          | .replace => throw (notNullFailure t c .abort)
          | r => throw (notNullFailure t c r)
        else pure (some vs)

/-- Whether an update that sets the columns `changed` says (and the row id when `rowidSet`)
sets a column an expression reads. -/
def Table.readsChanged (t : Table) (changed : Nat → Bool) (rowidSet : Bool) (e : Expr) : Bool :=
  (e.columnNames evalFuel).any fun n =>
    match columnIndex? t.columns n with
    | some i => if t.rowidAlias == some i then rowidSet else changed i
    | none => isRowidName n && rowidSet

/-- The columns an update changes: those it sets, and the generated columns that read a
changed column (or the row id, when it is set), directly or through one another. -/
def Table.changedWith (t : Table) (set : Nat → Bool) (rowidSet : Bool) : Nat → Bool :=
  let gens := t.generatedColumns
  let reads (known : List Nat) (i : Nat) : Bool :=
    match (t.columns.getD i default).generated with
    | some g => t.readsChanged (fun j => set j || known.contains j) rowidSet g
    | none => false
  let rec grow : Nat → List Nat → List Nat
    | 0, known => known
    | fuel + 1, known =>
      let more := gens.filter fun i => !known.contains i && reads known i
      if more.isEmpty then known else grow fuel (known ++ more)
  let extra := grow (gens.length + 1) []
  fun i => set i || extra.contains i

/-- Check the `CHECK` constraints (those `evaluated` picks) on a row, its values under
their columns' affinities; false when the row is skipped. -/
def checkChecks (env : Env) (t : Table) (conflict : Option Conflict) (evaluated : Expr → Bool) (rowid : Int)
    (vals : List Value) : Fallible Bool :=
  let row : Row := { rowid, values := t.stored vals }
  foldFromM (t.checks.filter fun (_, e) => evaluated e) true fun ok (name, e) => do
    if !ok then pure false
    else
      let v ← evalInRow env "a CHECK constraint" t row e
      if v.truth? == some false then
        match conflict.getD .abort with
        | .ignore => pure false
        | .replace => throw (constraintFailure .checkFailed ("CHECK constraint failed: " ++ name) .abort)
        | r => throw (constraintFailure .checkFailed ("CHECK constraint failed: " ++ name) r)
      else pure true

/-- Whether a row is in a key (a partial key holds only the rows its condition holds for). -/
def inKey (env : Env) (t : Table) (k : Key) (r : Row) : Fallible Bool :=
  match k.filter with
  | none => pure true
  | some f => do pure ((← evalInRow env "an index" t r f).truth? == some true)

/-- A row's values of a key, each with its collation; none when one is null (such a key
clashes with nothing). -/
def keyOf (env : Env) (t : Table) (k : Key) (r : Row) : Fallible (Option (List (Value × Collation))) := do
  let vals ← k.parts.mapM fun p =>
    match p with
    | .column i coll => pure (r.values.getD i .null, coll)
    | .expr e coll => do pure (← evalInRow env "an index" t r e, coll)
  pure (if vals.any (·.1.isNull) then none else some vals)

/-- Whether two keys are equal, each part under its collation. -/
def sameKey (a b : List (Value × Collation)) : Bool :=
  a.length == b.length && (a.zip b).all fun ((x, c), (y, _)) => Value.compare c x y == .eq

/-- The rows that clash with a row on a key, leaving out the row being changed. -/
def keyClashes (env : Env) (t : Table) (k : Key) (rows : List Row) (r : Row) (self : Option Int) :
    Fallible (List Row) := do
  if !(← inKey env t k r) then return []
  match ← keyOf env t k r with
  | none => pure []
  | some mine =>
    rows.filterM fun other => do
      if some other.rowid == self then pure false
      else if !(← inKey env t k other) then pure false
      else
        match ← keyOf env t k other with
        | some theirs => pure (sameKey mine theirs)
        | none => pure false

/-- What the unique checks decide for a row. -/
inductive Uniqueness where
  /-- Store the row (in the state after the rows in the way were removed). -/
  | proceed (st : ChangeState)
  /-- Skip the row. -/
  | skip
  /-- Do the upsert's update on the row in the way. -/
  | upsert (u : Upsert) (existing : Row)

/-- Check a row's row id and unique keys against the other rows. -/
def resolveUniqueness (env : Env) (st : ChangeState) (t : Table) (conflict : Option Conflict)
    (upserts : List Upsert) (self : Option Int) (typed : Bool) (r : Row) : Fallible Uniqueness :=
  let keysPhase (st : ChangeState) : Fallible Uniqueness := do
    if !typed then t.checkTypes r.values
    foldFromM t.keys (Uniqueness.proceed st) fun acc k =>
      match acc with
      | .proceed st => do
        let clashes ← keyClashes env t k (st.rows t) r self
        match clashes with
        | [] => pure (.proceed st)
        | other :: _ =>
          match upserts.find? (·.targets t (some k)) with
          | some u => pure (if u.sets.isNone then .skip else .upsert u other)
          | none =>
            match (conflict <|> k.conflict).getD .abort with
            | .replace => pure (.proceed (st.setRows t ((st.rows t).filter fun x => !clashes.any (·.rowid == x.rowid))))
            | .ignore => pure .skip
            | c => throw (keyFailure t k c)
      | other => pure other
  match (if some r.rowid == self then none else Database.findRow (st.rows t) r.rowid) with
  | none => keysPhase st
  | some other =>
    match upserts.find? (·.targets t none) with
    | some u => pure (if u.sets.isNone then .skip else .upsert u other)
    | none =>
      match (conflict <|> t.rowidConflict).getD .abort with
      | .replace => keysPhase (st.setRows t (Database.eraseRow (st.rows t) other.rowid))
      | .ignore => pure .skip
      | c => throw (rowidFailure t c)

/-- Work out a row's entries in the table's indexes that keep no key, for the failures
their conditions and expressions may meet. -/
def indexEntries (env : Env) (t : Table) (r : Row) : Fallible Unit :=
  env.schema.indexes.forM fun ix => do
    if sameName ix.table t.name && !ix.unique then
      let k : Key := { name := ix.name, parts := ((keyParts t.columns ix.columns).toOption.getD []),
                       filter := ix.filter }
      if ← inKey env t k r then
        let _ ← keyOf env t k r

/-- Whether a row passes a condition in a scope. -/
def holdsIn (env : Env) (sc : Scope) (filter : Option Expr) : Fallible Bool :=
  match filter with
  | some f => do pure ((← evalExpr evalFuel env sc none f).value.truth? == some true)
  | none => pure true

/-- A change that may fail: the state keeps the rows changed before a failure, so that a
failure can keep them (`FAIL`) or its caller can undo them. -/
abbrev ChangeM := ExceptT SqlError (StateM ChangeState)

/-- A computation that may fail, as a change. -/
def liftFallible {α : Type} (r : Fallible α) : ChangeM α :=
  match r with
  | .ok a => pure a
  | .error e => throw e

/-- Run the subquery kept under a name, on the database as it is now and in its scope, and
keep its rows; a kept subquery that it reads and that has not run yet runs first. -/
def settleKept (ctx : ChangeCtx) : Nat → String → ChangeM Unit
  | 0, _ => throw (SqlError.logic "query nested too deeply")
  | fuel + 1, name =>
    match ctx.ctes.find? (·.name == name) with
    | some ⟨_, .pending q sc⟩ => do
      match runQuery evalFuel ((← get).env ctx) sc q with
      | .ok rs => modify fun st => { st with settled := (name, rs) :: st.settled }
      | .error e =>
        if e.kind == .unsettled && e.message != name then do
          settleKept ctx fuel e.message
          settleKept ctx fuel name
        else throw e
    | _ => throw (SqlError.logic ("no such table: " ++ name))

/-- Evaluate with the statement's kept subqueries run as they are first needed: an
evaluation that meets one that has not run runs it and starts again (`fuel` times at most).
Evaluating changes nothing, so starting again is safe. -/
def settlingFor {α : Type} (ctx : ChangeCtx) (run : Env → Fallible α) : Nat → ChangeM α
  | 0 => do liftFallible (run ((← get).env ctx))
  | fuel + 1 => do
    match run ((← get).env ctx) with
    | .ok a => pure a
    | .error e =>
      if e.kind == .unsettled then do
        settleKept ctx (ctx.ctes.length + 1) e.message
        settlingFor ctx run fuel
      else throw e

/-- Evaluate with the statement's kept subqueries run as they are first needed. -/
def settling {α : Type} (ctx : ChangeCtx) (run : Env → Fallible α) : ChangeM α :=
  settlingFor ctx run (ctx.ctes.length + 1)

/-- Keep the subqueries of a statement's expressions that do not read its row: the
expressions with them replaced, and the context that names them. -/
def keepSubqueries {α : Type} (ctx : ChangeCtx) (env : Env) (settle : Nat → StateM (List CteBinding) α) :
    ChangeM (α × ChangeCtx) := do
  let base := (← get).keptCount
  let (a, kept) := (settle base).run []
  modify fun st => { st with keptCount := base + kept.length }
  pure (a, { ctx with ctes := kept.reverse ++ env.ctes })

/-- How deep changes and triggers may nest. -/
def changeFuel : Nat := 10000

/-- The failure of nesting too deep. -/
def tooDeep : SqlError := SqlError.logic "too many levels of trigger recursion"

mutual

/-- Insert one row: `given` is the row id the statement gave, `vals` the values of the
columns before affinity. -/
def insertOne : Nat → ChangeCtx → Table → Option Conflict → List Upsert → Option Value → List Value →
    ChangeM Unit
  | 0, _, _, _, _, _, _ => throw tooDeep
  | fuel + 1, ctx, t, conflict, upserts, given, vals => do
    let givenId ← match given with
      | some .null | none => pure none
      | some v => some <$> liftFallible (mustBeInt v)
    let previewId := givenId.getD (-1)
    let before := !((← get).schema.triggersOn t.name .insert .before []).isEmpty
    if before then
      let vs ← liftFallible (t.withGenerated ((← get).env ctx) previewId vals)
      let preview : Row := { rowid := previewId, values := t.withRowid previewId (t.stored vs) }
      liftFallible (t.checkTypes preview.values)
      if ← fireTriggers fuel ctx t conflict .insert .before none (some preview) [] then return
    let st ← get
    let rowid ← match givenId with
      | some i => pure i
      | none => liftFallible (st.newRowid t)
    let env := st.env ctx
    let vals ← liftFallible (t.withGenerated env rowid vals)
    match ← liftFallible (checkNotNull env t conflict (fun _ => true) rowid vals) with
    | none => pure ()
    | some vals =>
      let row : Row := { rowid, values := t.withRowid rowid (t.stored vals) }
      let checked := !t.checks.isEmpty
      if checked && !before then liftFallible (t.checkTypes row.values)
      if !(← liftFallible (checkChecks env t conflict (fun _ => true) rowid (t.withRowid rowid vals))) then return
      match ← liftFallible (resolveUniqueness env st t conflict upserts none (before || checked) row) with
      | .skip => pure ()
      | .upsert u existing => upsertOne fuel ctx t u existing row
      | .proceed st =>
        liftFallible (indexEntries env t row)
        let st := st.setRows t (Database.insertRow (st.rows t) row)
        let db := if t.autoincrement then st.db.bumpSequence t.name rowid else st.db
        set (({ st with db, lastInsertRowid := rowid } : ChangeState).counted ctx)
        let _ ← fireTriggers fuel ctx t conflict .insert .after none (some row) []

/-- The update an upsert does on the row in the way of a new row (seen as `excluded`). -/
def upsertOne : Nat → ChangeCtx → Table → Upsert → Row → Row → ChangeM Unit
  | 0, _, _, _, _, _ => throw tooDeep
  | fuel + 1, ctx, t, u, existing, row => do
    let excluded := t.rowFrame "excluded" (some row)
    let env := (← get).env ctx
    if !(← liftFallible (holdsIn env ({ frames := [t.rowAs t.name existing, excluded] } :: ctx.outer) u.filter)) then
      return
    let pairs ← liftFallible (liftCheck (splitAssignments (u.sets.getD [])))
    let assigns ← pairs.mapM fun (n, e) => do
      let slot ← liftFallible (liftCheck (t.assignedColumn n))
      pure (slot, e)
    updateOne fuel ctx t (some .abort) assigns [excluded] t.name existing.rowid

/-- Update one row by its row id: each assignment (a column's position, or none for the row
id) is evaluated with the row and the extra frames in scope. -/
def updateOne : Nat → ChangeCtx → Table → Option Conflict → List (Option Nat × Expr) → List Frame → String →
    Int → ChangeM Unit
  | 0, _, _, _, _, _, _, _ => throw tooDeep
  | fuel + 1, ctx, t, conflict, assigns, extra, label, rowid => do
    let st ← get
    let some old := Database.findRow (st.rows t) rowid | return
    let sc : Scope := { frames := t.rowAs label old :: extra } :: ctx.outer
    let assignedAt (slot : Option Nat) : Option Expr :=
      (assigns.reverse.find? fun (p, _) => p == slot).map (·.2)
    let (newId, newVals) ← settling ctx fun env => do
      let newId ← match assignedAt none with
        | some e => do mustBeInt (← evalExpr evalFuel env sc none e).value
        | none => pure old.rowid
      let newVals ← t.columns.zipIdx.mapM fun (_, i) =>
        match (if t.rowidAlias == some i then none else assignedAt (some i)) with
        | some e => do pure (← evalExpr evalFuel env sc none e).value
        | none => pure (old.values.getD i .null)
      pure (newId, newVals)
    let changedNames := assigns.map fun (p, _) =>
      match p with
      | some i => (t.columns.getD i default).name
      | none => t.rowidName
    let before := !((← get).schema.triggersOn t.name .update .before changedNames).isEmpty
    if before then
      let vs ← liftFallible (t.withGenerated ((← get).env ctx) newId newVals)
      let preview : Row := { rowid := newId, values := t.withRowid newId (t.stored vs) }
      liftFallible (t.checkTypes preview.values)
      if ← fireTriggers fuel ctx t conflict .update .before (some old) (some preview) changedNames then return
    let st ← get
    let some cur := Database.findRow (st.rows t) rowid | return
    let assigned (i : Nat) : Bool := (assignedAt (some i)).isSome
    let changed := t.changedWith assigned (assignedAt none).isSome
    let vals := t.withRowid newId (newVals.zipIdx.map fun (v, i) => if assigned i then v else cur.values.getD i .null)
    let env := st.env ctx
    let vals ← liftFallible (t.withGenerated env newId vals)
    let some vals ← liftFallible (checkNotNull env t conflict changed newId vals) | return
    let row : Row := { rowid := newId, values := t.withRowid newId (t.stored vals) }
    let evaluated := t.readsChanged changed (assignedAt none).isSome
    let checked := t.checks.any fun (_, e) => evaluated e
    if checked && !before then liftFallible (t.checkTypes row.values)
    if !(← liftFallible (checkChecks env t conflict evaluated newId vals)) then return
    match ← liftFallible (resolveUniqueness env st t conflict [] (some rowid) (before || checked) row) with
    | .proceed st =>
      liftFallible (indexEntries env t row)
      set ((st.setRows t (Database.insertRow (Database.eraseRow (st.rows t) rowid) row)).counted ctx)
      let _ ← fireTriggers fuel ctx t conflict .update .after (some old) (some row) changedNames
    | _ => pure ()

/-- Delete one row by its row id. -/
def deleteOne : Nat → ChangeCtx → Table → Int → ChangeM Unit
  | 0, _, _, _ => throw tooDeep
  | fuel + 1, ctx, t, rowid => do
    let some old := Database.findRow ((← get).rows t) rowid | return
    if ← fireTriggers fuel ctx t none .delete .before (some old) none [] then return
    let st ← get
    if (Database.findRow (st.rows t) rowid).isNone then return
    set ((st.setRows t (Database.eraseRow (st.rows t) rowid)).counted ctx)
    let _ ← fireTriggers fuel ctx t none .delete .after (some old) none []

/-- Run the triggers a change of a row fires at a time; true when one raised `IGNORE`.
`conflict` is the resolution of the statement that fired them, when it gave one. -/
def fireTriggers : Nat → ChangeCtx → Table → Option Conflict → ChangeKind → TriggerTime → Option Row →
    Option Row → List String → ChangeM Bool
  | 0, _, _, _, _, _, _, _, _ => throw tooDeep
  | fuel + 1, ctx, t, conflict, k, time, old, new, changed => do
    let fired := ((← get).schema.triggersOn t.name k time changed).filter fun tr =>
      !ctx.active.any (sameName · tr.name)
    foldFromM fired false fun ignored tr => do
      if ignored then return true
      let lvl := t.triggerLevel k old new
      let tctx : ChangeCtx :=
        { ctx with override := conflict, active := tr.name :: ctx.active, outer := [lvl], ctes := [] }
      let st ← get
      if !(← liftFallible (holdsIn (st.env tctx) [lvl] tr.whenClause)) then return false
      let ig ← runBody fuel tctx tr.body
      modify fun s => { s with lastInsertRowid := st.lastInsertRowid }
      pure ig

/-- Run a trigger's statements; true when one raised `IGNORE` (what ran before keeps its
changes). -/
def runBody : Nat → ChangeCtx → List Stmt → ChangeM Bool
  | 0, _, _ => throw tooDeep
  | fuel + 1, ctx, stmts =>
    foldFromM stmts false fun ignored s => do
      if ignored then return true
      tryCatch (do runChange fuel ctx s; pure false) fun e =>
        if e.kind == .ignored then pure true else throw e

/-- Run a query or a change. -/
def runChange : Nat → ChangeCtx → Stmt → ChangeM Unit
  | 0, _, _ => throw tooDeep
  | fuel + 1, ctx, stmt =>
    match stmt with
    | .query q => do
      let _ ← liftFallible (runQuery evalFuel ((← get).env ctx) ctx.outer q)
    | .insert ctes conflict q _ cols source upserts => do
      let conflict := ctx.override <|> conflict
      -- rows of values that read the table are all evaluated before the first is inserted
      let beforehand := match source with
        | .values rows => rows.length > 1 && rows.any (·.any (Expr.readsTable q.name evalFuel))
        | _ => false
      let env := ((← get).env ctx).withCtes true ctes
      let (source, ctx) ← keepSubqueries ctx env fun base => match source with
        | .values rows => do
          let rows ← rows.mapM fun (row : List Expr) => row.mapM (Expr.settle env ctx.outer base evalFuel)
          pure (InsertSource.values rows)
        | s => pure s
      let env := (← get).env ctx
      let t ← liftFallible (liftCheck (env.changeTarget q))
      let slots : List (Option Nat) := match cols with
        | some names => names.map (columnIndex? t.columns)
        | none => ((List.range t.columns.length).filter fun i => !t.generatedColumns.contains i).map some
      let rowOf (vs : List Value) : Fallible (Option Value × List Value) := do
        let vals ← t.columns.zipIdx.mapM fun (c, i) =>
          match (slots.zipIdx.reverse.find? fun (s, _) => s == some i) with
          | some (_, k) => pure (vs.getD k .null)
          | none =>
            match c.default with
            | some d => env.evalClosed d
            | none => pure .null
        let given : Option Value :=
          match slots.zipIdx.reverse.find? (fun (s, _) => s.isNone) with
          | some (_, k) => some (vs.getD k .null)
          | none =>
            match t.rowidAlias with
            | some i => if slots.contains (some i) then some (vals.getD i .null) else none
            | none => none
        pure (given, vals)
      match source with
      | .values rows =>
        let rowValues (row : List Expr) : ChangeM (List Value) :=
          settling ctx fun env => row.mapM fun e => do
            pure (← evalExpr evalFuel env (({} : Level) :: ctx.outer) none e).value
        if beforehand then do
          let all ← rows.mapM rowValues
          all.forM fun vs => do
            let (given, vals) ← liftFallible (rowOf vs)
            insertOne fuel ctx t conflict upserts given vals
        else
          rows.forM fun row => do
            let (given, vals) ← liftFallible (rowOf (← rowValues row))
            insertOne fuel ctx t conflict upserts given vals
      | .query sel => do
        let rs ← liftFallible (runQuery evalFuel env ctx.outer sel)
        rs.rows.forM fun vs => do
          let (given, vals) ← liftFallible (rowOf vs)
          insertOne fuel ctx t conflict upserts given vals
      | .defaults => do
        let (given, vals) ← liftFallible (rowOf [])
        insertOne fuel ctx t conflict upserts given vals
    | .update ctes conflict q aliasName sets sources filter => do
      let conflict := ctx.override <|> conflict
      let env := ((← get).env ctx).withCtes true ctes
      let ((sets, filter), ctx) ← keepSubqueries ctx env fun base => do
        let sets ← sets.mapM fun (ns, e) => do pure (ns, ← e.settle env ctx.outer base evalFuel)
        pure (sets, ← filter.mapM (Expr.settle env ctx.outer base evalFuel))
      let env := (← get).env ctx
      let t ← liftFallible (liftCheck (env.changeTarget q))
      let label := aliasName.getD t.name
      let pairs ← liftFallible (liftCheck (splitAssignments sets))
      let assigns ← pairs.mapM fun (n, e) => do
        let slot ← liftFallible (liftCheck (t.assignedColumn n))
        pure (slot, e)
      let fromRows : Option (List Level) ← if sources.isEmpty then pure none
        else do
          let (_, combos) ← liftFallible (joinRows evalFuel env ctx.outer sources)
          pure (some combos)
      let rows := (← get).rows t
      let targets ← settling ctx fun env => foldFromM rows ([] : List (Int × List Frame)) fun acc r => do
        let base := t.rowAs label r
        match fromRows with
        | none => do
          let ok ← holdsIn env ({ frames := [base] } :: ctx.outer) filter
          pure (if ok then acc ++ [(r.rowid, [])] else acc)
        | some combos => do
          let hit ← combos.findM? fun lv => holdsIn env ({ frames := base :: lv.frames } :: ctx.outer) filter
          pure (match hit with
            | some lv => acc ++ [(r.rowid, lv.frames)]
            | none => acc)
      targets.forM fun (rowid, extra) => updateOne fuel ctx t conflict assigns extra label rowid
    | .delete ctes q aliasName filter => do
      let env := ((← get).env ctx).withCtes true ctes
      let (filter, ctx) ← keepSubqueries ctx env fun base => filter.mapM (Expr.settle env ctx.outer base evalFuel)
      let env := (← get).env ctx
      let t ← liftFallible (liftCheck (env.changeTarget q))
      let label := aliasName.getD t.name
      let rows := (← get).rows t
      let targets ← settling ctx fun env => rows.filterM fun r => holdsIn env ({ frames := [t.rowAs label r] } :: ctx.outer) filter
      targets.forM fun r => deleteOne fuel ctx t r.rowid
    | _ => pure ()

end

end Windowing.Sql
