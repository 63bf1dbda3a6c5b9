import Windowing.Sql.Eval

set_option autoImplicit false

/-! # Checking a change before it runs

Before an `INSERT`, `UPDATE` or `DELETE` runs, everything it names is looked up, in the
order the statement is read: the table (which must be a table, not a view or the schema
table), then for an `INSERT` the columns listed, the source of the rows and the number of
values, for an `UPDATE` each assignment's expression and then its column, then the
`WHERE` clause. Last come the triggers the change may fire (`BEFORE` ones, then `AFTER`
ones, newest first): their conditions and bodies are checked in the same way, with the
rows `NEW` and `OLD` in scope. A trigger is not checked again inside itself, as it does not
fire inside itself. -/

namespace Windowing.Sql

/-- The frame of a table's rows under a name. -/
def Table.frameAs (t : Table) (label : String) : Frame :=
  { name := label, isTable := true, columns := t.columnInfos, hasRowid := !t.withoutRowid }

/-- The frame of a table's row under a name. -/
def Table.rowAs (t : Table) (label : String) (r : Row) : Frame :=
  { t.frameAs label with values := r.values, rowid := .int r.rowid }

/-- A trigger's row frame (`NEW`, `OLD` or an upsert's `excluded`), found only by that
qualifier. -/
def Table.rowFrame (t : Table) (label : String) (row : Option Row) : Frame :=
  { name := label, columns := t.columnInfos, hasRowid := true, qualifiedOnly := true,
    values := match row with
      | some r => r.values
      | none => t.columns.map fun _ => .null,
    rowid := match row with
      | some r => .int r.rowid
      | none => .null }

/-- The kinds of change. -/
inductive ChangeKind where
  | insert
  | update
  | delete
  deriving BEq, Inhabited

/-- Whether a trigger's event is a change of this kind (an update of one of the changed
columns, when the trigger lists columns). -/
def TriggerEvent.fires (ev : TriggerEvent) (k : ChangeKind) (changed : List String) : Bool :=
  match ev, k with
  | .insert, .insert => true
  | .delete, .delete => true
  | .update cols, .update => cols.isEmpty || cols.any fun c => changed.any (sameName · c)
  | _, _ => false

/-- The triggers a change fires at a time, newest first. -/
def Schema.triggersOn (s : Schema) (table : String) (k : ChangeKind) (time : TriggerTime)
    (changed : List String) : List Trigger :=
  s.triggers.filter fun t => sameName t.table table && t.time == time && t.event.fires k changed

/-- The level a trigger sees: `NEW` (not for a delete) and `OLD` (not for an insert). -/
def Table.triggerLevel (t : Table) (k : ChangeKind) (old new : Option Row) : Level :=
  { frames := (if k == .delete then [] else [t.rowFrame "new" new]) ++
      (if k == .insert then [] else [t.rowFrame "old" old]) }

/-- The table a change names, or why it cannot be changed. -/
def Env.changeTarget (env : Env) (q : QualName) : Except String Table :=
  let written := match q.schema with
    | some s => s ++ "." ++ q.name
    | none => q.name
  if q.schema.any (fun s => !sameName s "main" && !sameName s "temp") then .error ("no such table: " ++ written)
  else
    match env.schema.table? q.name with
    | some t => .ok t
    | none =>
      match env.schema.view? q.name with
      | some v => .error ("cannot modify " ++ v.name ++ " because it is a view")
      | none =>
        if isSchemaTableName q.name then .error "table sqlite_master may not be modified"
        else .error ("no such table: " ++ written)

/-- The assignments of an `UPDATE` (or of an upsert), one column each: `(a, b) = (x, y)`
assigns the items in turn, `(a, b) = (SELECT …)` the subquery's columns. -/
def splitAssignments (sets : List (List String × Expr)) : Except String (List (String × Expr)) :=
  foldFromM sets [] fun acc (names, e) =>
    match names, e with
    | [n], _ => .ok (acc ++ [(n, e)])
    | _, .vector items =>
      if items.length != names.length then
        .error (toString names.length ++ " columns assigned " ++ toString items.length ++ " values")
      else .ok (acc ++ names.zip items)
    | _, .scalar q => .ok (acc ++ names.zipIdx.map fun (n, i) => (n, .subColumn q i names.length))
    | _, _ => .error (toString names.length ++ " columns assigned 1 values")

/-- The column an assignment sets: its position, or none for the row id. -/
def Table.assignedColumn (t : Table) (n : String) : Except String (Option Nat) :=
  match columnIndex? t.columns n with
  | some i =>
    let c := t.columns.getD i default
    if t.rowidAlias == some i then .ok none
    else if c.generated.isSome then .error ("cannot UPDATE generated column \"" ++ c.name ++ "\"")
    else .ok (some i)
  | none => if isRowidName n && !t.withoutRowid then .ok none else .error ("no such column: " ++ n)

/-- The names of the columns a key is over, when all its parts are columns. -/
def Key.columnNames (t : Table) (k : Key) : Option (List String) :=
  k.parts.mapM fun p =>
    match p with
    | .column i _ => some (t.columns.getD i default).name
    | .expr _ _ => none

/-- Whether an upsert's target names a key (none: the row id). -/
def Upsert.targets (u : Upsert) (t : Table) (key : Option Key) : Bool :=
  if u.target.isEmpty then true
  else
    let names : List (Option String) := u.target.map fun ic =>
      match ic.e with
      | .column [] n _ => some n
      | _ => none
    match key with
    | none =>
      match names, t.rowidAlias with
      | [some n], some i => sameName n (t.columns.getD i default).name
      | _, _ => false
    | some k =>
      match k.columnNames t, names.mapM id with
      | some ks, some ns =>
        ks.length == ns.length && ks.all (fun a => ns.any (sameName a ·)) && ns.all (fun a => ks.any (sameName a ·))
      | _, _ => false

mutual

/-- Check the names of a statement that may stand in a trigger (or be run on its own):
a query or a change. `outer` is the scope of the trigger's rows; `active` the triggers
being checked. -/
def checkChange : Nat → Env → Scope → List String → Stmt → Except String Unit
  | 0, _, _, _, _ => .error "trigger nested too deeply"
  | fuel + 1, env, outer, active, stmt =>
    match stmt with
    | .query q => do
      let _ ← queryColumns fuel env outer q
      pure ()
    | .insert ctes _ q _ cols source upserts => do
      let env := env.withCtes true ctes
      let t ← env.changeTarget q
      match cols with
      | some names =>
        for n in names do
          match columnIndex? t.columns n with
          | some i =>
            let c := t.columns.getD i default
            if c.generated.isSome then throw ("cannot INSERT into generated column \"" ++ c.name ++ "\"")
          | none =>
            if !(isRowidName n && !t.withoutRowid) then
              throw ("table " ++ t.name ++ " has no column named " ++ n)
      | none => pure ()
      let width : Option Nat ← match source with
        | .values rows => do
          for row in rows do
            CheckM.strict (row.forM (checkExpr fuel env (({} : Level) :: outer) false))
          pure (some (rows.headD []).length)
        | .query sel => do
          let cs ← queryColumns fuel env outer sel
          pure (some cs.length)
        | .defaults => pure none
      match width, cols with
      | some w, some names =>
        if w != names.length then
          throw (toString w ++ " values for " ++ toString names.length ++ " columns")
      | some w, none =>
        let writable := (t.columns.filter (·.generated.isNone)).length
        if w != writable then
          throw ("table " ++ t.name ++ " has " ++ toString writable ++ " columns but " ++
            toString w ++ " values were supplied")
      | none, _ => pure ()
      for u in upserts do
        if !u.target.isEmpty && !(u.targets t none || t.keys.any (fun k => u.targets t (some k))) then
          throw "ON CONFLICT clause does not match any PRIMARY KEY or UNIQUE constraint"
        let sc : Scope := { frames := [t.frameAs t.name, t.rowFrame "excluded" none] } :: outer
        match u.sets with
        | some sets => do
          let assigns ← splitAssignments sets
          for (n, e) in assigns do
            CheckM.strict (checkExpr fuel env sc false e)
            let _ ← t.assignedColumn n
          CheckM.strict (u.filter.toList.forM (checkExpr fuel env sc false))
        | none => pure ()
      checkTriggers fuel env active t .insert []
    | .update ctes _ q aliasName sets sources filter => do
      let env := env.withCtes true ctes
      let t ← env.changeTarget q
      let joined ← joinFrames fuel env outer sources
      let sc : Scope := { frames := t.frameAs (aliasName.getD t.name) :: joined } :: outer
      let assigns ← splitAssignments sets
      for (n, e) in assigns do
        CheckM.strict (checkExpr fuel env sc false e)
        let _ ← t.assignedColumn n
      CheckM.strict (filter.toList.forM (checkExpr fuel env sc false))
      checkTriggers fuel env active t .update (assigns.map (·.1))
    | .delete ctes q aliasName filter => do
      let env := env.withCtes true ctes
      let t ← env.changeTarget q
      let sc : Scope := { frames := [t.frameAs (aliasName.getD t.name)] } :: outer
      CheckM.strict (filter.toList.forM (checkExpr fuel env sc false))
      checkTriggers fuel env active t .delete []
    | _ => pure ()

/-- Check the triggers a change of a table may fire. -/
def checkTriggers : Nat → Env → List String → Table → ChangeKind → List String → Except String Unit
  | 0, _, _, _, _, _ => .error "trigger nested too deeply"
  | fuel + 1, env, active, t, k, changed =>
    let fired := env.schema.triggersOn t.name k .before changed ++ env.schema.triggersOn t.name k .after changed
    fired.forM fun tr =>
      if active.any (sameName · tr.name) then pure ()
      else do
        let lvl := t.triggerLevel k none none
        let inner : Env := { env with inTrigger := true, ctes := [] }
        CheckM.strict (tr.whenClause.toList.forM (checkExpr fuel inner [lvl] false))
        tr.body.forM (checkChange fuel inner [lvl] (tr.name :: active))

end

end Windowing.Sql
