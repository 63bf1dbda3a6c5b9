import Windowing.Sql.Syntax

set_option autoImplicit false

/-! # Databases

A database is its schema table and the rows of its tables. The schema table lists the
tables, indexes, views and triggers in the order they were made, each with the text that
defines it; everything else about the schema is read from those texts. A table's rows are
kept in order of their row ids.

Names of tables, columns and other objects are matched without regard to the case of
ASCII letters. -/

namespace Windowing.Sql

/-- A name with its ASCII letters in lower case. -/
def foldName (s : String) : String :=
  String.ofList (s.toList.map fun c => if 'A' ≤ c && c ≤ 'Z' then Char.ofNat (c.toNat + 32) else c)

/-- Whether two names are the same, ASCII letters compared without case. -/
def sameName (a b : String) : Bool := foldName a == foldName b

/-- A row of a table: its row id and the values of its columns. -/
structure Row where
  rowid : Int
  values : List Value
  deriving Inhabited

/-- An entry of the schema table: the kind of object, its name, the table it belongs to,
its root page, and its defining text (none for the index that a table's own constraint
makes). -/
structure SchemaEntry where
  kind : ObjectKind
  name : String
  table : String
  rootPage : Int := 0
  sql : Option String
  deriving Inhabited

/-- The word for a kind of object in the schema table. -/
def ObjectKind.word : ObjectKind → String
  | .table => "table"
  | .index => "index"
  | .view => "view"
  | .trigger => "trigger"

/-- A database: the schema table's entries in order, and the rows of each table, by the
table's name in lower case. -/
structure Database where
  entries : List SchemaEntry := []
  contents : List (String × List Row) := []
  deriving Inhabited

namespace Database

/-- The rows of a table, in row id order. -/
def rows (d : Database) (table : String) : List Row :=
  (d.contents.lookup (foldName table)).getD []

/-- Replace the rows of a table. -/
def setRows (d : Database) (table : String) (rows : List Row) : Database :=
  let k := foldName table
  if d.contents.any (·.1 == k) then
    { d with contents := d.contents.map fun (n, r) => if n == k then (n, rows) else (n, r) }
  else { d with contents := d.contents ++ [(k, rows)] }

/-- Forget a table's rows. -/
def dropRows (d : Database) (table : String) : Database :=
  let k := foldName table
  { d with contents := d.contents.filter (·.1 != k) }

/-- The entry of an object of any kind by its name. -/
def entry? (d : Database) (name : String) : Option SchemaEntry :=
  d.entries.find? fun e => sameName e.name name

/-- The next free root page. -/
def nextPage (d : Database) : Int :=
  d.entries.foldl (fun m e => max m e.rootPage) 1 + 1

/-- Add an entry to the schema table. -/
def addEntry (d : Database) (e : SchemaEntry) : Database :=
  { d with entries := d.entries ++ [e] }

/-- Remove the entries of a name. -/
def removeEntry (d : Database) (name : String) : Database :=
  { d with entries := d.entries.filter fun e => !sameName e.name name }

/-- Insert a row, keeping row id order (a row with the same id is replaced). -/
def insertRow (rows : List Row) (r : Row) : List Row :=
  let before := rows.filter (·.rowid < r.rowid)
  let after := rows.filter (·.rowid > r.rowid)
  before ++ [r] ++ after

/-- The row of a row id. -/
def findRow (rows : List Row) (rowid : Int) : Option Row :=
  rows.find? (·.rowid == rowid)

/-- Remove the row of a row id. -/
def eraseRow (rows : List Row) (rowid : Int) : List Row :=
  rows.filter (·.rowid != rowid)

/-- The largest row id, if there is a row. -/
def maxRowid? (rows : List Row) : Option Int :=
  rows.foldl (fun m r => some (match m with | some x => max x r.rowid | none => r.rowid)) none

end Database

end Windowing.Sql
