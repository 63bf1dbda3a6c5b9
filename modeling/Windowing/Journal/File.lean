import Windowing.Journal
import Windowing.Json.Read

set_option autoImplicit false

/-! # Journal files

A journal kept on a disk is a text file: the line `correlog journal`, then one JSON
document with the database's schema entries and the rows of its tables. An entry is
`[kind, name, table, root page, text]` (the text `null` for an index a table's constraint
made); a table's rows are `[name, [[row id, [value, …]], …]]`. A value is `null`, a
string for text, `{"int": i}` for an integer, `{"real": b}` for a real, where `b` is the
64-bit pattern of the double, so that every real reads back as the same double, and
`{"blob": [octet, …]}` for a blob.

A text that does not start with the header line, or whose document does not have this
shape, is no journal. -/

namespace Windowing

open Sql

/-- The first line of a journal file. -/
def journalFileHeader : String := "correlog journal\n"

/-- A value as JSON. -/
def valueJson : Value → Json
  | .null => .null
  | .int i => .obj [("int", .int i)]
  | .real f => .obj [("real", .int f.toBits.toNat)]
  | .text s => .str s
  | .blob b => .obj [("blob", .arr (b.map fun o => .int o.toNat))]

/-- The octet a JSON value stands for. -/
def octetOfJson? : Json → Option UInt8
  | .int i => if 0 ≤ i && i < 256 then some i.toNat.toUInt8 else none
  | _ => none

/-- The value a JSON value stands for. -/
def valueOfJson? : Json → Option Value
  | .null => some .null
  | .str s => some (.text s)
  | .obj [("int", .int i)] => some (.int i)
  | .obj [("real", .int b)] =>
    if 0 ≤ b && b < 18446744073709551616 then some (.real (Float.ofBits b.toNat.toUInt64)) else none
  | .obj [("blob", .arr os)] => (os.mapM octetOfJson?).map .blob
  | _ => none

/-- The word of a kind of object, and back. -/
def objectKindOf? (w : String) : Option ObjectKind :=
  [ObjectKind.table, .index, .view, .trigger].find? (·.word == w)

/-- A schema entry as JSON. -/
def entryJson (e : SchemaEntry) : Json :=
  .arr [.str e.kind.word, .str e.name, .str e.table, .int e.rootPage,
    match e.sql with
    | some s => .str s
    | none => .null]

/-- The schema entry a JSON value stands for. -/
def entryOfJson? : Json → Option SchemaEntry
  | .arr [.str k, .str name, .str table, .int rootPage, sql] => do
    let kind ← objectKindOf? k
    let sql ← match sql with
      | .str s => some (some s)
      | .null => some none
      | _ => none
    pure { kind, name, table, rootPage, sql }
  | _ => none

/-- A row as JSON. -/
def rowJson (r : Row) : Json := .arr [.int r.rowid, .arr (r.values.map valueJson)]

/-- The row a JSON value stands for. -/
def rowOfJson? : Json → Option Row
  | .arr [.int rowid, .arr vs] => (vs.mapM valueOfJson?).map fun values => { rowid, values }
  | _ => none

/-- A table's rows as JSON. -/
def contentsJson (c : String × List Row) : Json := .arr [.str c.1, .arr (c.2.map rowJson)]

/-- A table's rows a JSON value stands for. -/
def contentsOfJson? : Json → Option (String × List Row)
  | .arr [.str n, .arr rows] => (rows.mapM rowOfJson?).map (n, ·)
  | _ => none

/-- A database as JSON. -/
def databaseJson (d : Database) : Json :=
  .obj [("entries", .arr (d.entries.map entryJson)), ("tables", .arr (d.contents.map contentsJson))]

/-- The database a JSON value stands for. -/
def databaseOfJson? : Json → Option Database
  | .obj [("entries", .arr es), ("tables", .arr ts)] => do
    let entries ← es.mapM entryOfJson?
    let contents ← ts.mapM contentsOfJson?
    pure { entries, contents }
  | _ => none

/-- The text of a journal file. -/
def journalFileText (d : Database) : String :=
  journalFileHeader ++ (databaseJson d).encode ++ "\n"

/-- The database a journal file's text holds, if it is one. -/
def journalOfFileText? (text : String) : Option Database :=
  if text.startsWith journalFileHeader then
    match Json.read (text.drop journalFileHeader.length).toString with
    | .ok j => databaseOfJson? j
    | .error _ => none
  else none

end Windowing
