import Windowing.Sql.Session
import Windowing.Message.Wire
import Windowing.Timestamp
import Windowing.Failure

set_option autoImplicit false

/-! # The alert journal

The journal records alerts in the table `alerts` of a database: the action, the
context's identifier and name, the window length, whether the alert is re-injected, the
message as its JSON text, and the creation time as RFC 3339 text. Opening a journal makes
the table and its indexes when they are missing. Recording an alert gives the row id it
was stored under.

Listing reads alerts with ids above a given one, in id order, at most a limit of them
(a limit of zero or less means 100), optionally only those of one context name. Each row
is read back column by column, each value converted to the type the alert keeps it in:
texts take numbers as they print, integers take texts that are integer numerals; then
the message is read from its JSON text and the creation time from its text. The first
row that does not read stops the listing with its error.

Counting rows and finding the largest id give zero when the table cannot be read. Once
closed, the journal refuses every call with `sql: database is closed`, and counting
gives zero. Other connections may run SQL on the journal's database meanwhile, and the
journal then reads what they left. -/

namespace Windowing

open Sql

/-- An open journal: its connection to its database, and whether it was closed. -/
structure Journal where
  conn : Session := { db := {} }
  closed : Bool := false
  deriving Inhabited

/-- An alert read back from the journal. -/
structure JournalEntry where
  id : Int
  createdAt : Timestamp
  alert : Alert

/-- The statements that make the journal's table and indexes. -/
def journalSchema : String :=
  "\n\tCREATE TABLE IF NOT EXISTS alerts (\n\t\tid           INTEGER PRIMARY KEY AUTOINCREMENT,\n\t\taction_id    TEXT NOT NULL,\n\t\tcontext_id   TEXT NOT NULL,\n\t\tcontext_name TEXT NOT NULL DEFAULT '',\n\t\twindow_len   INTEGER NOT NULL,\n\t\tinjected     INTEGER NOT NULL DEFAULT 0,\n\t\tmessage      TEXT NOT NULL,\n\t\tcreated_at   TEXT NOT NULL\n\t);\n\n\tCREATE INDEX IF NOT EXISTS idx_alerts_context ON alerts(context_name, id);\n\tCREATE INDEX IF NOT EXISTS idx_alerts_action ON alerts(action_id);\n\t"

/-- The statement that records an alert. -/
def insertAlertSql : String :=
  "INSERT INTO alerts (action_id, context_id, context_name, window_len, injected, message, created_at)\n\t\t\t VALUES (?, ?, ?, ?, ?, ?, ?)"

/-- The query of every alert column. -/
def selectAlertsSql : String :=
  "SELECT id, action_id, context_id, context_name, window_len, injected, message, created_at FROM alerts"

/-- The failure of a statement of the journal. -/
def stepFailure (e : StepError) : Failure := Failure.plain e.render

namespace Journal

/-- Open a journal on a database, making its table when it is missing. -/
def openOn (db : Database) : Except Failure Journal :=
  let (s, _, err) := ({ db } : Session).script journalSchema []
  match err with
  | some e => .error ((stepFailure e).wrap "migrate: ")
  | none => .ok { conn := s }

/-- The database the journal holds. -/
def data (j : Journal) : Database := j.conn.db

/-- The failure of a closed journal. -/
def closedFailure : Failure := Failure.plain "sql: database is closed"

/-- Run a statement on the journal's connection. -/
def run (j : Journal) (sql : String) (params : List Value) : Journal × Except Failure ResultSet :=
  if j.closed then (j, .error closedFailure)
  else
    let (s, rs, err) := j.conn.script sql params
    let j := { j with conn := s }
    match err with
    | some e => (j, .error (stepFailure e))
    | none => (j, .ok rs)

/-- Record an alert, created at `now` (RFC 3339 text): its id. -/
def insert (j : Journal) (a : Option Alert) (now : String) : Except Failure (Journal × Int) := do
  let a ← match a with
    | some a => pure a
    | none => throw (Failure.plain "insert alert: alert has no message")
  let params : List Value :=
    [.text a.actionId, .text a.contextId, .text a.contextName, .int a.windowLen,
     .int (if a.inject then 1 else 0), .text a.message.wire, .text now]
  let (j, r) := j.run insertAlertSql params
  let _ ← r
  pure (j, j.conn.lastInsertRowid)

/-- The name of the type a value is handed over as. -/
def valueTypeName : Value → String
  | .null => "nil"
  | .int _ => "int64"
  | .real _ => "float64"
  | .text _ => "string"
  | .blob _ => "[]uint8"

/-- A value as text, the way it is handed over (none for null). -/
def valueText : Value → Option String
  | .null => none
  | .int i => some (toString i)
  | .real f => some (Decimal.formatFloat f 'g' none)
  | .text s => some s
  | .blob b => some (Utf8.ofOctets b)

/-- The failure of a cell that does not read into the type a column is kept in. -/
def scanFailure (index : Nat) (col : String) (why : String) : Failure :=
  Failure.plain ("sql: Scan error on column index " ++ toString index ++ ", name " ++
    Text.quote col ++ ": " ++ why)

/-- Whether a numeral's failure to read as a 64-bit integer is its size (one sign, then
only digits) rather than its form. -/
def outOfRange (s : String) : Bool :=
  let ds := match s.toList with
    | '-' :: r | '+' :: r => r
    | r => r
  !ds.isEmpty && ds.all Char.isDigit

/-- Read a value into a text. -/
def readText (index : Nat) (col : String) (v : Value) : Except Failure String :=
  match valueText v with
  | some s => .ok s
  | none => .error (scanFailure index col "converting NULL to string is unsupported")

/-- Read a value into an integer of the named type. -/
def readInt (index : Nat) (col : String) (type : String) (v : Value) : Except Failure Int :=
  match valueText v with
  | none => .error (scanFailure index col ("converting NULL to " ++ type ++ " is unsupported"))
  | some s =>
    match Text.parseDecimalInt64 s with
    | some i => .ok i
    | none =>
      let why := if outOfRange s then "value out of range" else "invalid syntax"
      .error (scanFailure index col
        ("converting driver.Value type " ++ valueTypeName v ++ " (" ++ Text.quote s ++ ") to a " ++
          type ++ ": " ++ why))

/-- Read a listed row back into an alert. -/
def readRow (names : List String) (row : List Value) : Except Failure JournalEntry := do
  let cell (i : Nat) : Value := row.getD i .null
  let name (i : Nat) : String := names.getD i ""
  let id ← readInt 0 (name 0) "int64" (cell 0)
  let actionId ← readText 1 (name 1) (cell 1)
  let contextId ← readText 2 (name 2) (cell 2)
  let contextName ← readText 3 (name 3) (cell 3)
  let windowLen ← readInt 4 (name 4) "int" (cell 4)
  let injected ← readInt 5 (name 5) "int" (cell 5)
  let body ← readText 6 (name 6) (cell 6)
  let created ← readText 7 (name 7) (cell 7)
  let message ← match Message.ofWire body with
    | .ok m => pure m
    | .error f => throw (f.wrap ("decode message of alert " ++ toString id ++ ": "))
  let createdAt ← match Timestamp.parse created with
    | .ok t => pure t
    | .error e => throw (Failure.plain ("parse created_at time for alert " ++ toString id ++ ": " ++
        e.render created))
  pure { id, createdAt,
         alert := { actionId, contextId, contextName, message, windowLen, inject := injected != 0 } }

/-- Alerts with ids above `since`, in id order, at most `limit` (zero or less: 100), only
those of the context `context` when one is given. -/
def list (j : Journal) (context : Option String) (since limit : Int) : Except Failure (List JournalEntry) := do
  let limit := if limit ≤ 0 then 100 else limit
  let (sql, params) := match context with
    | none => (selectAlertsSql ++ " WHERE id > ? ORDER BY id ASC LIMIT ?", [Value.int since, .int limit])
    | some c =>
      (selectAlertsSql ++ " WHERE context_name = ? AND id > ? ORDER BY id ASC LIMIT ?",
        [Value.text c, .int since, .int limit])
  let (_, r) := j.run sql params
  let rs ← r
  rs.rows.mapM (readRow (rs.columns.map (·.name)))

/-- The first value of a query's answer read as an integer, or zero. -/
def scalar (j : Journal) (sql : String) : Int :=
  match (j.run sql []).2 with
  | .ok rs =>
    match rs.rows.head? with
    | some (v :: _) =>
      match readInt 0 "" "int64" v with
      | .ok i => i
      | .error _ => 0
    | _ => 0
  | .error _ => 0

/-- The number of alerts, or zero when the table cannot be read. -/
def count (j : Journal) : Int := j.scalar "SELECT COUNT(*) FROM alerts"

/-- The largest id, or zero. -/
def maxId (j : Journal) : Int := j.scalar "SELECT COALESCE(MAX(id), 0) FROM alerts"

/-- Close the journal. -/
def close (j : Journal) : Journal := { j with closed := true }

/-- Run SQL text on the journal's database from another connection, which closes after
it: the statements before a failure keep their effects. -/
def exec (j : Journal) (sql : String) : Journal × Option Failure :=
  let (s, _, err) := ({ db := j.conn.db } : Session).script sql []
  ({ j with conn := { j.conn with db := s.close } }, err.map stepFailure)

end Journal

/-- Why a journal file does not open. -/
def openFailure : Failure := Failure.plain "migrate: unable to open database file: out of memory (14)"

/-- The failure of a file that is not a journal. -/
def notJournalFailure : Failure := Failure.plain "migrate: file is not a database (26)"

end Windowing
