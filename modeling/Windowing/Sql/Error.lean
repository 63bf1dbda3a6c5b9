set_option autoImplicit false

/-! # Why a statement fails

A failed statement reports a kind of failure and a message. The kind has a number and a
standard text; the report is the text, the message after a colon unless it is the same
text, and the number in parentheses: `SQL logic error: no such table: t (1)`,
`datatype mismatch (20)`. -/

namespace Windowing.Sql

/-- The kinds of failure. -/
inductive ErrorKind where
  /-- A statement that does not read, names what does not exist, or fails as it runs. -/
  | logic
  /-- A statement that needs a collation that does not exist. -/
  | missingCollation
  /-- A `CHECK` constraint does not hold. -/
  | checkFailed
  /-- A `NOT NULL` column is given null. -/
  | notNull
  /-- Two rows have one primary key. -/
  | primaryKey
  /-- Two rows have one key of a unique index. -/
  | unique
  /-- Two rows have one row id (a table whose row id has no column). -/
  | rowid
  /-- A trigger raised a failure. -/
  | raised
  /-- A strict table's column is given a value of another type. -/
  | datatype
  /-- A value of the wrong type for a row id. -/
  | mismatch
  /-- A text or blob over the size limit. -/
  | tooBig
  /-- No row id is left for a new row. -/
  | full
  /-- Not a failure: a trigger gave up the change of the current row. -/
  | ignored
  /-- Not a failure: evaluation needs a subquery of the running statement (the message
  names it) that has not been evaluated yet. -/
  | unsettled
  deriving BEq, Inhabited

/-- The number of a kind of failure. -/
def ErrorKind.code : ErrorKind → Nat
  | .logic => 1
  | .missingCollation => 257
  | .checkFailed => 275
  | .notNull => 1299
  | .primaryKey => 1555
  | .unique => 2067
  | .rowid => 2579
  | .raised => 1811
  | .datatype => 3091
  | .mismatch => 20
  | .tooBig => 18
  | .full => 13
  | .ignored | .unsettled => 0

/-- The standard text of a kind of failure. -/
def ErrorKind.text : ErrorKind → String
  | .logic | .missingCollation => "SQL logic error"
  | .checkFailed | .notNull | .primaryKey | .unique | .rowid | .raised | .datatype => "constraint failed"
  | .mismatch => "datatype mismatch"
  | .tooBig => "string or blob too big"
  | .full => "database or disk is full"
  | .ignored | .unsettled => "not an error"

/-- How much a failure undoes: the failing statement's changes, nothing (the changes
made before it stay), or the whole transaction. -/
inductive Undo where
  | statement
  | nothing
  | transaction
  deriving BEq, Inhabited

/-- A failure of a statement. -/
structure SqlError where
  kind : ErrorKind
  message : String
  undo : Undo := .statement
  deriving Inhabited

/-- A logic failure with a message; one that names a collation that does not exist has a
number of its own. -/
def SqlError.logic (message : String) : SqlError :=
  { kind := if message.startsWith "no such collation sequence: " then .missingCollation else .logic, message }

/-- The report of a failure. -/
def SqlError.render (e : SqlError) : String :=
  let code := " (" ++ toString e.kind.code ++ ")"
  if e.message == e.kind.text || e.message.isEmpty then e.kind.text ++ code
  else e.kind.text ++ ": " ++ e.message ++ code

/-- A computation that may fail. -/
abbrev Fallible := Except SqlError

end Windowing.Sql
