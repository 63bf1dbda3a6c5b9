import Windowing.Sql.Syntax
import Windowing.Sql.Token

set_option autoImplicit false

/-! # Reading tokens

The parser reads a statement's tokens from left to right, looking at most a few tokens
ahead. When a token cannot continue what was read so far, the statement is refused with
`near "TOKEN": syntax error`; an illegal token is refused as `unrecognized token:
"TOKEN"`; and when the text ends where more is needed, with `incomplete input`.

Keywords are words matched without regard to case. Most keywords may also serve as names
where no keyword is expected; those listed in `reservedWords` never may. -/

namespace Windowing.Sql

/-- What the parser holds: the tokens left, the number of `?` parameters seen, the SQL
text, and where the last token taken ends. -/
structure ParseState where
  tokens : List Token
  params : Nat := 0
  source : String
  lastEnd : Nat := 0

/-- A parser of a part of a statement. -/
abbrev Parser := StateT ParseState (Except String)

/-- The words that are never names. -/
def reservedWords : List String :=
  ["ADD", "ALL", "ALTER", "AND", "AS", "AUTOINCREMENT", "BETWEEN", "CASE", "CHECK", "COLLATE",
   "COMMIT", "CONSTRAINT", "CREATE", "DEFAULT", "DEFERRABLE", "DELETE", "DISTINCT", "DROP",
   "ELSE", "ESCAPE", "EXCEPT", "EXISTS", "FOREIGN", "FROM", "GROUP", "HAVING", "IN", "INDEX",
   "INSERT", "INTERSECT", "INTO", "IS", "ISNULL", "JOIN", "LIMIT", "NOT", "NOTHING",
   "NOTNULL", "NULL", "ON", "OR", "ORDER", "PRIMARY", "REFERENCES", "RETURNING", "SELECT",
   "SET", "TABLE", "THEN", "TO", "TRANSACTION", "UNION", "UNIQUE", "UPDATE", "USING",
   "VALUES", "WHEN", "WHERE"]

/-- Whether a word is a reserved keyword. -/
def isReserved (w : String) : Bool := reservedWords.contains w.toUpper

/-- The next token, if any. -/
def peek : Parser (Option Token) := do return (← get).tokens.head?

/-- The token `n` places ahead, if any. -/
def peekAt (n : Nat) : Parser (Option Token) := do return ((← get).tokens.drop n).head?

/-- Take the next token. -/
def advance : Parser Unit :=
  modify fun s => match s.tokens with
    | t :: rest => { s with tokens := rest, lastEnd := t.start + t.text.length }
    | [] => s

/-- Refuse the statement at the next token. -/
def syntaxError {α : Type} : Parser α := do
  match ← peek with
  | none => throw "incomplete input"
  | some t =>
    if t.kind == .illegal then throw ("unrecognized token: \"" ++ t.text ++ "\"")
    else throw ("near \"" ++ t.text ++ "\": syntax error")

/-- Whether the next token is the keyword. -/
def atWord (kw : String) : Parser Bool := do
  match ← peek with
  | some t => return t.isWord kw
  | none => return false

/-- Whether the token `n` places ahead is the keyword. -/
def atWordAt (n : Nat) (kw : String) : Parser Bool := do
  match ← peekAt n with
  | some t => return t.isWord kw
  | none => return false

/-- Whether the next token is the operator. -/
def atOp (o : String) : Parser Bool := do
  match ← peek with
  | some t => return t.isOp o
  | none => return false

/-- Whether the token `n` places ahead is the operator. -/
def atOpAt (n : Nat) (o : String) : Parser Bool := do
  match ← peekAt n with
  | some t => return t.isOp o
  | none => return false

/-- Whether the token `n` places ahead is a name: a word that is not reserved, or a
quoted name. -/
def atNameAt (n : Nat) : Parser Bool := do
  match ← peekAt n with
  | some t => return (t.kind == .word && !isReserved t.text) || t.kind == .quoted
  | none => return false

/-- Take the keyword if it is next. -/
def acceptWord (kw : String) : Parser Bool := do
  if ← atWord kw then advance; return true else return false

/-- Take the operator if it is next. -/
def acceptOp (o : String) : Parser Bool := do
  if ← atOp o then advance; return true else return false

/-- Take the keyword, or refuse. -/
def expectWord (kw : String) : Parser Unit := do
  if ← atWord kw then advance else syntaxError

/-- Take the operator, or refuse. -/
def expectOp (o : String) : Parser Unit := do
  if ← atOp o then advance else syntaxError

/-- Whether the next token can be a name (a word that is not reserved, a quoted name or a
string). -/
def atName : Parser Bool := do
  match ← peek with
  | some t =>
    return (t.kind == .word && !isReserved t.text) || t.kind == .quoted || t.kind == .string
  | none => return false

/-- The name a token stands for. -/
def Token.nameValue (t : Token) : String :=
  if t.kind == .word then t.text else t.value

/-- Take a name (a word that is not reserved, a quoted name or a string). -/
def name : Parser String := do
  match ← peek with
  | some t =>
    if (t.kind == .word && !isReserved t.text) || t.kind == .quoted || t.kind == .string then
      advance
      return t.nameValue
    else syntaxError
  | none => syntaxError

/-- Take an identifier (a word that is not reserved, or a quoted name). -/
def ident : Parser String := do
  match ← peek with
  | some t =>
    if (t.kind == .word && !isReserved t.text) || t.kind == .quoted then
      advance
      return t.nameValue
    else syntaxError
  | none => syntaxError

/-- Where the next token starts (the end of the text when none is left). -/
def nextStart : Parser Nat := do
  match ← peek with
  | some t => return t.start
  | none => return (← get).source.length

/-- The SQL text between two places. -/
def sourceBetween (a b : Nat) : Parser String := do
  return String.ofList (((← get).source.toList.drop a).take (b - a))

/-- Run a parser and also give the text it read. -/
def withText {α : Type} (p : Parser α) : Parser (α × String) := do
  let a ← nextStart
  let x ← p
  let b := (← get).lastEnd
  return (x, ← sourceBetween a b)

/-- A comma-separated list of at least one item. -/
def commaList {α : Type} (item : Parser α) : Nat → Parser (List α)
  | 0 => syntaxError
  | fuel + 1 => do
    let x ← item
    if ← acceptOp "," then
      let rest ← commaList item fuel
      return x :: rest
    else return [x]

/-- Parenthesized names: `(a, b, …)`. -/
def nameList (fuel : Nat) : Parser (List String) := do
  expectOp "("
  let ns ← commaList name fuel
  expectOp ")"
  return ns

/-- A conflict resolution: `ROLLBACK`, `ABORT`, `FAIL`, `IGNORE` or `REPLACE`. -/
def conflictWord : Parser Conflict := do
  if ← acceptWord "ROLLBACK" then return .rollback
  else if ← acceptWord "ABORT" then return .abort
  else if ← acceptWord "FAIL" then return .fail
  else if ← acceptWord "IGNORE" then return .ignore
  else if ← acceptWord "REPLACE" then return .replace
  else syntaxError

/-- An optional `ON CONFLICT` clause of a constraint. -/
def onConflict : Parser (Option Conflict) := do
  if ← atWord "ON" then
    advance
    expectWord "CONFLICT"
    return some (← conflictWord)
  else return none

end Windowing.Sql
