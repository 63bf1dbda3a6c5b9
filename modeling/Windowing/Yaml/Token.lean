set_option autoImplicit false

/-! # Tokens of YAML text

The scanner cuts YAML text into tokens: stream and document boundaries, the starts and
ends of block and flow collections, the indicators `-`, `?`, `:` and `,`, anchors, aliases,
tags and scalars. Every token carries the marks where it starts and stops; a mark counts
characters, lines and columns from zero.

A syntax error names the problem and, when it has one, the mark of the construct being
read. Its message says `line N: ` before the problem when a line can be named: the
context's line if it is not the first, else the problem's; a scanner's lines count from
one, a parser's from zero, and the first line (zero) is never named. -/

namespace Windowing.Yaml

/-- A position in the text: characters before it, its line and its column, from zero. -/
structure Mark where
  index : Nat := 0
  line : Nat := 0
  column : Nat := 0
  deriving Inhabited, BEq, Repr

/-- How a scalar was written. -/
inductive ScalarStyle where
  | plain
  | singleQuoted
  | doubleQuoted
  | literal
  | folded
  deriving Inhabited, BEq, Repr

/-- The kinds of tokens. -/
inductive TokenKind where
  | streamStart
  | streamEnd
  | versionDirective
  | tagDirective
  | documentStart
  | documentEnd
  | blockSequenceStart
  | blockMappingStart
  | blockEnd
  | flowSequenceStart
  | flowSequenceEnd
  | flowMappingStart
  | flowMappingEnd
  | blockEntry
  | flowEntry
  | key
  | value
  | alias
  | anchor
  | tag
  | scalar
  deriving Inhabited, BEq, Repr

/-- A token with its marks. `text` is the anchor or alias name, the scalar's value, the
tag's handle or a directive's handle or version; `suffix` is a tag's suffix or a
directive's prefix. -/
structure Token where
  kind : TokenKind
  start : Mark
  stop : Mark
  text : String := ""
  suffix : String := ""
  style : ScalarStyle := .plain
  deriving Inhabited

/-- Text that is not YAML, as the scanner or parser found it. -/
structure SyntaxError where
  /-- Whether the scanner (rather than the parser) found it. -/
  byScanner : Bool
  context : Mark := {}
  problemMark : Mark := {}
  problem : String
  /-- How far into the text (in octets) the scanner had read when it was found. -/
  reached : Nat := 0
  deriving Inhabited

/-- The message of a syntax error. -/
def SyntaxError.message (e : SyntaxError) : String :=
  let shift := if e.byScanner then 1 else 0
  let line :=
    if e.context.line != 0 then e.context.line + shift
    else if e.problemMark.line != 0 then e.problemMark.line + shift
    else 0
  let whereText := if line != 0 then "line " ++ toString line ++ ": " else ""
  "yaml: " ++ whereText ++ e.problem

end Windowing.Yaml
