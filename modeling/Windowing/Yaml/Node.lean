import Windowing.Yaml.Parser
import Windowing.Yaml.Resolve

set_option autoImplicit false

/-! # Composing YAML nodes

The events of the first document of a text are composed into a tree of nodes. A node
records its kind, its tag (the explicit one in short form, or the one its kind and text
resolve to), its text, its style and its place (line and column from one).

An anchor names the node it stands on from the moment the node starts, so an alias inside
the node may name the node itself. Every anchored node gets a number, and the finished
node is kept under that number in the document's table; an alias records the number of
the node it names, and a number of its own. An alias to an unknown anchor is an error.

Text with a control character is refused before anything is read. Only the first
document is composed; the text after it is scanned only as far as the parser looks ahead
to end the document. -/

namespace Windowing.Yaml

/-- The kinds of nodes. -/
inductive NodeKind where
  | document
  | sequence
  | mapping
  | scalar
  | alias
  deriving Inhabited, BEq, Repr

/-- A node of a YAML document. -/
structure Node where
  kind : NodeKind
  tag : String := ""
  value : String := ""
  style : ScalarStyle := .plain
  /-- Whether the tag was written in the text. -/
  tagged : Bool := false
  /-- Whether a collection is written in flow style. -/
  flow : Bool := false
  line : Nat := 0
  column : Nat := 0
  anchor : String := ""
  /-- For an alias: the number of the anchored node it names. -/
  target : Nat := 0
  /-- For an alias: its own number. -/
  serial : Nat := 0
  content : List Node := []
  deriving Inhabited

/-- A composed document: its root node (none for an empty text) and the anchored
nodes by number. -/
structure Document where
  root : Option Node
  anchored : Array Node := #[]
  deriving Inhabited

/-- Why a text could not be composed: a syntax error, or a failure of composing, noted
with how far (in octets) the scanner had read. -/
inductive LoadError where
  | malformed (e : SyntaxError)
  | failure (message : String) (reached : Nat)

/-- The message of a composing error. -/
def LoadError.message : LoadError → String
  | .malformed e => e.message
  | .failure m _ => "yaml: " ++ m

/-- How far (in octets) the scanner had read when the error was found. -/
def LoadError.reached : LoadError → Nat
  | .malformed e => e.reached
  | .failure _ n => n

/-- The composer's state: the parser, an event read ahead, anchor names with their
numbers, the anchored nodes by number, and the count of aliases. -/
structure Composer where
  parser : Parser
  pending : Option Event := none
  names : List (String × Nat) := []
  anchored : Array Node := #[]
  aliases : Nat := 0

/-- Composing: state, and failure. -/
abbrev ComposeM := StateT Composer (Except LoadError)

/-- Fail while composing. -/
def composeFail {α : Type} (m : String) : ComposeM α := do
  throw (.failure m (← get).parser.scanner.pos)

/-- Run a parser step on the composer's parser. -/
def liftParse {α : Type} (m : ParseM α) : ComposeM α := fun c =>
  match m c.parser with
  | .ok (a, p) => .ok (a, { c with parser := p })
  | .error e => .error (.malformed e)

/-- The next event, read ahead if it is not yet. -/
def peekEvent : ComposeM Event := do
  match (← get).pending with
  | some e => pure e
  | none =>
    let e ← liftParse nextEvent
    modify fun c => { c with pending := some e }
    pure e

/-- The name of an event kind, as complaints show it. -/
def EventKind.name : EventKind → String
  | .streamStart => "STREAM-START"
  | .streamEnd => "STREAM-END"
  | .documentStart => "DOCUMENT-START"
  | .documentEnd => "DOCUMENT-END"
  | .alias => "ALIAS"
  | .scalar => "SCALAR"
  | .sequenceStart => "SEQUENCE-START"
  | .sequenceEnd => "SEQUENCE-END"
  | .mappingStart => "MAPPING-START"
  | .mappingEnd => "MAPPING-END"

/-- Take the next event, which must be of kind `k`. -/
def expectEvent (k : EventKind) : ComposeM Unit := do
  let e ← peekEvent
  if e.kind == .streamEnd then
    composeFail "attempted to go past the end of stream; corrupted value?"
  if e.kind != k then
    composeFail ("expected " ++ k.name ++ " event but got " ++ e.kind.name)
  modify fun c => { c with pending := none }

/-- A node for an event: the explicit tag if there is one (other than `!`), else the
default tag of its kind, else (for a scalar) the tag its text resolves to. -/
def nodeOf (kind : NodeKind) (defaultTag : String) (e : Event) (value : String) : Node :=
  let (tag, tagged) :=
    if e.tag != "" && e.tag != "!" then (shortTag e.tag, true)
    else if defaultTag != "" then (defaultTag, false)
    else if kind == .scalar then (plainTag value, false)
    else ("", false)
  { kind, tag, tagged, value, line := e.start.line + 1, column := e.start.column + 1 }

/-- Give an anchor name to a new number; the number. -/
def openAnchor (name : String) : ComposeM (Option Nat) := do
  if name.isEmpty then return none
  let c ← get
  let id := c.anchored.size
  set { c with names := (name, id) :: c.names.filter (·.1 != name),
               anchored := c.anchored.push { kind := .scalar } }
  pure (some id)

/-- Keep the finished node under its anchor's number. -/
def closeAnchor (id : Option Nat) (n : Node) : ComposeM Unit :=
  match id with
  | none => pure ()
  | some i => modify fun c => { c with anchored := c.anchored.set! i n }

mutual

/-- Compose the node that starts with the next event. -/
def composeNode : Nat → ComposeM Node
  | 0 => composeFail "document is nested too deeply"
  | fuel + 1 => do
    let e ← peekEvent
    match e.kind with
    | .scalar =>
      let defaultTag :=
        if e.style != .plain then "!!str" else if e.value == "<<" then "!!merge" else ""
      let n := { nodeOf .scalar defaultTag e e.value with style := e.style, anchor := e.anchor }
      let id ← openAnchor e.anchor
      closeAnchor id n
      expectEvent .scalar
      pure n
    | .alias =>
      let n := nodeOf .alias "" { e with tag := "" } e.anchor
      let c ← get
      match c.names.lookup e.anchor with
      | none => composeFail ("unknown anchor '" ++ e.anchor ++ "' referenced")
      | some target =>
        set { c with aliases := c.aliases + 1 }
        expectEvent .alias
        pure { n with target, serial := c.aliases }
    | .sequenceStart =>
      let n := { nodeOf .sequence "!!seq" e "" with flow := e.flow, anchor := e.anchor }
      let id ← openAnchor e.anchor
      expectEvent .sequenceStart
      let items ← composeItems fuel .sequenceEnd []
      expectEvent .sequenceEnd
      let n := { n with content := items }
      closeAnchor id n
      pure n
    | .mappingStart =>
      let n := { nodeOf .mapping "!!map" e "" with flow := e.flow, anchor := e.anchor }
      let id ← openAnchor e.anchor
      expectEvent .mappingStart
      let items ← composeItems fuel .mappingEnd []
      expectEvent .mappingEnd
      let n := { n with content := items }
      closeAnchor id n
      pure n
    | .documentStart =>
      let n := nodeOf .document "" { e with tag := "" } ""
      expectEvent .documentStart
      let child ← composeNode fuel
      expectEvent .documentEnd
      pure { n with content := [child] }
    | k => composeFail ("attempted to parse unknown event: " ++ k.name)

/-- Compose nodes until an event of kind `stop`. -/
def composeItems : Nat → EventKind → List Node → ComposeM (List Node)
  | 0, _, _ => composeFail "document is nested too deeply"
  | fuel + 1, stop, acc => do
    if (← peekEvent).kind == stop then return acc.reverse
    let n ← composeNode fuel
    composeItems fuel stop (n :: acc)

end

/-- Whether a code point may stand in YAML text. -/
def allowedChar (c : Char) : Bool :=
  let n := c.toNat
  n == 9 || n == 10 || n == 13 || (0x20 ≤ n && n ≤ 0x7E) || n == 0x85 ||
    (0xA0 ≤ n && n ≤ 0xD7FF) || (0xE000 ≤ n && n ≤ 0xFFFD) || (0x10000 ≤ n && n ≤ 0x10FFFF)

/-- The octet offset of the first character that may not stand in YAML text. -/
def firstBadOffset (text : String) : Option Nat :=
  let rec go : List Char → Nat → Option Nat
    | [], _ => none
    | c :: rest, off => if allowedChar c then go rest (off + c.utf8Size) else some off
  go text.toList 0

/-- Where the piece of text that holds an offset starts. Text is checked a piece off a time
as scanning reaches it: each piece is the whole characters within 512 octets from where the
last one ended. -/
def pieceStart (text : String) (bad : Nat) : Nat :=
  let rec go : List Char → Nat → Nat → Nat → Nat
    | [], start, _, _ => start
    | c :: rest, start, off, fill =>
      let w := c.utf8Size
      if fill + w > 512 then
        -- a new piece starts off this character
        if off > bad then start else go rest off (off + w) w
      else if off > bad then start
      else go rest start (off + w) (fill + w)
  go text.toList 0 0 0

/-- Compose the first document of a text. A character that may not stand in YAML text is
refused when scanning reaches the piece of text that holds it (or at once, in the first
piece); a syntax error found before that point is reported instead. -/
def load (text : String) : Except LoadError Document := do
  let controlError : LoadError :=
    .malformed { byScanner := false, problem := "control characters are not allowed" }
  let bom := match text.toList with
    | '\uFEFF' :: _ => 3
    | _ => 0
  -- how far scanning may read before it reaches the piece with a bad character
  let limit : Option Nat := (firstBadOffset text).map fun bad => pieceStart text bad
  if limit == some 0 then throw controlError
  let beyond (reached : Nat) : Bool := match limit with
    | some l => reached + bom + 4 > l
    | none => false
  let body := match text.toList with
    | '\uFEFF' :: rest => String.ofList rest
    | _ => text
  let body := if body.isEmpty then "\n" else body
  let input := body.toUTF8
  let fuel := 8 * (input.size + 16)
  let run : ComposeM (Option Node) := do
    expectEvent .streamStart
    if (← peekEvent).kind == .streamEnd then return none
    some <$> composeNode fuel
  match run.run { parser := Parser.start input } with
  | .error e => throw (if beyond e.reached then controlError else e)
  | .ok (root, c) =>
    if beyond c.parser.scanner.pos then throw controlError
    pure { root, anchored := c.anchored }

end Windowing.Yaml
