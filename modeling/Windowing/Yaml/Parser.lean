import Windowing.Yaml.Scanner

set_option autoImplicit false

/-! # Parsing YAML tokens into events

The parser is a state machine over the scanner's tokens. Each call produces one event:
the start or end of the stream, of a document, of a sequence or of a mapping, a scalar,
or an alias. A stack of states remembers where to return after a node, and a stack of
marks where each open collection started, for error messages.

A node is an optional anchor and tag (in either order) followed by its content; a node
with an anchor or tag but no content is an empty plain scalar. Tags written with a
handle expand through the document's `%TAG` directives and the two default handles `!`
and `!!`. A missing key or value in a block or flow mapping is an empty scalar. In a
block mapping, a sequence may start at the mapping's own indentation (an *indentless*
sequence). -/

namespace Windowing.Yaml

/-- The kinds of events. -/
inductive EventKind where
  | streamStart
  | streamEnd
  | documentStart
  | documentEnd
  | alias
  | scalar
  | sequenceStart
  | sequenceEnd
  | mappingStart
  | mappingEnd
  deriving Inhabited, BEq, Repr

/-- An event: its kind and start mark; the anchor (or the alias's name), the tag, a
scalar's value and style, and whether a collection is written in flow style. -/
structure Event where
  kind : EventKind
  start : Mark
  anchor : String := ""
  tag : String := ""
  value : String := ""
  style : ScalarStyle := .plain
  flow : Bool := false
  deriving Inhabited

/-- The states of the parser. -/
inductive ParseState where
  | streamStart
  | implicitDocumentStart
  | documentStart
  | documentContent
  | documentEnd
  | blockNode
  | blockNodeOrIndentlessSequence
  | flowNode
  | blockSequenceFirstEntry
  | blockSequenceEntry
  | indentlessSequenceEntry
  | blockMappingFirstKey
  | blockMappingKey
  | blockMappingValue
  | flowSequenceFirstEntry
  | flowSequenceEntry
  | flowSequenceEntryMappingKey
  | flowSequenceEntryMappingValue
  | flowSequenceEntryMappingEnd
  | flowMappingFirstKey
  | flowMappingKey
  | flowMappingValue
  | flowMappingEmptyValue
  | finished
  deriving Inhabited, BEq

/-- The parser's state: the scanner, the current state, the states to return to, the
marks of open collections, and the tag handles of the current document. -/
structure Parser where
  scanner : Scanner
  state : ParseState := .streamStart
  states : List ParseState := []
  marks : List Mark := []
  handles : List (String × String) := []

/-- Parsing: state, and failure with a syntax error. -/
abbrev ParseM := StateT Parser (Except SyntaxError)

/-- A parser at the start of a text. -/
def Parser.start (input : ByteArray) : Parser := { scanner := { input } }

/-- Run a scanner step on the parser's scanner. -/
def liftScan {α : Type} (m : ScanM α) : ParseM α := fun p => do
  let (a, s) ← m p.scanner
  pure (a, { p with scanner := s })

/-- The next token. -/
def peek : ParseM Token := liftScan peekToken

/-- Take the next token. -/
def advance : ParseM Unit := liftScan skipToken

/-- Fail with a parser error. -/
def parseError {α : Type} (problem : String) (problemMark : Mark) (context : Mark := {}) :
    ParseM α := do
  throw { byScanner := false, context, problemMark, problem, reached := (← get).scanner.pos }

/-- Continue with the state on top of the stack. -/
def popState : ParseM Unit := modify fun p =>
  match p.states with
  | s :: rest => { p with state := s, states := rest }
  | [] => { p with state := .finished }

/-- Remember a state to return to. -/
def pushState (s : ParseState) : ParseM Unit := modify fun p => { p with states := s :: p.states }

/-- Remember where a collection started. -/
def pushMark (m : Mark) : ParseM Unit := modify fun p => { p with marks := m :: p.marks }

/-- Forget where the innermost collection started, giving its mark. -/
def popMark : ParseM Mark := do
  let p ← get
  match p.marks with
  | m :: rest => set { p with marks := rest }; pure m
  | [] => pure {}

/-- Move to a state. -/
def goTo (s : ParseState) : ParseM Unit := modify fun p => { p with state := s }

/-- An empty plain scalar at a mark. -/
def emptyScalar (m : Mark) : Event := { kind := .scalar, start := m }

/-- The default tag handles. -/
def defaultHandles : List (String × String) := [("!", "!"), ("!!", "tag:yaml.org,2002:")]

/-- Read the directives before a document, and add the default handles. -/
def processDirectives : ParseM Unit := do
  let rec go : Nat → Bool → ParseM Token
    | 0, _ => peek
    | n + 1, seenVersion => do
      let t ← peek
      match t.kind with
      | .versionDirective =>
        if seenVersion then parseError "found duplicate %YAML directive" t.start
        if t.text != "1.1" then parseError "found incompatible YAML document" t.start
        advance
        go n true
      | .tagDirective =>
        if (← get).handles.any (·.1 == t.text) then
          parseError "found duplicate %TAG directive" t.start
        modify fun p => { p with handles := p.handles ++ [(t.text, t.suffix)] }
        advance
        go n seenVersion
      | _ => pure t
  let _ ← go (← get).scanner.budget false
  modify fun p =>
    { p with handles := p.handles ++ defaultHandles.filter fun d => !p.handles.any (·.1 == d.1) }

/-- The start of the stream. -/
def parseStreamStart : ParseM Event := do
  let t ← peek
  if t.kind != .streamStart then parseError "did not find expected <stream-start>" t.start
  goTo .implicitDocumentStart
  advance
  pure { kind := .streamStart, start := t.start }

/-- The start of a document (or the end of the stream). -/
def parseDocumentStart (implicit : Bool) : ParseM Event := do
  let mut t ← peek
  if !implicit then
    let rec skipEnds : Nat → ParseM Token
      | 0 => peek
      | n + 1 => do
        let t ← peek
        if t.kind == .documentEnd then
          advance
          skipEnds n
        else pure t
    t ← skipEnds (← get).scanner.budget
  if implicit && t.kind != .versionDirective && t.kind != .tagDirective &&
      t.kind != .documentStart && t.kind != .streamEnd then
    processDirectives
    pushState .documentEnd
    goTo .blockNode
    pure { kind := .documentStart, start := t.start }
  else if t.kind != .streamEnd then
    let start := t.start
    processDirectives
    let t2 ← peek
    if t2.kind != .documentStart then parseError "did not find expected <document start>" t2.start
    pushState .documentEnd
    goTo .documentContent
    advance
    pure { kind := .documentStart, start }
  else
    goTo .finished
    advance
    pure { kind := .streamEnd, start := t.start }

/-- The end of a document, with or without `...`. -/
def parseDocumentEnd : ParseM Event := do
  let t ← peek
  if t.kind == .documentEnd then advance
  modify fun p => { p with handles := [], state := .documentStart }
  pure { kind := .documentEnd, start := t.start }

/-- Expand a tag's handle through the tag handles. -/
def expandTag (handle suffix : String) (start tagMark : Mark) : ParseM String := do
  if handle.isEmpty then return suffix
  match (← get).handles.find? (·.1 == handle) with
  | some (_, pre) => pure (pre ++ suffix)
  | none => parseError "found undefined tag handle" tagMark start

/-- A node: an alias, or an optional anchor and tag and the node's content. -/
def parseNode (block indentless : Bool) : ParseM Event := do
  let t ← peek
  if t.kind == .alias then
    popState
    advance
    return { kind := .alias, start := t.start, anchor := t.text }
  let start := t.start
  let (anchor, tagged, handle, suffix, tagMark, t) ← do
    if t.kind == .anchor then
      advance
      let t2 ← peek
      if t2.kind == .tag then
        advance
        pure (t.text, true, t2.text, t2.suffix, t2.start, ← peek)
      else pure (t.text, false, "", "", start, t2)
    else if t.kind == .tag then
      advance
      let t2 ← peek
      if t2.kind == .anchor then
        advance
        pure (t2.text, true, t.text, t.suffix, t.start, ← peek)
      else pure ("", true, t.text, t.suffix, t.start, t2)
    else pure ("", false, "", "", start, t)
  let tag ← if tagged then expandTag handle suffix start tagMark else pure ""
  if indentless && t.kind == .blockEntry then
    goTo .indentlessSequenceEntry
    return { kind := .sequenceStart, start, anchor, tag }
  match t.kind with
  | .scalar =>
    popState
    advance
    pure { kind := .scalar, start, anchor, tag, value := t.text, style := t.style }
  | .flowSequenceStart =>
    goTo .flowSequenceFirstEntry
    pure { kind := .sequenceStart, start, anchor, tag, flow := true }
  | .flowMappingStart =>
    goTo .flowMappingFirstKey
    pure { kind := .mappingStart, start, anchor, tag, flow := true }
  | .blockSequenceStart =>
    if block then
      goTo .blockSequenceFirstEntry
      return { kind := .sequenceStart, start, anchor, tag }
    else parseError "did not find expected node content" t.start start
  | .blockMappingStart =>
    if block then
      goTo .blockMappingFirstKey
      return { kind := .mappingStart, start, anchor, tag }
    else parseError "did not find expected node content" t.start start
  | _ =>
    if !anchor.isEmpty || !tag.isEmpty then
      popState
      pure { kind := .scalar, start, anchor, tag }
    else parseError "did not find expected node content" t.start start

/-- The content of an explicit document, which may be empty. -/
def parseDocumentContent : ParseM Event := do
  let t ← peek
  match t.kind with
  | .versionDirective | .tagDirective | .documentStart | .documentEnd | .streamEnd =>
    popState
    pure (emptyScalar t.start)
  | _ => parseNode true false

/-- An entry of a block sequence, or its end. -/
def parseBlockSequenceEntry (first : Bool) : ParseM Event := do
  if first then
    pushMark (← peek).start
    advance
  let t ← peek
  if t.kind == .blockEntry then
    advance
    let t2 ← peek
    if t2.kind != .blockEntry && t2.kind != .blockEnd then
      pushState .blockSequenceEntry
      parseNode true false
    else
      goTo .blockSequenceEntry
      pure (emptyScalar t.stop)
  else if t.kind == .blockEnd then
    popState
    let _ ← popMark
    advance
    pure { kind := .sequenceEnd, start := t.start }
  else
    let m ← popMark
    parseError "did not find expected '-' indicator" t.start m

/-- An entry of an indentless sequence, or its end. -/
def parseIndentlessSequenceEntry : ParseM Event := do
  let t ← peek
  if t.kind == .blockEntry then
    advance
    let t2 ← peek
    if t2.kind != .blockEntry && t2.kind != .key && t2.kind != .value && t2.kind != .blockEnd then
      pushState .indentlessSequenceEntry
      parseNode true false
    else
      goTo .indentlessSequenceEntry
      pure (emptyScalar t.stop)
  else
    popState
    pure { kind := .sequenceEnd, start := t.start }

/-- A key of a block mapping, or its end. -/
def parseBlockMappingKey (first : Bool) : ParseM Event := do
  if first then
    pushMark (← peek).start
    advance
  let t ← peek
  if t.kind == .key then
    advance
    let t2 ← peek
    if t2.kind != .key && t2.kind != .value && t2.kind != .blockEnd then
      pushState .blockMappingValue
      parseNode true true
    else
      goTo .blockMappingValue
      pure (emptyScalar t.stop)
  else if t.kind == .blockEnd then
    popState
    let _ ← popMark
    advance
    pure { kind := .mappingEnd, start := t.start }
  else
    let m ← popMark
    parseError "did not find expected key" t.start m

/-- A value of a block mapping, which may be empty. -/
def parseBlockMappingValue : ParseM Event := do
  let t ← peek
  if t.kind == .value then
    advance
    let t2 ← peek
    if t2.kind != .key && t2.kind != .value && t2.kind != .blockEnd then
      pushState .blockMappingKey
      parseNode true true
    else
      goTo .blockMappingKey
      pure (emptyScalar t.stop)
  else
    goTo .blockMappingKey
    pure (emptyScalar t.start)

/-- An entry of a flow sequence, or its end. A `?` entry is a one-pair mapping. -/
def parseFlowSequenceEntry (first : Bool) : ParseM Event := do
  if first then
    pushMark (← peek).start
    advance
  let mut t ← peek
  if t.kind != .flowSequenceEnd then
    if !first then
      if t.kind == .flowEntry then
        advance
        t ← peek
      else
        let m ← popMark
        parseError "did not find expected ',' or ']'" t.start m
    if t.kind == .key then
      goTo .flowSequenceEntryMappingKey
      advance
      return { kind := .mappingStart, start := t.start, flow := true }
    else if t.kind != .flowSequenceEnd then
      pushState .flowSequenceEntry
      return ← parseNode false false
  popState
  let _ ← popMark
  advance
  pure { kind := .sequenceEnd, start := t.start }

/-- The key of a one-pair mapping in a flow sequence. -/
def parseFlowSequenceEntryMappingKey : ParseM Event := do
  let t ← peek
  if t.kind != .value && t.kind != .flowEntry && t.kind != .flowSequenceEnd then
    pushState .flowSequenceEntryMappingValue
    parseNode false false
  else
    advance
    goTo .flowSequenceEntryMappingValue
    pure (emptyScalar t.stop)

/-- The value of a one-pair mapping in a flow sequence. -/
def parseFlowSequenceEntryMappingValue : ParseM Event := do
  let t ← peek
  if t.kind == .value then
    advance
    let t2 ← peek
    if t2.kind != .flowEntry && t2.kind != .flowSequenceEnd then
      pushState .flowSequenceEntryMappingEnd
      return ← parseNode false false
    goTo .flowSequenceEntryMappingEnd
    return emptyScalar t2.start
  goTo .flowSequenceEntryMappingEnd
  pure (emptyScalar t.start)

/-- The end of a one-pair mapping in a flow sequence. -/
def parseFlowSequenceEntryMappingEnd : ParseM Event := do
  let t ← peek
  goTo .flowSequenceEntry
  pure { kind := .mappingEnd, start := t.start }

/-- A key of a flow mapping, or its end. -/
def parseFlowMappingKey (first : Bool) : ParseM Event := do
  if first then
    pushMark (← peek).start
    advance
  let mut t ← peek
  if t.kind != .flowMappingEnd then
    if !first then
      if t.kind == .flowEntry then
        advance
        t ← peek
      else
        let m ← popMark
        parseError "did not find expected ',' or '\x7d'" t.start m
    if t.kind == .key then
      advance
      let t2 ← peek
      if t2.kind != .value && t2.kind != .flowEntry && t2.kind != .flowMappingEnd then
        pushState .flowMappingValue
        return ← parseNode false false
      goTo .flowMappingValue
      return emptyScalar t2.start
    else if t.kind != .flowMappingEnd then
      pushState .flowMappingEmptyValue
      return ← parseNode false false
  popState
  let _ ← popMark
  advance
  pure { kind := .mappingEnd, start := t.start }

/-- A value of a flow mapping, which may be empty. -/
def parseFlowMappingValue (empty : Bool) : ParseM Event := do
  let t ← peek
  if empty then
    goTo .flowMappingKey
    return emptyScalar t.start
  if t.kind == .value then
    advance
    let t2 ← peek
    if t2.kind != .flowEntry && t2.kind != .flowMappingEnd then
      pushState .flowMappingKey
      return ← parseNode false false
    goTo .flowMappingKey
    return emptyScalar t2.start
  goTo .flowMappingKey
  pure (emptyScalar t.start)

/-- The next event. -/
def nextEvent : ParseM Event := do
  match (← get).state with
  | .streamStart => parseStreamStart
  | .implicitDocumentStart => parseDocumentStart true
  | .documentStart => parseDocumentStart false
  | .documentContent => parseDocumentContent
  | .documentEnd => parseDocumentEnd
  | .blockNode => parseNode true false
  | .blockNodeOrIndentlessSequence => parseNode true true
  | .flowNode => parseNode false false
  | .blockSequenceFirstEntry => parseBlockSequenceEntry true
  | .blockSequenceEntry => parseBlockSequenceEntry false
  | .indentlessSequenceEntry => parseIndentlessSequenceEntry
  | .blockMappingFirstKey => parseBlockMappingKey true
  | .blockMappingKey => parseBlockMappingKey false
  | .blockMappingValue => parseBlockMappingValue
  | .flowSequenceFirstEntry => parseFlowSequenceEntry true
  | .flowSequenceEntry => parseFlowSequenceEntry false
  | .flowSequenceEntryMappingKey => parseFlowSequenceEntryMappingKey
  | .flowSequenceEntryMappingValue => parseFlowSequenceEntryMappingValue
  | .flowSequenceEntryMappingEnd => parseFlowSequenceEntryMappingEnd
  | .flowMappingFirstKey => parseFlowMappingKey true
  | .flowMappingKey => parseFlowMappingKey false
  | .flowMappingValue => parseFlowMappingValue false
  | .flowMappingEmptyValue => parseFlowMappingValue true
  | .finished => pure { kind := .streamEnd, start := (← get).scanner.mark }

end Windowing.Yaml
