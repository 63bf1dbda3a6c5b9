import Windowing.Template.Syntax
import Windowing.Template.Lexer
import Windowing.Text.Numeral
import Windowing.Text.Blank
import Windowing.Template.Format

set_option autoImplicit false

/-! # Parsing text templates

A recursive-descent parser over the lexer's items. It keeps the variables in scope (an
undefined variable is an error), the depth of `range` (so that `break` and `continue`
outside a loop are errors), and the named bodies that `define` and `block` introduce.

An error reads `template: NAME:LINE: MESSAGE`, where the line is that of the furthest item
read. Each step of the parser reads at least one item; the fuel given is the number of
items plus one. -/

namespace Windowing.Template

/-- The functions a template may call. -/
def builtinNames : List String :=
  ["and", "call", "html", "index", "slice", "js", "len", "not", "or", "print", "printf",
   "println", "urlquery", "eq", "ge", "gt", "le", "lt", "ne"]

/-- The parser's state. -/
structure ParseState where
  items : Array Item
  idx : Nat := 0
  furthest : Nat := 0
  vars : List String := ["$"]
  rangeDepth : Nat := 0
  actionLine : Nat := 0
  parseName : String
  bodies : List (String × List Node) := []

/-- Parsing: state, and failure with a message. -/
abbrev ParseM := StateT ParseState (Except String)

/-- What the body parser meets: a node, or the `{{end}}` or `{{else}}` that ends a list. -/
inductive Piece where
  | node (n : Node)
  | endMark (pos : Nat)
  | elseMark (pos : Nat)

/-- The text of an end or else mark in messages. -/
def Piece.describe : Piece → String
  | .node _ => "node"
  | .endMark _ => "\x7b\x7bend\x7d\x7d"
  | .elseMark _ => "\x7b\x7belse\x7d\x7d"

/-- An item as a message operand: its text, made of its kind's number, offset, text and
line. -/
def Item.operand (i : Item) : Operand :=
  .described i.describe "parse.item"
    (.record "parse.item" [("typ", .int i.kind.code), ("pos", .int i.pos), ("val", .str i.val),
      ("line", .int i.line)]) false

/-- An end or else mark as a message operand. -/
def Piece.operand (p : Piece) : Operand :=
  let (type, code, pos) : String × Nat × Nat := match p with
    | .node _ => ("*parse.ListNode", 11, 0)
    | .endMark q => ("*parse.endNode", 7, q)
    | .elseMark q => ("*parse.elseNode", 6, q)
  .described p.describe type
    (.record (type.drop 1).toString [("NodeType", .int code), ("Pos", .int pos)]) false

namespace Parse

/-- Fail with a message located at the line of the furthest item read. The message is a
format and its operands; the location before it is part of the format, so that a `%` in
the template's name is read as a verb too. -/
def fail {α : Type} (format : String) (args : List Operand) : ParseM α := do
  let s ← get
  let line := match s.items[s.furthest]? with
    | some i => i.line
    | none => 1
  throw (errorf ("template: " ++ s.parseName ++ ":" ++ toString line ++ ": " ++ format) args)

/-- The item at the cursor, without moving. -/
def peek : ParseM Item := do
  let s ← get
  let i := s.idx
  set { s with furthest := max s.furthest i }
  match s.items[i]? with
  | some it => pure it
  | none => pure (s.items.back?.getD ⟨.eof, 0, "", 1⟩)

/-- The item at the cursor, moving past it. -/
def next : ParseM Item := do
  let it ← peek
  modify fun s => { s with idx := s.idx + 1 }
  pure it

/-- Step back one item. -/
def backup : ParseM Unit :=
  modify fun s => { s with idx := s.idx - 1 }

/-- The next item that is not a blank, moving past it. -/
def nextNonSpace : ParseM Item := do
  let s ← get
  let rec skip : Nat → Nat → Nat
    | 0, i => i
    | fuel + 1, i => match s.items[i]? with
      | some it => if it.kind == .space then skip fuel (i + 1) else i
      | none => i
  let j := skip s.items.size s.idx
  set { s with idx := j }
  next

/-- The next item that is not a blank, without moving past it. -/
def peekNonSpace : ParseM Item := do
  let it ← nextNonSpace
  backup
  pure it

/-- The error for an item that does not belong here. -/
def unexpected {α : Type} (it : Item) (context : String) : ParseM α := do
  if it.kind == .error then
    let s ← get
    let extra :=
      if s.actionLine != 0 && s.actionLine != it.line then
        let full := " in action started at " ++ s.parseName ++ ":" ++ toString s.actionLine
        if it.val.endsWith " action" then (full.drop " in action".length).toString else full
      else ""
    fail "%s%s" [it.operand, .text extra]
  else fail "unexpected %s in %s" [it.operand, .text context]

/-- Expect an item of a kind, after blanks. -/
def expect (k : ItemKind) (context : String) : ParseM Item := do
  let it ← nextNonSpace
  if it.kind != k then unexpected it context else pure it

/-- A float numeral at the head of text as a complex constant is scanned: a sign, digits
(hexadecimal after `0x`) with underscores, a fraction and an exponent; and the rest. -/
def floatToken (cs : List Char) : List Char × List Char :=
  let (sign, r) := match cs with
    | c :: r => if c == '+' || c == '-' then ([c], r) else ([], cs)
    | [] => ([], [])
  let (pre, r, hex) := match r with
    | '0' :: x :: r' => if x == 'x' || x == 'X' then (['0', x], r', true) else ([], r, false)
    | _ => ([], r, false)
  let isDigit (c : Char) : Bool :=
    c.isDigit || c == '_' || (hex && (('a' ≤ c && c ≤ 'f') || ('A' ≤ c && c ≤ 'F')))
  let whole := r.takeWhile isDigit
  let r := r.drop whole.length
  let (frac, r) := match r with
    | '.' :: r' => ('.' :: r'.takeWhile isDigit, r'.drop (r'.takeWhile isDigit).length)
    | _ => ([], r)
  let isMark (c : Char) : Bool := if hex then c == 'p' || c == 'P' else c == 'e' || c == 'E'
  let (ex, r) := match r with
    | m :: r' =>
      if isMark m then
        let (es, r'') := match r' with
          | s :: r'' => if s == '+' || s == '-' then ([s], r'') else ([], r')
          | [] => ([], [])
        let ds := r''.takeWhile (fun c => c.isDigit || c == '_')
        (m :: es ++ ds, r''.drop ds.length)
      else ([], r)
    | [] => ([], r)
  (sign ++ pre ++ whole ++ frac ++ ex, r)

/-- A float numeral read as a double, or why it cannot be. -/
def floatValue (cs : List Char) : Except String Float :=
  let text := String.ofList cs
  match Text.readFloatNumeral text with
  | some f =>
    if f.isInf then .error ("strconv.ParseFloat: parsing " ++ Text.quote text ++ ": value out of range")
    else .ok f
  | none => .error ("strconv.ParseFloat: parsing " ++ Text.quote text ++ ": invalid syntax")

/-- The real and imaginary parts of a complex constant `a+bi`. -/
def complexParts (text : String) : Except String (Float × Float) := do
  let (re, r) := floatToken text.toList
  match r with
  | s :: r' =>
    if s == '+' || s == '-' then
      let (im, r'') := floatToken r'
      if r''.head? != some 'i' then throw "syntax error scanning complex number"
      pure (← floatValue re, ← floatValue (s :: im))
    else throw "syntax error scanning complex number"
  | [] => throw "syntax error scanning complex number"

/-- A complex constant with the other readings it admits: when the imaginary part is zero,
the real part as a float, and as an integer when it is whole. -/
def complexNumber (text : String) (re im : Float) : Number :=
  let real := im == 0
  { text, asComplex := some (re, im),
    asFloat := if real then some re else none,
    asInt := if real && re.floor == re && re.abs < 9223372036854775808.0 then some re.toInt64.toInt else none,
    asUint := if real && re.floor == re && re ≥ 0 && re < 18446744073709551616.0 then some re.toUInt64.toNat
      else none }

/-- The readings of a number constant, or the message why it has none. -/
def number (text : String) (kind : ItemKind) : Except String Number :=
  if kind == .charConstant then
    match Text.unquoteCode '\'' (text.toList.drop 1) with
    | some ((n, _), rest) =>
      if rest == ['\''] then
        .ok { text, asInt := some n, asUint := some n, asFloat := some (Float.ofNat n), isChar := true }
      else .error ("malformed character constant: " ++ text)
    | none => .error "invalid syntax"
  else if kind == .complex then (complexParts text).map fun (re, im) => complexNumber text re im
  else
    let imaginary : Option Float :=
      if text.endsWith "i" then
        (Text.readFloatNumeral (text.dropEnd 1).toString).filter (!·.isInf)
      else none
    match imaginary with
    | some im => .ok (complexNumber text 0 im)
    | none =>
    let u := Text.parseUint64 text
    let i := Text.parseInt64 text
    let u := if i == some 0 then some 0 else u
    match i, u with
    | some n, _ => .ok { text, asInt := some n, asUint := u, asFloat := some (Float.ofInt n) }
    | none, some n => .ok { text, asUint := some n, asFloat := some (Float.ofNat n) }
    | none, none =>
      match (Text.readFloatNumeral text).filter (!·.isInf) with
      | some f =>
        if !(text.toList.any (fun c => c == '.' || c == 'e' || c == 'E' || c == 'p' || c == 'P'))
        then .error ("integer overflow: " ++ Text.quote text)
        else
          let asInt : Option Int :=
            if f.floor == f && f.abs < 9223372036854775808.0 then some f.toInt64.toInt else none
          let asUint : Option Nat :=
            if f.floor == f && f ≥ 0 && f < 18446744073709551616.0 then some f.toUInt64.toNat
            else none
          .ok { text, asInt, asUint, asFloat := some f }
      | none => .error ("illegal number syntax: " ++ Text.quote text)

/-- Whether a body writes nothing but blank text: such a body may be given again. -/
def isBlankBody (body : List Node) : Bool :=
  body.all fun n => match n with
    | .text _ s => (Text.trimBlank s).isEmpty
    | _ => false

/-- Record a named body. A blank body gives way to a later one, and a later blank body
is dropped; a second body of one name that is not blank is an error. -/
def addBody (name : String) (body : List Node) : ParseM Unit := do
  let s ← get
  match s.bodies.find? (fun (p : String × List Node) => p.1 == name) with
  | some (_, old) =>
    if isBlankBody old then
      set { s with bodies := (s.bodies.filter (fun (p : String × List Node) => p.1 != name)) ++ [(name, body)] }
    else if isBlankBody body then pure ()
    else fail "template: multiple definition of template %q" [.text name]
  | none => set { s with bodies := s.bodies ++ [(name, body)] }

/-- The name of a `template` or `block` clause. -/
def templateName (it : Item) (context : String) : ParseM String := do
  if it.kind == .string || it.kind == .rawString then
    match Text.unquote it.val with
    | some s => pure s
    | none => fail "%s" [.error "invalid syntax"]
  else unexpected it context

/-- Whether an operand kind may start a command. -/
def startsCommand (k : ItemKind) : Bool :=
  match k with
  | .bool | .charConstant | .complex | .kwDot | .field | .identifier | .number | .kwNil
  | .rawString | .string | .variable | .leftParen => true
  | _ => false

/-- Reject an empty pipeline, and constants after its first command. -/
def checkPipeline (cmds : List Command) (context : String) : ParseM Unit := do
  if cmds.isEmpty then fail "missing value for %s" [.text context]
  let rest := cmds.drop 1
  let bad := (rest.zip (List.range rest.length)).find? fun (c, _) =>
    match c.args with
    | a :: _ => a.isConstant
    | [] => false
  match bad with
  | some (_, i) => fail "non executable command in pipeline stage %d" [.int (i + 2)]
  | none => pure ()

/-- Field names that follow a term, as a chain. -/
def chainFields : Nat → List String → ParseM (List String)
  | 0, acc => pure acc.reverse
  | f + 1, acc => do
    let it ← peek
    if it.kind == .field then
      let _ ← next
      chainFields f ((it.val.drop 1).toString :: acc)
    else pure acc.reverse

/-- The declared (or assigned) variables at the start of a pipeline, and whether they
are assigned. -/
def declarations (context : String) : Nat → List (Nat × String) → Bool →
    ParseM (List (Nat × String) × Bool)
  | 0, acc, asg => pure (acc.reverse, asg)
  | f + 1, acc, asg => do
    let v ← peekNonSpace
    if v.kind != .variable then pure (acc.reverse, asg) else
    let _ ← nextNonSpace
    let afterIdx := (← get).idx
    let nx ← peekNonSpace
    if nx.kind == .assign || nx.kind == .declare then
      let _ ← nextNonSpace
      modify fun s => { s with vars := s.vars ++ [v.val] }
      pure (((v.pos, v.val) :: acc).reverse, nx.kind == .assign)
    else if nx.kind == .char && nx.val == "," then
      let _ ← nextNonSpace
      modify fun s => { s with vars := s.vars ++ [v.val] }
      let acc := (v.pos, v.val) :: acc
      if context == "range" && acc.length < 2 then
        let p ← peekNonSpace
        if p.kind == .variable || p.kind == .rightDelim || p.kind == .rightParen then
          declarations context f acc asg
        else fail "range can only initialize variables" []
      else fail "too many declarations in %s" [.text context]
    else do
      modify fun s => { s with idx := afterIdx - 1 }
      pure (acc.reverse, asg)

mutual
/-- A term: a literal, function name, dot, field, variable or parenthesized pipeline;
`none` when the next item starts none of these. -/
def term : Nat → ParseM (Option Arg)
  | 0 => fail "unexpected EOF" []
  | fuel + 1 => do
    let it ← nextNonSpace
    match it.kind with
    | .identifier =>
      if builtinNames.contains it.val then pure (some (.ident it.pos it.val))
      else fail "function %q not defined" [.text it.val]
    | .kwDot => pure (some (.dot it.pos))
    | .kwNil => pure (some (.nil it.pos))
    | .variable =>
      let s ← get
      if s.vars.contains it.val then pure (some (.var it.pos it.val []))
      else fail "undefined variable %q" [.text it.val]
    | .field => pure (some (.field it.pos ((it.val.drop 1).toString.splitOn ".")))
    | .bool => pure (some (.bool it.pos (it.val == "true")))
    | .charConstant | .complex | .number =>
      match number it.val it.kind with
      | .ok n => pure (some (.number it.pos n))
      | .error m => fail "%s" [.error m]
    | .leftParen => do
      let p ← pipeline fuel "parenthesized pipeline" .rightParen
      pure (some (.pipe p))
    | .string | .rawString =>
      match Text.unquote it.val with
      | some s => pure (some (.string it.pos it.val s))
      | none => fail "%s" [.error "invalid syntax"]
    | _ => do backup; pure none

/-- An operand: a term, then field names that make a chain. -/
def operand : Nat → ParseM (Option Arg)
  | 0 => fail "unexpected EOF" []
  | fuel + 1 => do
    match ← term fuel with
    | none => pure none
    | some node =>
      let first ← peek
      if first.kind != .field then pure (some node) else
      let fs ← chainFields (← get).items.size []
      match node with
      | .field _ idents => pure (some (.field first.pos (idents ++ fs)))
      | .var _ name more => pure (some (.var first.pos name (more ++ fs)))
      | .bool _ _ | .string _ _ _ | .number _ _ | .nil _ | .dot _ =>
        fail "unexpected . after term %q" [.text node.render]
      | _ => pure (some (.chain first.pos node fs))

/-- The operands of a command, up to a bar, a right delimiter or a right parenthesis. -/
def commandArgs : Nat → List Arg → ParseM (List Arg)
  | 0, _ => fail "unexpected EOF" []
  | fuel + 1, acc => do
    let _ ← peekNonSpace
    let acc := match ← operand fuel with
      | some a => a :: acc
      | none => acc
    let it ← next
    match it.kind with
    | .space => commandArgs fuel acc
    | .rightDelim | .rightParen => do backup; pure acc.reverse
    | .pipe => pure acc.reverse
    | _ => unexpected it "operand"

/-- A command: operands separated by blanks. -/
def command : Nat → ParseM Command
  | 0 => fail "unexpected EOF" []
  | fuel + 1 => do
    let start ← peekNonSpace
    let args ← commandArgs fuel []
    if args.isEmpty then fail "empty command" []
    pure (.mk start.pos args)

/-- The commands of a pipeline, up to `stop`. -/
def pipelineCommands : Nat → String → ItemKind → List Command → ParseM (List Command)
  | 0, _, _, _ => fail "unexpected EOF" []
  | fuel + 1, context, stop, acc => do
    let it ← nextNonSpace
    if it.kind == stop then
      checkPipeline acc.reverse context
      pure acc.reverse
    else if startsCommand it.kind then do
      backup
      let c ← command fuel
      pipelineCommands fuel context stop (c :: acc)
    else unexpected it context

/-- A pipeline: declarations, then commands separated by bars, up to `stop`. -/
def pipeline : Nat → String → ItemKind → ParseM Pipe
  | 0, _, _ => fail "unexpected EOF" []
  | fuel + 1, context, stop => do
    let start ← peekNonSpace
    let (ds, isAssign) ← declarations context 3 [] false
    let cs ← pipelineCommands fuel context stop []
    pure (.mk start.pos isAssign ds cs)

/-- Text or an action, after blanks. -/
def textOrAction : Nat → ParseM Piece
  | 0 => fail "unexpected EOF" []
  | fuel + 1 => do
    let it ← nextNonSpace
    match it.kind with
    | .text => pure (.node (.text it.pos it.val))
    | .leftDelim => do
      modify fun s => { s with actionLine := it.line }
      let p ← action fuel
      modify fun s => { s with actionLine := 0 }
      pure p
    | _ => unexpected it "input"

/-- The inside of an action after its left delimiter. -/
def action : Nat → ParseM Piece
  | 0 => fail "unexpected EOF" []
  | fuel + 1 => do
    let it ← nextNonSpace
    match it.kind with
    | .kwBlock => blockClause fuel
    | .kwBreak => do
      let t ← nextNonSpace
      if t.kind != .rightDelim then unexpected t "\x7b\x7bbreak\x7d\x7d"
      if (← get).rangeDepth == 0 then fail "\x7b\x7bbreak\x7d\x7d outside \x7b\x7brange\x7d\x7d" []
      pure (.node (.breakLoop it.pos))
    | .kwContinue => do
      let t ← nextNonSpace
      if t.kind != .rightDelim then unexpected t "\x7b\x7bcontinue\x7d\x7d"
      if (← get).rangeDepth == 0 then fail "\x7b\x7bcontinue\x7d\x7d outside \x7b\x7brange\x7d\x7d" []
      pure (.node (.continueLoop it.pos))
    | .kwElse => do
      let p ← peekNonSpace
      if p.kind == .kwIf || p.kind == .kwWith then pure (.elseMark p.pos)
      else
        let t ← expect .rightDelim "else"
        pure (.elseMark t.pos)
    | .kwEnd => do
      let t ← expect .rightDelim "end"
      pure (.endMark t.pos)
    | .kwIf => do
      let (pipe, body, orElse) ← control fuel "if"
      pure (.node (.ifElse pipe.pos pipe body orElse))
    | .kwRange => do
      let (pipe, body, orElse) ← control fuel "range"
      pure (.node (.range pipe.pos pipe body orElse))
    | .kwWith => do
      let (pipe, body, orElse) ← control fuel "with"
      pure (.node (.with_ pipe.pos pipe body orElse))
    | .kwTemplate => do
      let t ← nextNonSpace
      let name ← templateName t "template clause"
      let nx ← nextNonSpace
      if nx.kind == .rightDelim then pure (.node (.call t.pos name none))
      else do
        backup
        let p ← pipeline fuel "template clause" .rightDelim
        pure (.node (.call t.pos name (some p)))
    | _ => do
      backup
      let t ← peek
      let p ← pipeline fuel "command" .rightDelim
      pure (.node (.action t.pos p))

/-- The pipeline and bodies of `if`, `range` and `with`; `else if` and `else with` nest
a new clause as the whole else body. -/
def control : Nat → String → ParseM (Pipe × List Node × Option (List Node))
  | 0, _ => fail "unexpected EOF" []
  | fuel + 1, context => do
    let saved := (← get).vars
    let pipe ← pipeline fuel context .rightDelim
    if context == "range" then modify fun s => { s with rangeDepth := s.rangeDepth + 1 }
    let (body, stop) ← itemList fuel []
    if context == "range" then modify fun s => { s with rangeDepth := s.rangeDepth - 1 }
    let orElse ← match stop with
      | .elseMark _ => do
        let p ← peek
        if context == "if" && p.kind == .kwIf then do
          let _ ← next
          let (pp, b, e) ← control fuel "if"
          pure (some [Node.ifElse pp.pos pp b e])
        else if context == "with" && p.kind == .kwWith then do
          let _ ← next
          let (pp, b, e) ← control fuel "with"
          pure (some [Node.with_ pp.pos pp b e])
        else do
          let (eb, stop2) ← itemList fuel []
          match stop2 with
          | .endMark _ => pure (some eb)
          | other => fail "expected end; found %s" [other.operand]
      | _ => pure none
    modify fun s => { s with vars := saved }
    pure (pipe, body, orElse)

/-- Nodes up to an `{{end}}` or `{{else}}`, which is returned as well. -/
def itemList : Nat → List Node → ParseM (List Node × Piece)
  | 0, _ => fail "unexpected EOF" []
  | fuel + 1, acc => do
    let p ← peekNonSpace
    if p.kind == .eof then fail "unexpected EOF" []
    match ← textOrAction fuel with
    | .node n => itemList fuel (n :: acc)
    | other => pure (acc.reverse, other)

/-- A `block` clause: defines a body and calls it at once. -/
def blockClause : Nat → ParseM Piece
  | 0 => fail "unexpected EOF" []
  | fuel + 1 => do
    let t ← nextNonSpace
    let name ← templateName t "block clause"
    let p ← pipeline fuel "block clause" .rightDelim
    let outer ← get
    set { outer with vars := ["$"], rangeDepth := 0 }
    let (body, stop) ← itemList fuel []
    match stop with
    | .endMark _ => pure ()
    | other => fail "unexpected %s in %s" [other.operand, .text "block clause"]
    modify fun s => { s with vars := outer.vars, rangeDepth := outer.rangeDepth }
    addBody name body
    pure (.node (.call t.pos name (some p)))
end

/-- A `define` clause, after its keyword. -/
def definition (fuel : Nat) : ParseM Unit := do
  let it ← nextNonSpace
  if it.kind != .string && it.kind != .rawString then unexpected it "define clause"
  let name ← match Text.unquote it.val with
    | some s => pure s
    | none => fail "%s" [.error "invalid syntax"]
  let _ ← expect .rightDelim "define clause"
  let outer ← get
  set { outer with vars := ["$"], rangeDepth := 0 }
  let (body, stop) ← itemList fuel []
  match stop with
  | .endMark _ => pure ()
  | other => fail "unexpected %s in %s" [other.operand, .text "define clause"]
  modify fun s => { s with vars := outer.vars, rangeDepth := outer.rangeDepth }
  addBody name body

/-- The top level: nodes and definitions until the end of input. -/
def top (fuel : Nat) : ParseM (List Node) := do
  let rec loop : Nat → List Node → ParseM (List Node)
    | 0, acc => pure acc.reverse
    | f + 1, acc => do
      let p ← peek
      if p.kind == .eof then pure acc.reverse else
      if p.kind == .leftDelim then
        let start := (← get).idx
        let _ ← next
        let k ← nextNonSpace
        if k.kind == .kwDefine then
          definition fuel
          loop f acc
        else
          modify fun s => { s with idx := start }
          match ← textOrAction fuel with
          | .node n => loop f (n :: acc)
          | other => fail "unexpected %s" [other.operand]
      else
        match ← textOrAction fuel with
        | .node n => loop f (n :: acc)
        | other => fail "unexpected %s" [other.operand]
  loop fuel []

end Parse

/-- Parse a template text under a name. -/
def parse (name : String) (source : String) : Except String Tree := do
  let items := (lex source).toArray
  let fuel := 10 * items.size + 10
  let st : ParseState := { items, parseName := name }
  let (root, s) ← (Parse.top fuel).run st
  let (_, s) ← (Parse.addBody name root).run s
  pure { parseName := name, source, bodies := s.bodies }

end Windowing.Template
