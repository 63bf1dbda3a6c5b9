import Windowing.Yaml.Token
import Windowing.Text.Utf8

set_option autoImplicit false

/-! # Scanning YAML text into tokens

The scanner reads the text character by character and queues tokens for the parser,
which asks for them one at a time. It keeps the stack of block indentation columns,
emitting a collection start when a line is indented deeper and block ends when it is
indented less, and, for every flow level, the position where a *simple key* (a key
without `?`) may have started: when `:` follows, a key token (and, in block context,
a mapping start) is inserted in the queue at that position.

A simple key must stay on one line and within 1024 characters. In block context, a
possible key at the current indentation column is *required*: losing it is an error.
The parser is always given at least three queued tokens, and more while the first of
them may still turn out to be a simple key.

Scalars are read with the folding rules of their style: plain scalars end at `: `, `#`
after a blank, a document marker, or a line indented too little, and inside brackets or
braces also at `,`, `?` and any bracket or brace; quoted scalars fold
line breaks into a blank (or keep further breaks) and read escapes; block scalars keep
(`|`) or fold (`>`) lines and chomp the final breaks by their indicator. -/

namespace Windowing.Yaml

/-- A place where a simple key may have started. -/
structure SimpleKey where
  possible : Bool := false
  required : Bool := false
  tokenNumber : Nat := 0
  mark : Mark := {}
  deriving Inhabited

/-- The scanner's state. -/
structure Scanner where
  input : ByteArray
  pos : Nat := 0
  mark : Mark := {}
  /-- Tokens scanned and not yet taken by the parser. -/
  queue : Array Token := #[]
  /-- Tokens taken by the parser so far. -/
  taken : Nat := 0
  started : Bool := false
  indent : Int := -1
  indents : List Int := []
  keyAllowed : Bool := false
  /-- Possible simple keys, one per flow level (innermost last). -/
  keys : Array SimpleKey := #[]
  /-- Which possible key (by its place in `keys`) starts at which token. -/
  keysByToken : List (Nat × Nat) := []
  flowLevel : Nat := 0

/-- Scanning: state, and failure with a syntax error. -/
abbrev ScanM := StateT Scanner (Except SyntaxError)

/-! ## Characters -/

/-- The octets of one character, from its first octet. -/
def charWidth (b : UInt8) : Nat :=
  if b < 0x80 then 1
  else if b &&& 0xE0 == 0xC0 then 2
  else if b &&& 0xF0 == 0xE0 then 3
  else if b &&& 0xF8 == 0xF0 then 4
  else 1

namespace Scanner

/-- The octet `k` places ahead; zero past the end. -/
def byte (s : Scanner) (k : Nat) : UInt8 :=
  let i := s.pos + k
  if h : i < s.input.size then s.input[i] else 0

def isZ (s : Scanner) (k : Nat) : Bool := s.byte k == 0
def isBlank (s : Scanner) (k : Nat) : Bool := s.byte k == 32 || s.byte k == 9
def isSpace (s : Scanner) (k : Nat) : Bool := s.byte k == 32
def isTab (s : Scanner) (k : Nat) : Bool := s.byte k == 9

def isBreak (s : Scanner) (k : Nat) : Bool :=
  let b := s.byte k
  b == 13 || b == 10 || (b == 0xC2 && s.byte (k + 1) == 0x85) ||
    (b == 0xE2 && s.byte (k + 1) == 0x80 && (s.byte (k + 2) == 0xA8 || s.byte (k + 2) == 0xA9))

def isBreakZ (s : Scanner) (k : Nat) : Bool := s.isBreak k || s.isZ k
def isBlankZ (s : Scanner) (k : Nat) : Bool := s.isBlank k || s.isBreakZ k

def isDigit (s : Scanner) (k : Nat) : Bool := 48 ≤ s.byte k && s.byte k ≤ 57

def isAlpha (s : Scanner) (k : Nat) : Bool :=
  let b := s.byte k
  (48 ≤ b && b ≤ 57) || (65 ≤ b && b ≤ 90) || (97 ≤ b && b ≤ 122) || b == 95 || b == 45

def isHex (s : Scanner) (k : Nat) : Bool :=
  let b := s.byte k
  (48 ≤ b && b ≤ 57) || (65 ≤ b && b ≤ 70) || (97 ≤ b && b ≤ 102)

def hexValue (s : Scanner) (k : Nat) : Nat :=
  let b := (s.byte k).toNat
  if b ≤ 57 then b - 48 else if b ≤ 70 then b - 55 else b - 87

/-- Whether the text at the cursor is `c c c` followed by a blank or the end. -/
def atMarker (s : Scanner) (c : UInt8) : Bool :=
  s.byte 0 == c && s.byte 1 == c && s.byte 2 == c && s.isBlankZ 3

/-- A step budget large enough for any loop over the text. -/
def budget (s : Scanner) : Nat := s.input.size + 16

end Scanner

/-! ## Moving through the text -/

/-- The scanner's state. -/
def cur : ScanM Scanner := get

/-- Step over one character on the same line. -/
def skip : ScanM Unit := modify fun s =>
  { s with pos := s.pos + charWidth (s.byte 0),
           mark := { s.mark with index := s.mark.index + 1, column := s.mark.column + 1 } }

/-- Step over a line break. -/
def skipLine : ScanM Unit := modify fun s =>
  if s.byte 0 == 13 && s.byte 1 == 10 then
    { s with pos := s.pos + 2,
             mark := { index := s.mark.index + 2, line := s.mark.line + 1, column := 0 } }
  else if s.isBreak 0 then
    { s with pos := s.pos + charWidth (s.byte 0),
             mark := { index := s.mark.index + 1, line := s.mark.line + 1, column := 0 } }
  else s

/-- Copy one character to `acc` and step over it. -/
def readChar (acc : Array UInt8) : ScanM (Array UInt8) := do
  let s ← get
  let w := charWidth (s.byte 0)
  let acc := (List.range w).foldl (fun a i => a.push (s.byte i)) acc
  skip
  pure acc

/-- Copy a line break to `acc` as a line feed (line and paragraph separators stay) and
step over it. -/
def readLine (acc : Array UInt8) : ScanM (Array UInt8) := do
  let s ← get
  if s.byte 0 == 13 && s.byte 1 == 10 then
    skipLine
    pure (acc.push 10)
  else if s.byte 0 == 13 || s.byte 0 == 10 || (s.byte 0 == 0xC2 && s.byte 1 == 0x85) then
    skipLine
    pure (acc.push 10)
  else if s.isBreak 0 then
    let acc := acc.push (s.byte 0) |>.push (s.byte 1) |>.push (s.byte 2)
    skipLine
    pure acc
  else pure acc

/-- Step over characters while a condition holds. -/
def skipWhile (p : Scanner → Bool) : ScanM Unit := do
  let rec go : Nat → ScanM Unit
    | 0 => pure ()
    | n + 1 => do
      if p (← get) then
        skip
        go n
  go (← get).budget

/-- Copy characters to `acc` while a condition holds. -/
def readWhile (p : Scanner → Bool) (acc : Array UInt8) : ScanM (Array UInt8) := do
  let rec go : Nat → Array UInt8 → ScanM (Array UInt8)
    | 0, a => pure a
    | n + 1, a => do
      if p (← get) then
        let a ← readChar a
        go n a
      else pure a
  go (← get).budget acc

/-- Fail with a scanner error at the cursor. -/
def scanError {α : Type} (contextMark : Mark) (problem : String) : ScanM α := do
  throw { byScanner := true, context := contextMark, problemMark := (← get).mark, problem,
          reached := (← get).pos }

/-- Text of octets. -/
def textOf (bs : Array UInt8) : String := Utf8.decodeLossy bs.toList

/-! ## The token queue and simple keys -/

/-- Append a token, or insert it `k` places after the head of the queue. -/
def insertToken (k : Option Nat) (t : Token) : ScanM Unit := modify fun s =>
  match k with
  | none => { s with queue := s.queue.push t }
  | some i =>
    let l := s.queue.toList
    { s with queue := (l.take i ++ t :: l.drop i).toArray }

/-- The possible key of the innermost flow level. -/
def topKey (s : Scanner) : SimpleKey := s.keys.back?.getD {}

/-- Replace the possible key of the innermost flow level. -/
def setTopKey (k : SimpleKey) : ScanM Unit := modify fun s =>
  { s with keys := s.keys.modify (s.keys.size - 1) (fun _ => k) }

/-- Forget the possible key of the innermost flow level; a required one is an error. -/
def removeSimpleKey : ScanM Unit := do
  let s ← get
  let k := topKey s
  if k.possible then
    if k.required then scanError k.mark "could not find expected ':'"
    set { s with keys := s.keys.modify (s.keys.size - 1) (fun k => { k with possible := false }),
                 keysByToken := s.keysByToken.filter (·.1 != k.tokenNumber) }

/-- Remember that a simple key may start here, if one may. -/
def saveSimpleKey : ScanM Unit := do
  let s ← get
  let required := s.flowLevel == 0 && s.indent == (s.mark.column : Int)
  if s.keyAllowed then
    let key : SimpleKey :=
      { possible := true, required, tokenNumber := s.taken + s.queue.size, mark := s.mark }
    removeSimpleKey
    setTopKey key
    modify fun s =>
      { s with keysByToken := (key.tokenNumber, s.keys.size - 1) ::
                 s.keysByToken.filter (·.1 != key.tokenNumber) }

/-- Whether a remembered key is still possible: it must be on the current line and
within 1024 characters. A required key that is no longer possible is an error. -/
def keyStillPossible (i : Nat) : ScanM Bool := do
  let s ← get
  let k := s.keys[i]?.getD {}
  if !k.possible then return false
  if k.mark.line < s.mark.line || k.mark.index + 1024 < s.mark.index then
    if k.required then scanError k.mark "could not find expected ':'"
    modify fun s => { s with keys := s.keys.modify i (fun k => { k with possible := false }) }
    return false
  return true

/-- Enter a flow collection. -/
def increaseFlowLevel : ScanM Unit := do
  let s ← get
  let k : SimpleKey := { tokenNumber := s.taken + s.queue.size, mark := s.mark }
  set { s with keys := s.keys.push k, flowLevel := s.flowLevel + 1 }
  if s.flowLevel + 1 > 10000 then scanError k.mark "exceeded max depth of 10000"

/-- Leave a flow collection. -/
def decreaseFlowLevel : ScanM Unit := modify fun s =>
  if s.flowLevel > 0 then
    let k := topKey s
    { s with flowLevel := s.flowLevel - 1, keys := s.keys.pop,
             keysByToken := s.keysByToken.filter (·.1 != k.tokenNumber) }
  else s

/-- In block context, open a deeper indentation level at `column` with a collection
start token (inserted at token number `number`, or appended). -/
def rollIndent (column : Int) (number : Option Nat) (kind : TokenKind) (mark : Mark) :
    ScanM Unit := do
  let s ← get
  if s.flowLevel > 0 then return
  if s.indent < column then
    set { s with indents := s.indent :: s.indents, indent := column }
    if s.indents.length + 1 > 10000 then scanError (topKey s).mark "exceeded max depth of 10000"
    insertToken (number.map (· - s.taken)) { kind, start := mark, stop := mark }

/-- In block context, close indentation levels deeper than `column`, one block end each. -/
def unrollIndent (column : Int) (scanMark : Mark) : ScanM Unit := do
  let s ← get
  if s.flowLevel > 0 then return
  let blockMark := { scanMark with index := scanMark.index - 1 }
  let rec go : List Int → Int → Array Token → List Int × Int × Array Token
    | stack, ind, q =>
      if ind > column then
        match stack with
        | top :: rest => go rest top (q.push { kind := .blockEnd, start := blockMark, stop := blockMark })
        | [] => ([], ind, q)
      else (stack, ind, q)
  let (stack, ind, q) := go s.indents s.indent s.queue
  set { s with indents := stack, indent := ind, queue := q }

/-! ## Scanning tokens -/

/-- Skip blanks, comments and line breaks up to the next token. Tabs count as blanks in
flow context and where no simple key may start. -/
def scanToNextToken : ScanM Unit := do
  let rec go : Nat → ScanM Unit
    | 0 => pure ()
    | n + 1 => do
      let s ← get
      if s.mark.column == 0 && s.byte 0 == 0xEF && s.byte 1 == 0xBB && s.byte 2 == 0xBF then skip
      skipWhile fun s => s.byte 0 == 32 || ((s.flowLevel > 0 || !s.keyAllowed) && s.byte 0 == 9)
      if (← get).byte 0 == 35 then skipWhile fun s => !s.isBreakZ 0
      if (← get).isBreak 0 then
        skipLine
        modify fun s => if s.flowLevel == 0 then { s with keyAllowed := true } else s
        go n
  go (← get).budget

/-- The stream start. -/
def fetchStreamStart : ScanM Unit := do
  modify fun s => { s with indent := -1, keys := #[{}], keysByToken := [], keyAllowed := true,
                           started := true }
  let m := (← get).mark
  insertToken none { kind := .streamStart, start := m, stop := m }

/-- The stream end, on a line of its own. -/
def fetchStreamEnd : ScanM Unit := do
  modify fun s =>
    if s.mark.column != 0 then { s with mark := { s.mark with column := 0, line := s.mark.line + 1 } }
    else s
  unrollIndent (-1) (← get).mark
  removeSimpleKey
  modify fun s => { s with keyAllowed := false }
  let m := (← get).mark
  insertToken none { kind := .streamEnd, start := m, stop := m }

/-- `---` or `...`. -/
def fetchDocumentIndicator (kind : TokenKind) : ScanM Unit := do
  unrollIndent (-1) (← get).mark
  removeSimpleKey
  modify fun s => { s with keyAllowed := false }
  let start := (← get).mark
  skip; skip; skip
  insertToken none { kind, start, stop := (← get).mark }

/-- A one-character token. -/
def fetchIndicator (kind : TokenKind) : ScanM Unit := do
  let start := (← get).mark
  skip
  insertToken none { kind, start, stop := (← get).mark }

/-- `[` or `{`. -/
def fetchFlowCollectionStart (kind : TokenKind) : ScanM Unit := do
  saveSimpleKey
  increaseFlowLevel
  modify fun s => { s with keyAllowed := true }
  fetchIndicator kind

/-- `]` or `}`. -/
def fetchFlowCollectionEnd (kind : TokenKind) : ScanM Unit := do
  removeSimpleKey
  decreaseFlowLevel
  modify fun s => { s with keyAllowed := false }
  fetchIndicator kind

/-- `,`. -/
def fetchFlowEntry : ScanM Unit := do
  removeSimpleKey
  modify fun s => { s with keyAllowed := true }
  fetchIndicator .flowEntry

/-- `-` before a blank. -/
def fetchBlockEntry : ScanM Unit := do
  let s ← get
  if s.flowLevel == 0 then
    if !s.keyAllowed then scanError s.mark "block sequence entries are not allowed in this context"
    rollIndent s.mark.column none .blockSequenceStart s.mark
  removeSimpleKey
  modify fun s => { s with keyAllowed := true }
  fetchIndicator .blockEntry

/-- `?` starting a complex key. -/
def fetchKey : ScanM Unit := do
  let s ← get
  if s.flowLevel == 0 then
    if !s.keyAllowed then scanError s.mark "mapping keys are not allowed in this context"
    rollIndent s.mark.column none .blockMappingStart s.mark
  removeSimpleKey
  modify fun s => { s with keyAllowed := s.flowLevel == 0 }
  fetchIndicator .key

/-- `:`; turns a remembered simple key into a key token. -/
def fetchValue : ScanM Unit := do
  let s ← get
  let i := s.keys.size - 1
  let k := topKey s
  if ← keyStillPossible i then
    let s ← get
    insertToken (some (k.tokenNumber - s.taken)) { kind := .key, start := k.mark, stop := k.mark }
    rollIndent k.mark.column (some k.tokenNumber) .blockMappingStart k.mark
    modify fun s =>
      { s with keys := s.keys.modify i (fun k => { k with possible := false }),
               keysByToken := s.keysByToken.filter (·.1 != k.tokenNumber), keyAllowed := false }
  else
    let s ← get
    if s.flowLevel == 0 then
      if !s.keyAllowed then scanError s.mark "mapping values are not allowed in this context"
      rollIndent s.mark.column none .blockMappingStart s.mark
    modify fun s => { s with keyAllowed := s.flowLevel == 0 }
  fetchIndicator .value

/-- An anchor `&name` or an alias `*name`. -/
def fetchAnchor (kind : TokenKind) : ScanM Unit := do
  saveSimpleKey
  modify fun s => { s with keyAllowed := false }
  let start := (← get).mark
  skip
  let name ← readWhile (·.isAlpha 0) #[]
  let s ← get
  let b := s.byte 0
  if name.isEmpty || !(s.isBlankZ 0 || b == 63 || b == 58 || b == 44 || b == 93 || b == 125 ||
      b == 37 || b == 64 || b == 96) then
    scanError start "did not find expected alphabetic or numeric character"
  insertToken none { kind, start, stop := s.mark, text := textOf name }

/-- Whether the octet at the cursor may stand in a tag's URI. -/
def isUriChar (s : Scanner) (verbatim : Bool) : Bool :=
  let b := s.byte 0
  s.isAlpha 0 || b == 59 || b == 47 || b == 63 || b == 58 || b == 64 || b == 38 || b == 61 ||
    b == 43 || b == 36 || b == 46 || b == 37 || b == 33 || b == 126 || b == 42 || b == 39 ||
    b == 40 || b == 41 || (verbatim && (b == 44 || b == 91 || b == 93))

/-- The URI part of a tag, after `head` (whose leading `!` is dropped). -/
def scanTagUri (verbatim : Bool) (head : Array UInt8) (start : Mark) : ScanM (Array UInt8) := do
  let acc := if head.size > 1 then head.extract 1 head.size else #[]
  let rec go : Nat → Array UInt8 → Bool → ScanM (Array UInt8 × Bool)
    | 0, a, seen => pure (a, seen)
    | n + 1, a, seen => do
      let s ← get
      if isUriChar s verbatim then
        if s.byte 0 == 37 then
          if !(s.isHex 1 && s.isHex 2) then
            scanError start "did not find URI escaped octet"
          let v := s.hexValue 1 * 16 + s.hexValue 2
          skip; skip; skip
          go n (a.push v.toUInt8) true
        else
          let a ← readChar a
          go n a true
      else pure (a, seen)
  let (uri, seen) ← go (← get).budget acc (head.size > 0)
  if !seen then scanError start "did not find expected tag URI"
  pure uri

/-- A tag handle: `!`, `!!` or `!name!`. -/
def scanTagHandle (directive : Bool) (start : Mark) : ScanM (Array UInt8) := do
  if (← get).byte 0 != 33 then scanError start "did not find expected '!'"
  let h ← readChar #[]
  let h ← readWhile (·.isAlpha 0) h
  if (← get).byte 0 == 33 then readChar h
  else
    if directive && h != #[33] then scanError start "did not find expected '!'"
    pure h

/-- A tag: `!<uri>`, `!suffix` or `!handle!suffix`. -/
def fetchTag : ScanM Unit := do
  saveSimpleKey
  modify fun s => { s with keyAllowed := false }
  let start := (← get).mark
  let (handle, suffix) ← do
    if (← get).byte 1 == 60 then
      skip; skip
      let suffix ← scanTagUri true #[] start
      if (← get).byte 0 != 62 then scanError start "did not find the expected '>'"
      skip
      pure (#[], suffix)
    else
      let handle ← scanTagHandle false start
      if handle.size > 1 && handle[0]? == some 33 && handle.back? == some 33 then
        let suffix ← scanTagUri false #[] start
        pure (handle, suffix)
      else
        let suffix ← scanTagUri false handle start
        if suffix.isEmpty then pure (#[], #[33]) else pure (#[33], suffix)
  let s ← get
  if !s.isBlankZ 0 then
    if s.flowLevel == 0 || s.byte 0 != 44 then
      scanError start "did not find expected whitespace or line break"
  insertToken none { kind := .tag, start, stop := s.mark, text := textOf handle,
                     suffix := textOf suffix }

/-- A directive `%YAML major.minor` or `%TAG handle prefix`. -/
def fetchDirective : ScanM Unit := do
  unrollIndent (-1) (← get).mark
  removeSimpleKey
  modify fun s => { s with keyAllowed := false }
  let start := (← get).mark
  skip
  let name ← readWhile (·.isAlpha 0) #[]
  if name.isEmpty then scanError start "could not find expected directive name"
  if !(← get).isBlankZ 0 then scanError start "found unexpected non-alphabetical character"
  let token ← do
    if textOf name == "YAML" then
      skipWhile (·.isBlank 0)
      let number : ScanM Nat := do
        let ds ← readWhile (·.isDigit 0) #[]
        if ds.isEmpty then scanError start "did not find expected version number"
        if ds.size > 2 then scanError start "found extremely long version number"
        pure (ds.foldl (fun v d => v * 10 + (d.toNat - 48)) 0)
      let major ← number
      if (← get).byte 0 != 46 then scanError start "did not find expected digit or '.' character"
      skip
      let minor ← number
      pure { kind := .versionDirective, start, stop := (← get).mark,
             text := toString major ++ "." ++ toString minor : Token }
    else if textOf name == "TAG" then
      skipWhile (·.isBlank 0)
      let handle ← scanTagHandle true start
      if !(← get).isBlank 0 then scanError start "did not find expected whitespace"
      skipWhile (·.isBlank 0)
      let pre ← scanTagUri true #[] start
      if !(← get).isBlankZ 0 then scanError start "did not find expected whitespace or line break"
      pure { kind := .tagDirective, start, stop := (← get).mark, text := textOf handle,
             suffix := textOf pre : Token }
    else scanError start "found unknown directive name"
  skipWhile (·.isBlank 0)
  if (← get).byte 0 == 35 then skipWhile fun s => !s.isBreakZ 0
  if !(← get).isBreakZ 0 then scanError start "did not find expected comment or line break"
  if (← get).isBreak 0 then skipLine
  insertToken none token

/-- Folded line breaks: one break and no more becomes a blank; otherwise the further
breaks stay. A first break that is not a line feed stays too. -/
def foldBreaks (acc leading trailing : Array UInt8) : Array UInt8 :=
  if leading[0]? == some 10 then
    if trailing.isEmpty then acc.push 32 else acc ++ trailing
  else acc ++ leading ++ trailing

/-- The body of a quoted scalar. -/
def scanQuoted (single : Bool) (start : Mark) : ScanM (Array UInt8) := do
  -- one run of non-blank characters
  let rec chars : Nat → Array UInt8 → ScanM (Array UInt8 × Bool)
    | 0, a => pure (a, false)
    | n + 1, a => do
      let s ← get
      if s.isBlankZ 0 then return (a, false)
      let b := s.byte 0
      if single && b == 39 && s.byte 1 == 39 then
        skip; skip
        chars n (a.push 39)
      else if single && b == 39 then return (a, false)
      else if !single && b == 34 then return (a, false)
      else if !single && b == 92 && s.isBreak 1 then
        skip
        skipLine
        return (a, true)
      else if !single && b == 92 then
        let e := s.byte 1
        let simple : Option (List UInt8) := match e with
          | 48 => some [0] | 97 => some [7] | 98 => some [8] | 116 | 9 => some [9]
          | 110 => some [10] | 118 => some [11] | 102 => some [12] | 114 => some [13]
          | 101 => some [27] | 32 => some [32] | 34 => some [34] | 39 => some [39]
          | 92 => some [92] | 78 => some [0xC2, 0x85] | 95 => some [0xC2, 0xA0]
          | 76 => some [0xE2, 0x80, 0xA8] | 80 => some [0xE2, 0x80, 0xA9]
          | _ => none
        let width : Nat := match e with
          | 120 => 2 | 117 => 4 | 85 => 8 | _ => 0
        match simple with
        | some bs =>
          skip; skip
          chars n (bs.foldl Array.push a)
        | none =>
          if width == 0 then scanError start "found unknown escape character"
          skip; skip
          let s ← get
          if !(List.range width).all (fun k => s.isHex k) then
            scanError start "did not find expected hexdecimal number"
          let v := (List.range width).foldl (fun v k => v * 16 + s.hexValue k) 0
          if (0xD800 ≤ v && v ≤ 0xDFFF) || v > 0x10FFFF then
            scanError start "found invalid Unicode character escape code"
          for _ in List.range width do skip
          chars n (Utf8.bytes (Char.ofNat v).toString |>.foldl Array.push a)
      else
        let a ← readChar a
        chars n a
  -- blanks and breaks between runs
  let rec blanks : Nat → Bool → Array UInt8 → Array UInt8 → Array UInt8 →
      ScanM (Bool × Array UInt8 × Array UInt8 × Array UInt8)
    | 0, lb, ws, lead, trail => pure (lb, ws, lead, trail)
    | n + 1, lb, ws, lead, trail => do
      let s ← get
      if s.isBlank 0 then
        if !lb then
          let ws ← readChar ws
          blanks n lb ws lead trail
        else
          skip
          blanks n lb ws lead trail
      else if s.isBreak 0 then
        if !lb then
          let lead ← readLine lead
          blanks n true #[] lead trail
        else
          let trail ← readLine trail
          blanks n lb ws lead trail
      else pure (lb, ws, lead, trail)
  let rec go : Nat → Array UInt8 → ScanM (Array UInt8)
    | 0, a => pure a
    | n + 1, a => do
      let s ← get
      if s.mark.column == 0 && (s.atMarker 45 || s.atMarker 46) then
        scanError start "found unexpected document indicator"
      if s.isZ 0 then scanError start "found unexpected end of stream"
      let (a, escapedBreak) ← chars s.budget a
      let s ← get
      if (single && s.byte 0 == 39) || (!single && s.byte 0 == 34) then return a
      let (lb, ws, lead, trail) ← blanks s.budget escapedBreak #[] #[] #[]
      let a := if lb then foldBreaks a lead trail else a ++ ws
      go n a
  go (← get).budget #[]

/-- A single- or double-quoted scalar. -/
def fetchFlowScalar (single : Bool) : ScanM Unit := do
  saveSimpleKey
  modify fun s => { s with keyAllowed := false }
  let start := (← get).mark
  skip
  let body ← scanQuoted single start
  skip
  insertToken none { kind := .scalar, start, stop := (← get).mark, text := textOf body,
                     style := if single then .singleQuoted else .doubleQuoted }

/-- A plain scalar. -/
def fetchPlainScalar : ScanM Unit := do
  saveSimpleKey
  modify fun s => { s with keyAllowed := false }
  let s0 ← get
  let start := s0.mark
  let indent := s0.indent + 1
  let endsHere (s : Scanner) : Bool :=
    (s.byte 0 == 58 && s.isBlankZ 1) ||
      (s.flowLevel > 0 && (s.byte 0 == 44 || s.byte 0 == 63 || s.byte 0 == 91 ||
        s.byte 0 == 93 || s.byte 0 == 123 || s.byte 0 == 125))
  -- one run of non-blank characters, joining the blanks before it
  let rec chars : Nat → Array UInt8 → Bool → Array UInt8 → Array UInt8 → Array UInt8 → Mark →
      ScanM (Array UInt8 × Bool × Array UInt8 × Array UInt8 × Array UInt8 × Mark)
    | 0, a, lb, ws, lead, trail, stop => pure (a, lb, ws, lead, trail, stop)
    | n + 1, a, lb, ws, lead, trail, stop => do
      let s ← get
      if s.isBlankZ 0 || endsHere s then return (a, lb, ws, lead, trail, stop)
      let (a, lb, ws, lead, trail) :=
        if lb then (foldBreaks a lead trail, false, ws, #[], #[])
        else if !ws.isEmpty then (a ++ ws, lb, #[], lead, trail)
        else (a, lb, ws, lead, trail)
      let a ← readChar a
      chars n a lb ws lead trail (← get).mark
  let rec blanks : Nat → Bool → Array UInt8 → Array UInt8 → Array UInt8 →
      ScanM (Bool × Array UInt8 × Array UInt8 × Array UInt8)
    | 0, lb, ws, lead, trail => pure (lb, ws, lead, trail)
    | n + 1, lb, ws, lead, trail => do
      let s ← get
      if s.isBlank 0 then
        if lb && (s.mark.column : Int) < indent && s.isTab 0 then
          scanError start "found a tab character that violates indentation"
        if !lb then
          let ws ← readChar ws
          blanks n lb ws lead trail
        else
          skip
          blanks n lb ws lead trail
      else if s.isBreak 0 then
        if !lb then
          let lead ← readLine lead
          blanks n true #[] lead trail
        else
          let trail ← readLine trail
          blanks n lb ws lead trail
      else pure (lb, ws, lead, trail)
  let rec go : Nat → Array UInt8 → Bool → Array UInt8 → Array UInt8 → Array UInt8 → Mark →
      ScanM (Array UInt8 × Bool × Mark)
    | 0, a, lb, _, _, _, stop => pure (a, lb, stop)
    | n + 1, a, lb, ws, lead, trail, stop => do
      let s ← get
      if s.mark.column == 0 && (s.atMarker 45 || s.atMarker 46) then return (a, lb, stop)
      if s.byte 0 == 35 then return (a, lb, stop)
      let (a, lb, ws, lead, trail, stop) ← chars s.budget a lb ws lead trail stop
      let s ← get
      if !(s.isBlank 0 || s.isBreak 0) then return (a, lb, stop)
      let (lb, ws, lead, trail) ← blanks s.budget lb ws lead trail
      let s ← get
      if s.flowLevel == 0 && (s.mark.column : Int) < indent then return (a, lb, stop)
      go n a lb ws lead trail stop
  let (value, lb, stop) ← go s0.budget #[] false #[] #[] #[] start
  if lb then modify fun s => { s with keyAllowed := true }
  insertToken none { kind := .scalar, start, stop, text := textOf value, style := .plain }

/-- Indentation and empty lines before or between lines of a block scalar; fixes the
indentation when it is not yet known. -/
def blockBreaks (indent : Nat) (breaks : Array UInt8) (start : Mark) :
    ScanM (Nat × Array UInt8 × Mark) := do
  let rec go : Nat → Nat → Array UInt8 → Mark → ScanM (Nat × Array UInt8 × Mark)
    | 0, maxIndent, br, stop => pure (maxIndent, br, stop)
    | n + 1, maxIndent, br, stop => do
      skipWhile fun s => (indent == 0 || s.mark.column < indent) && s.isSpace 0
      let s ← get
      let maxIndent := max maxIndent s.mark.column
      if (indent == 0 || s.mark.column < indent) && s.isTab 0 then
        scanError start "found a tab character where an indentation space is expected"
      if !s.isBreak 0 then return (maxIndent, br, stop)
      let br ← readLine br
      go n maxIndent br (← get).mark
  let (maxIndent, br, stop) ← go (← get).budget 0 breaks (← get).mark
  let s ← get
  let indent :=
    if indent == 0 then
      let i : Int := max (max (maxIndent : Int) (s.indent + 1)) 1
      i.toNat
    else indent
  pure (indent, br, stop)

/-- A literal (`|`) or folded (`>`) block scalar. -/
def fetchBlockScalar (literal : Bool) : ScanM Unit := do
  removeSimpleKey
  modify fun s => { s with keyAllowed := true }
  let start := (← get).mark
  skip
  let sign (b : UInt8) : Int := if b == 43 then 1 else -1
  let (chomping, increment) ← do
    let s ← get
    if s.byte 0 == 43 || s.byte 0 == 45 then
      let c := sign (s.byte 0)
      skip
      let s ← get
      if s.isDigit 0 then
        if s.byte 0 == 48 then scanError start "found an indentation indicator equal to 0"
        skip
        pure (c, (s.byte 0).toNat - 48)
      else pure (c, 0)
    else if s.isDigit 0 then
      if s.byte 0 == 48 then scanError start "found an indentation indicator equal to 0"
      let inc := (s.byte 0).toNat - 48
      skip
      let s ← get
      if s.byte 0 == 43 || s.byte 0 == 45 then
        skip
        pure (sign (s.byte 0), inc)
      else pure (0, inc)
    else pure (0, 0)
  skipWhile (·.isBlank 0)
  if (← get).byte 0 == 35 then skipWhile fun s => !s.isBreakZ 0
  if !(← get).isBreakZ 0 then scanError start "did not find expected comment or line break"
  if (← get).isBreak 0 then skipLine
  let s ← get
  let indent : Nat :=
    if increment > 0 then
      if s.indent >= 0 then (s.indent + increment).toNat else increment
    else 0
  let (indent, trailing, stop) ← blockBreaks indent #[] start
  let rec lines : Nat → Array UInt8 → Array UInt8 → Array UInt8 → Bool → Mark →
      ScanM (Array UInt8 × Array UInt8 × Array UInt8 × Mark)
    | 0, a, lead, trail, _, stop => pure (a, lead, trail, stop)
    | n + 1, a, lead, trail, leadingBlank, stop => do
      let s ← get
      if !(s.mark.column == indent && !s.isZ 0) then return (a, lead, trail, stop)
      let trailingBlank := s.isBlank 0
      let a :=
        if !literal && !leadingBlank && !trailingBlank && lead[0]? == some 10 then
          if trail.isEmpty then a.push 32 else a
        else a ++ lead
      let a := a ++ trail
      let leadingBlank := s.isBlank 0
      let a ← readWhile (fun s => !s.isBreakZ 0) a
      let lead ← readLine #[]
      let (_, trail, stop) ← blockBreaks indent #[] start
      lines n a lead trail leadingBlank stop
  let (value, lead, trail, stop) ← lines (← get).budget #[] #[] trailing false stop
  let value := if chomping != -1 then value ++ lead else value
  let value := if chomping == 1 then value ++ trail else value
  insertToken none { kind := .scalar, start, stop, text := textOf value,
                     style := if literal then .literal else .folded }

/-- Scan the next token. -/
def fetchNextToken : ScanM Unit := do
  let s ← get
  if !s.started then return ← fetchStreamStart
  let scanMark := s.mark
  scanToNextToken
  unrollIndent (← get).mark.column scanMark
  let s ← get
  let b := s.byte 0
  if s.isZ 0 then return ← fetchStreamEnd
  if s.mark.column == 0 && b == 37 then return ← fetchDirective
  if s.mark.column == 0 && s.atMarker 45 then return ← fetchDocumentIndicator .documentStart
  if s.mark.column == 0 && s.atMarker 46 then return ← fetchDocumentIndicator .documentEnd
  if b == 91 then return ← fetchFlowCollectionStart .flowSequenceStart
  if b == 123 then return ← fetchFlowCollectionStart .flowMappingStart
  if b == 93 then return ← fetchFlowCollectionEnd .flowSequenceEnd
  if b == 125 then return ← fetchFlowCollectionEnd .flowMappingEnd
  if b == 44 then return ← fetchFlowEntry
  if b == 45 && s.isBlankZ 1 then return ← fetchBlockEntry
  if b == 63 && (s.flowLevel > 0 || s.isBlankZ 1) then return ← fetchKey
  if b == 58 && (s.flowLevel > 0 || s.isBlankZ 1) then return ← fetchValue
  if b == 42 then return ← fetchAnchor .alias
  if b == 38 then return ← fetchAnchor .anchor
  if b == 33 then return ← fetchTag
  if b == 124 && s.flowLevel == 0 then return ← fetchBlockScalar true
  if b == 62 && s.flowLevel == 0 then return ← fetchBlockScalar false
  if b == 39 then return ← fetchFlowScalar true
  if b == 34 then return ← fetchFlowScalar false
  let indicator := s.isBlankZ 0 || b == 45 || b == 63 || b == 58 || b == 44 || b == 91 ||
    b == 93 || b == 123 || b == 125 || b == 35 || b == 38 || b == 42 || b == 33 || b == 124 ||
    b == 62 || b == 39 || b == 34 || b == 37 || b == 64 || b == 96
  if !indicator || (b == 45 && !s.isBlank 1) ||
      (s.flowLevel == 0 && (b == 63 || b == 58) && !s.isBlankZ 1) then
    return ← fetchPlainScalar
  scanError s.mark "found character that cannot start any token"

/-- Scan until the parser may take the head token: at least three tokens are queued,
and the head is not a simple key that may still be completed. -/
def fetchMoreTokens : ScanM Unit := do
  let rec go : Nat → ScanM Unit
    | 0 => pure ()
    | n + 1 => do
      let s ← get
      if s.queue.size > 2 then
        match s.keysByToken.lookup s.taken with
        | none => return
        | some i => if !(← keyStillPossible i) then return
      fetchNextToken
      go n
  go (3 * (← get).budget)

/-- The head token, scanning as much as needed. -/
def peekToken : ScanM Token := do
  fetchMoreTokens
  pure ((← get).queue[0]?.getD { kind := .streamEnd, start := (← get).mark, stop := (← get).mark })

/-- Take the head token. -/
def skipToken : ScanM Unit := modify fun s =>
  { s with queue := s.queue.extract 1 s.queue.size, taken := s.taken + 1 }

end Windowing.Yaml
