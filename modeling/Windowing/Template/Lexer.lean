import Windowing.Text.Quote

set_option autoImplicit false

/-! # Tokens of text templates

The lexer cuts a template into items: runs of text, the delimiters `{{` and `}}`, and inside
actions blanks, words, fields, variables, literals, parentheses and the operators `|`,
`=`, `:=` and `,`. A `-` next to a delimiter and a blank (`{{- ` or ` -}}`) removes the
blanks on that side of the action. Comments `{{/* … */}}` produce no item.

Each item keeps the octet offset and the line where it starts. The lexer stops at the first
error, which becomes the last item; otherwise the last item is the end of input. Every
step consumes at least one character, so the walk is bounded by the length of the text. -/

namespace Windowing.Template

/-- The kinds of items. -/
inductive ItemKind where
  | error | bool | char | charConstant | complex | assign | declare | eof | field
  | identifier | leftDelim | leftParen | number | pipe | rawString | rightDelim | rightParen
  | space | string | text | variable
  | kwBlock | kwBreak | kwContinue | kwDot | kwDefine | kwElse | kwEnd | kwIf | kwNil
  | kwRange | kwTemplate | kwWith
  deriving DecidableEq, Inhabited, Repr

/-- Whether an item kind is a keyword (errors show keywords in angle brackets). -/
def ItemKind.isKeyword : ItemKind → Bool
  | .kwBlock | .kwBreak | .kwContinue | .kwDot | .kwDefine | .kwElse | .kwEnd | .kwIf
  | .kwNil | .kwRange | .kwTemplate | .kwWith => true
  | _ => false

/-- The number of an item kind, as an item's own fields show it; the numbering leaves
room for comments (4) and for the mark before the keywords (22). -/
def ItemKind.code : ItemKind → Nat
  | .error => 0 | .bool => 1 | .char => 2 | .charConstant => 3 | .complex => 5
  | .assign => 6 | .declare => 7 | .eof => 8 | .field => 9 | .identifier => 10
  | .leftDelim => 11 | .leftParen => 12 | .number => 13 | .pipe => 14 | .rawString => 15
  | .rightDelim => 16 | .rightParen => 17 | .space => 18 | .string => 19 | .text => 20
  | .variable => 21 | .kwBlock => 23 | .kwBreak => 24 | .kwContinue => 25 | .kwDot => 26
  | .kwDefine => 27 | .kwElse => 28 | .kwEnd => 29 | .kwIf => 30 | .kwNil => 31
  | .kwRange => 32 | .kwTemplate => 33 | .kwWith => 34

/-- One item of a template. -/
structure Item where
  kind : ItemKind
  pos : Nat
  val : String
  line : Nat
  deriving Inhabited

/-- How an item is shown in a parse error. -/
def Item.describe (i : Item) : String :=
  if i.kind == .eof then "EOF"
  else if i.kind == .error then i.val
  else if i.kind.isKeyword then "<" ++ i.val ++ ">"
  else if Utf8.size i.val > 10 then Text.quote (String.ofList (i.val.toList.take 10)) ++ "..."
  else Text.quote i.val

/-- Blanks inside actions. -/
def isBlank (c : Char) : Bool := c == ' ' || c == '\t' || c == '\r' || c == '\n'

/-- Characters of names: letters, decimal digits and the underscore. -/
def isWordChar (c : Char) : Bool :=
  c == '_' || Unicode.isLetter c || Unicode.isDecimalDigit c

/-- The octets of a list of characters. -/
def octets (cs : List Char) : Nat := cs.foldl (fun n c => n + c.utf8Size) 0

/-- The number of line breaks in a list of characters. -/
def breaks (cs : List Char) : Nat := cs.count '\n'

/-- A character as `U+XXXX 'c'`: at least four hexadecimal digits, and the quoted form
only when it prints. -/
def describeChar (c : Char) : String :=
  let hex := Text.hexFixedUpper (max 4 (Text.hexDigitCount c.toNat)) c.toNat
  if Text.isPrintable c then "U+" ++ hex ++ " " ++ Text.quoteChar c else "U+" ++ hex

/-- Whether the input starts with a list of characters. -/
def startsWith (cs pre : List Char) : Bool := pre.isPrefixOf cs

/-- `{{- `: a trim marker after a left delimiter. -/
def leftTrim (cs : List Char) : Bool :=
  match cs with
  | '-' :: c :: _ => isBlank c
  | _ => false

/-- ` -}}`: a blank, a trim marker and the right delimiter. -/
def rightTrimDelim (cs : List Char) : Bool :=
  match cs with
  | c :: '-' :: '}' :: '}' :: _ => isBlank c
  | _ => false

/-- Whether the input is at a right delimiter, and whether it carries a trim marker. -/
def atRightDelim (cs : List Char) : Bool × Bool :=
  if rightTrimDelim cs then (true, true)
  else if startsWith cs ['}', '}'] then (true, false)
  else (false, false)

/-- Whether a word ends here: at a blank, the end, one of `.,|:()` or `}}`. -/
def atTerminator (cs : List Char) : Bool :=
  match cs with
  | [] => true
  | c :: _ => isBlank c || c == '.' || c == ',' || c == '|' || c == ':' || c == ')' ||
      c == '(' || startsWith cs ['}', '}']

/-- The lexer's position: the rest of the input, its octet offset and its line. -/
structure Cursor where
  rest : List Char
  pos : Nat
  line : Nat

namespace Cursor

/-- Move past `n` characters. -/
def skip (c : Cursor) (n : Nat) : Cursor :=
  let taken := c.rest.take n
  ⟨c.rest.drop n, c.pos + octets taken, c.line + breaks taken⟩

/-- Move past the leading blanks. -/
def skipBlanks (c : Cursor) : Cursor :=
  c.skip (c.rest.takeWhile isBlank).length

end Cursor

/-- The item for the first `n` characters at a cursor, and the cursor after them. -/
def takeItem (c : Cursor) (kind : ItemKind) (n : Nat) : Item × Cursor :=
  (⟨kind, c.pos, String.ofList (c.rest.take n), c.line⟩, c.skip n)

/-- An error item at a cursor. -/
def errorAt (c : Cursor) (msg : String) : Item := ⟨.error, c.pos, msg, c.line⟩

/-- The length of the word characters at the head. -/
def wordLength (cs : List Char) : Nat := (cs.takeWhile isWordChar).length

/-- The length of a quoted literal that ends at `close`, counting both quotes, or the
error message when the line or the input ends first (`escapes` says whether a backslash
escapes the next character and whether a line break ends the literal). -/
def quotedLength (close : Char) (escapes : Bool) (msg : String) (cs : List Char) :
    Except String Nat :=
  go cs.length (cs.drop 1) 1
where
  go : Nat → List Char → Nat → Except String Nat
    | 0, _, _ => .error msg
    | _ + 1, [], _ => .error msg
    | fuel + 1, c :: rest, n =>
      if escapes && c == '\\' then
        match rest with
        | [] => .error msg
        | d :: rest' => if d == '\n' then .error msg else go fuel rest' (n + 2)
      else if c == close then .ok (n + 1)
      else if escapes && c == '\n' then .error msg
      else go fuel rest (n + 1)

/-- The length of a number as the lexer sees it (sign, base prefix, digits, fraction,
exponent, imaginary mark), and whether it ends properly (not followed by a word
character). -/
def numberLength (cs : List Char) : Nat × Bool :=
  let accept (set : List Char) (xs : List Char) : Nat :=
    match xs with
    | c :: _ => if set.contains c then 1 else 0
    | [] => 0
  let acceptRun (set : List Char) (xs : List Char) : Nat := (xs.takeWhile set.contains).length
  let dec := "0123456789_".toList
  let n0 := accept ['+', '-'] cs
  let r0 := cs.drop n0
  let (n1, digits) :=
    if accept ['0'] r0 == 1 then
      let r1 := r0.drop 1
      if accept ['x', 'X'] r1 == 1 then (2, "0123456789abcdefABCDEF_".toList)
      else if accept ['o', 'O'] r1 == 1 then (2, "01234567_".toList)
      else if accept ['b', 'B'] r1 == 1 then (2, "01_".toList)
      else (1, dec)
    else (0, dec)
  let r1 := r0.drop n1
  let n2 := acceptRun digits r1
  let r2 := r1.drop n2
  let n3 := if accept ['.'] r2 == 1 then 1 + acceptRun digits (r2.drop 1) else 0
  let r3 := r2.drop n3
  let n4 :=
    if digits.length == 11 && accept ['e', 'E'] r3 == 1 then
      let s := accept ['+', '-'] (r3.drop 1)
      1 + s + acceptRun dec (r3.drop (1 + s))
    else if digits.length == 23 && accept ['p', 'P'] r3 == 1 then
      let s := accept ['+', '-'] (r3.drop 1)
      1 + s + acceptRun dec (r3.drop (1 + s))
    else 0
  let r4 := r3.drop n4
  let n5 := accept ['i'] r4
  let r5 := r4.drop n5
  let total := n0 + n1 + n2 + n3 + n4 + n5
  match r5 with
  | c :: _ => if isWordChar c then (total + 1, false) else (total, true)
  | [] => (total, true)

/-- The index of the first `{{` in a list of characters. -/
def findOpen (cs : List Char) : Option Nat :=
  go cs 0
where
  go : List Char → Nat → Option Nat
    | [], _ => none
    | '{' :: '{' :: _, i => some i
    | _ :: rest, i => go rest (i + 1)

/-- The index of the first `*/` in a list of characters. -/
def findCommentEnd (cs : List Char) : Option Nat :=
  go cs 0
where
  go : List Char → Nat → Option Nat
    | [], _ => none
    | '*' :: '/' :: _, i => some i
    | _ :: rest, i => go rest (i + 1)

mutual
/-- The items of the inside of an action, from a cursor, until the right delimiter (and
the text after it) or an error. `depth` counts open parentheses. -/
def lexAction : Nat → Cursor → Nat → List Item
  | 0, c, _ => [errorAt c "unclosed action"]
  | fuel + 1, c, depth =>
    let (isDelim, trim) := atRightDelim c.rest
    if isDelim then
      if depth == 0 then
        let c1 := if trim then c.skip 2 else c
        let (it, c2) := takeItem c1 .rightDelim 2
        let c3 := if trim then c2.skipBlanks else c2
        it :: lexText fuel c3
      else [errorAt c "unclosed left paren"]
    else
      match c.rest with
      | [] => [errorAt c "unclosed action"]
      | ch :: more =>
        if isBlank ch then
          let n := (c.rest.takeWhile isBlank).length
          let after := c.rest.drop n
          -- a trim-marked delimiter after the blanks keeps its own blank
          if (match after with | '-' :: '}' :: '}' :: _ => true | _ => false) then
            if n == 1 then lexAction fuel c depth
            else
              let (it, c2) := takeItem c .space (n - 1)
              it :: lexAction fuel c2 depth
          else
            let (it, c2) := takeItem c .space n
            it :: lexAction fuel c2 depth
        else if ch == '=' then
          let (it, c2) := takeItem c .assign 1
          it :: lexAction fuel c2 depth
        else if ch == ':' then
          match more with
          | '=' :: _ =>
            let (it, c2) := takeItem c .declare 2
            it :: lexAction fuel c2 depth
          | _ => [errorAt c "expected :="]
        else if ch == '|' then
          let (it, c2) := takeItem c .pipe 1
          it :: lexAction fuel c2 depth
        else if ch == '"' then
          match quotedLength '"' true "unterminated quoted string" c.rest with
          | .ok n =>
            let (it, c2) := takeItem c .string n
            it :: lexAction fuel c2 depth
          | .error m => [errorAt c m]
        else if ch == '`' then
          match quotedLength '`' false "unterminated raw quoted string" c.rest with
          | .ok n =>
            let (it, c2) := takeItem c .rawString n
            it :: lexAction fuel c2 depth
          | .error m => [errorAt c m]
        else if ch == '\'' then
          match quotedLength '\'' true "unterminated character constant" c.rest with
          | .ok n =>
            let (it, c2) := takeItem c .charConstant n
            it :: lexAction fuel c2 depth
          | .error m => [errorAt c m]
        else if ch == '$' then
          if atTerminator more then
            let (it, c2) := takeItem c .variable 1
            it :: lexAction fuel c2 depth
          else
            let n := wordLength more
            let after := more.drop n
            if atTerminator after then
              let (it, c2) := takeItem c .variable (n + 1)
              it :: lexAction fuel c2 depth
            else [errorAt c ("bad character " ++ describeChar (after.headD ' '))]
        else if ch == '.' && (match more with | d :: _ => !d.isDigit | [] => false) then
          if atTerminator more then
            let (it, c2) := takeItem c .kwDot 1
            it :: lexAction fuel c2 depth
          else
            let n := wordLength more
            let after := more.drop n
            if atTerminator after then
              let (it, c2) := takeItem c .field (n + 1)
              it :: lexAction fuel c2 depth
            else [errorAt c ("bad character " ++ describeChar (after.headD ' '))]
        else if ch == '.' || ch == '+' || ch == '-' || ch.isDigit then
          let (n, ok) := numberLength c.rest
          if !ok then
            [errorAt c ("bad number syntax: " ++ Text.quote (String.ofList (c.rest.take n)))]
          else
            match c.rest.drop n with
            | s :: _ =>
              if s == '+' || s == '-' then
                let (m, ok2) := numberLength (c.rest.drop n)
                let endsI := (c.rest.take (n + m)).getLast? == some 'i'
                if !ok2 || !endsI then
                  [errorAt c ("bad number syntax: " ++
                    Text.quote (String.ofList (c.rest.take (n + m))))]
                else
                  let (it, c2) := takeItem c .complex (n + m)
                  it :: lexAction fuel c2 depth
              else
                let (it, c2) := takeItem c .number n
                it :: lexAction fuel c2 depth
            | [] =>
              let (it, c2) := takeItem c .number n
              it :: lexAction fuel c2 depth
        else if isWordChar ch then
          let n := wordLength c.rest
          let after := c.rest.drop n
          if !atTerminator after then
            [errorAt c ("bad character " ++ describeChar (after.headD ' '))]
          else
            let word := String.ofList (c.rest.take n)
            let kind : ItemKind :=
              match word with
              | "block" => .kwBlock
              | "break" => .kwBreak
              | "continue" => .kwContinue
              | "define" => .kwDefine
              | "else" => .kwElse
              | "end" => .kwEnd
              | "if" => .kwIf
              | "range" => .kwRange
              | "nil" => .kwNil
              | "template" => .kwTemplate
              | "with" => .kwWith
              | "true" | "false" => .bool
              | _ => .identifier
            let (it, c2) := takeItem c kind n
            it :: lexAction fuel c2 depth
        else if ch == '(' then
          let (it, c2) := takeItem c .leftParen 1
          it :: lexAction fuel c2 (depth + 1)
        else if ch == ')' then
          if depth == 0 then [errorAt c "unexpected right paren"]
          else
            let (it, c2) := takeItem c .rightParen 1
            it :: lexAction fuel c2 (depth - 1)
        else if ch.toNat < 0x80 && Text.isPrintable ch then
          let (it, c2) := takeItem c .char 1
          it :: lexAction fuel c2 depth
        else [errorAt c ("unrecognized character in action: " ++ describeChar ch)]

/-- The items from text mode: a run of text, then an action, until the end or an error. -/
def lexText : Nat → Cursor → List Item
  | 0, c => [⟨.eof, c.pos, "", c.line⟩]
  | fuel + 1, c =>
    match findOpen c.rest with
    | none =>
      if c.rest.isEmpty then [⟨.eof, c.pos, "", c.line⟩]
      else
        let (it, c2) := takeItem c .text c.rest.length
        it :: [⟨.eof, c2.pos, "", c2.line⟩]
    | some x =>
      let afterOpen := c.rest.drop (x + 2)
      let trimmed :=
        if leftTrim afterOpen then
          ((c.rest.take x).reverse.takeWhile isBlank).length
        else 0
      let textLen := x - trimmed
      let (textItems, c1) :=
        if textLen > 0 then
          let (it, c2) := takeItem c .text textLen
          ([it], c2.skip trimmed)
        else ([], c.skip x)
      -- now at the left delimiter
      let markerLen := if leftTrim afterOpen then 2 else 0
      let afterMarker := afterOpen.drop markerLen
      if startsWith afterMarker ['/', '*'] then
        let c2 := c1.skip (2 + markerLen + 2)
        match findCommentEnd c2.rest with
        | none => textItems ++ [errorAt (c1.skip (2 + markerLen)) "unclosed comment"]
        | some y =>
          let c3 := c2.skip (y + 2)
          let (isDelim, trim) := atRightDelim c3.rest
          if !isDelim then
            textItems ++ [errorAt (c1.skip (2 + markerLen)) "comment ends before closing delimiter"]
          else
            let c4 := c3.skip ((if trim then 2 else 0) + 2)
            let c5 := if trim then c4.skipBlanks else c4
            textItems ++ lexText fuel c5
      else
        let (it, c2) := takeItem c1 .leftDelim 2
        textItems ++ it :: lexAction fuel (c2.skip markerLen) 0
end

/-- The items of a template text. -/
def lex (s : String) : List Item :=
  lexText (2 * s.length + 2) ⟨s.toList, 0, 1⟩

end Windowing.Template
