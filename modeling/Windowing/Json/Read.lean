import Windowing.Json
import Windowing.Text.Quote
import Windowing.Text.Numeral

set_option autoImplicit false

/-! # Reading JSON text

Text is checked first, one character at a time, by a machine that refuses at the first
character that rules the text out, so the error names that character and what was
expected there: `invalid character 'x' looking for beginning of value`, `... after object
key`, `... in string literal` and so on, or `unexpected end of JSON input` when the text
stops inside a value. Only the blanks space, tab, line feed and carriage return may stand
between tokens. A character outside ASCII that is refused is named by its first octet, read
as a Latin-1 character. At the end of the text the machine is given one more blank, so a
number or literal cut short there is refused as such.

Text that passes is then read into a value: strings with their escapes resolved (a lone
surrogate half becomes U+FFFD), numbers with no fraction or exponent as integers, the
others as doubles, and object members in the order they are written, repeats kept. -/

namespace Windowing.Json

/-- What a container expects next. -/
inductive Frame where
  | objectKey
  | objectValue
  | arrayValue
  deriving BEq

/-- Where the checking machine stands. -/
inductive CheckState where
  | beginValue
  | beginValueOrEmpty
  | beginStringOrEmpty
  | beginString
  | endValue
  | endTop
  | inString
  | inStringEsc
  /-- Inside `\u`, with this many hexadecimal digits still owed. -/
  | inStringHex (owed : Nat)
  | neg
  | zero
  | digits
  | dot
  | fraction
  | exponent
  | exponentSign
  | exponentDigits
  /-- Inside the literal `word`, with these characters still owed. -/
  | literal (word : String) (owed : List Char)

/-- The checking machine: its state and the containers open around it. -/
structure Checker where
  state : CheckState := .beginValue
  stack : List Frame := []
  /-- Whether a whole top-level value has been read. -/
  ended : Bool := false

/-- The deepest nesting of containers allowed. -/
def maxDepth : Nat := 10000

/-- The character an error names: an ASCII character itself, anything else by its first
octet. -/
def refusedChar (c : Char) : Char :=
  if c.toNat < 0x80 then c
  else match (Utf8.bytes c.toString).head? with
    | some b => Char.ofNat b.toNat
    | none => c

/-- The error for a character refused in a context. -/
def refuse (c : Char) (context : String) : String :=
  "invalid character " ++ Text.quoteChar (refusedChar c) ++ " " ++ context

/-- Whether a character is a blank between tokens. -/
def isSpace (c : Char) : Bool := c == ' ' || c == '\t' || c == '\n' || c == '\r'

/-- Whether a character is a hexadecimal digit. -/
def isHex (c : Char) : Bool :=
  c.isDigit || ('a' ≤ c && c ≤ 'f') || ('A' ≤ c && c ≤ 'F')

namespace Checker

/-- Open a container. -/
def push (k : Checker) (c : Char) (f : Frame) (next : CheckState) : Except String Checker :=
  if k.stack.length + 1 ≤ maxDepth then .ok { k with stack := f :: k.stack, state := next }
  else .error (refuse c "exceeded max depth")

/-- Close the innermost container. -/
def pop (k : Checker) : Checker :=
  match k.stack with
  | [] => k
  | _ :: rest =>
    if rest.isEmpty then { k with stack := rest, state := .endTop, ended := true }
    else { k with stack := rest, state := .endValue }

/-- After a value, in the innermost container. -/
def endValue (k : Checker) (c : Char) : Except String Checker :=
  match k.stack with
  | [] =>
    if isSpace c then .ok { k with state := .endTop, ended := true }
    else .error (refuse c "after top-level value")
  | f :: rest =>
    if isSpace c then .ok { k with state := .endValue }
    else match f with
      | .objectKey =>
        if c == ':' then .ok { k with stack := .objectValue :: rest, state := .beginValue }
        else .error (refuse c "after object key")
      | .objectValue =>
        if c == ',' then .ok { k with stack := .objectKey :: rest, state := .beginString }
        else if c == '}' then .ok k.pop
        else .error (refuse c "after object key:value pair")
      | .arrayValue =>
        if c == ',' then .ok { k with state := .beginValue }
        else if c == ']' then .ok k.pop
        else .error (refuse c "after array element")

/-- At the start of a value. -/
def beginValue (k : Checker) (c : Char) : Except String Checker :=
  if isSpace c then .ok k
  else match c with
    | '{' => k.push c .objectKey .beginStringOrEmpty
    | '[' => k.push c .arrayValue .beginValueOrEmpty
    | '"' => .ok { k with state := .inString }
    | '-' => .ok { k with state := .neg }
    | '0' => .ok { k with state := .zero }
    | 't' => .ok { k with state := .literal "true" ['r', 'u', 'e'] }
    | 'f' => .ok { k with state := .literal "false" ['a', 'l', 's', 'e'] }
    | 'n' => .ok { k with state := .literal "null" ['u', 'l', 'l'] }
    | _ =>
      if '1' ≤ c && c ≤ '9' then .ok { k with state := .digits }
      else .error (refuse c "looking for beginning of value")

/-- After a number's integer part. -/
def afterInteger (k : Checker) (c : Char) : Except String Checker :=
  if c == '.' then .ok { k with state := .dot }
  else if c == 'e' || c == 'E' then .ok { k with state := .exponent }
  else k.endValue c

/-- At the start of an exponent's digits (after its sign, if any). -/
def exponentStart (k : Checker) (c : Char) : Except String Checker :=
  if c.isDigit then .ok { k with state := .exponentDigits }
  else .error (refuse c "in exponent of numeric literal")

/-- One step of the machine. -/
def step (k : Checker) (c : Char) : Except String Checker :=
  match k.state with
  | .beginValue => k.beginValue c
  | .beginValueOrEmpty =>
    if isSpace c then .ok k
    else if c == ']' then k.endValue c
    else k.beginValue c
  | .beginStringOrEmpty =>
    if isSpace c then .ok k
    else if c == '}' then
      { k with stack := match k.stack with
          | _ :: rest => .objectValue :: rest
          | [] => [] }.endValue c
    else if c == '"' then .ok { k with state := .inString }
    else .error (refuse c "looking for beginning of object key string")
  | .beginString =>
    if isSpace c then .ok k
    else if c == '"' then .ok { k with state := .inString }
    else .error (refuse c "looking for beginning of object key string")
  | .endValue => k.endValue c
  | .endTop =>
    if isSpace c then .ok k else .error (refuse c "after top-level value")
  | .inString =>
    if c == '"' then .ok { k with state := .endValue }
    else if c == '\\' then .ok { k with state := .inStringEsc }
    else if c.toNat < 0x20 then .error (refuse c "in string literal")
    else .ok k
  | .inStringEsc =>
    if ['b', 'f', 'n', 'r', 't', '\\', '/', '"'].contains c then .ok { k with state := .inString }
    else if c == 'u' then .ok { k with state := .inStringHex 4 }
    else .error (refuse c "in string escape code")
  | .inStringHex owed =>
    if isHex c then
      .ok { k with state := if owed ≤ 1 then .inString else .inStringHex (owed - 1) }
    else .error (refuse c "in \\u hexadecimal character escape")
  | .neg =>
    if c == '0' then .ok { k with state := .zero }
    else if '1' ≤ c && c ≤ '9' then .ok { k with state := .digits }
    else .error (refuse c "in numeric literal")
  | .zero => k.afterInteger c
  | .digits => if c.isDigit then .ok k else k.afterInteger c
  | .dot =>
    if c.isDigit then .ok { k with state := .fraction }
    else .error (refuse c "after decimal point in numeric literal")
  | .fraction =>
    if c.isDigit then .ok k
    else if c == 'e' || c == 'E' then .ok { k with state := .exponent }
    else k.endValue c
  | .exponent =>
    if c == '+' || c == '-' then .ok { k with state := .exponentSign }
    else k.exponentStart c
  | .exponentSign => k.exponentStart c
  | .exponentDigits => if c.isDigit then .ok k else k.endValue c
  | .literal word owed =>
    match owed with
    | [] => k.endValue c
    | [d] =>
      if c == d then .ok { k with state := .endValue }
      else .error (refuse c ("in literal " ++ word ++ " (expecting " ++ Text.quoteChar d ++ ")"))
    | d :: more =>
      if c == d then .ok { k with state := .literal word more }
      else .error (refuse c ("in literal " ++ word ++ " (expecting " ++ Text.quoteChar d ++ ")"))

end Checker

/-- Check JSON text: the first error, if any. -/
def check (text : String) : Except String Unit := do
  let k ← text.toList.foldlM Checker.step {}
  if k.ended then pure ()
  else
    let k ← k.step ' '
    if k.ended then pure () else throw "unexpected end of JSON input"

/-! ## Reading checked text into a value -/

/-- The value of hexadecimal digits. -/
def hexValue (cs : List Char) : Nat :=
  cs.foldl (fun n c =>
    n * 16 + if c.isDigit then c.toNat - 48
      else if 'a' ≤ c && c ≤ 'f' then c.toNat - 87 else c.toNat - 55) 0

/-- The character of a code, U+FFFD for a surrogate half. -/
def codeChar (n : Nat) : Char :=
  if 0xD800 ≤ n && n < 0xE000 then '\uFFFD' else Char.ofNat n

/-- Whether a code is the first half of a surrogate pair. -/
def isHighHalf (n : Nat) : Bool := 0xD800 ≤ n && n < 0xDC00

/-- Whether a code is the second half of a surrogate pair. -/
def isLowHalf (n : Nat) : Bool := 0xDC00 ≤ n && n < 0xE000

/-- The characters of a string body up to its closing quote, and the rest after it. A
first surrogate half joins the escape after it when that is a second half; otherwise it
is U+FFFD and the escape after it is read on its own. -/
def readString : List Char → List Char → Option (String × List Char)
  | [], _ => none
  | '"' :: rest, acc => some (String.ofList acc.reverse, rest)
  | '\\' :: 'u' :: a :: b :: c :: d :: rest, acc =>
    let hi := hexValue [a, b, c, d]
    if isHighHalf hi then
      match hr : rest with
      | '\\' :: 'u' :: e :: f :: g :: h :: more =>
        let lo := hexValue [e, f, g, h]
        if isLowHalf lo && [e, f, g, h].all isHex then
          readString more (Char.ofNat (0x10000 + (hi - 0xD800) * 0x400 + (lo - 0xDC00)) :: acc)
        else readString rest ('\uFFFD' :: acc)
      | _ => readString rest ('\uFFFD' :: acc)
    else readString rest (codeChar hi :: acc)
  | '\\' :: e :: rest, acc =>
    match e with
    | 'b' => readString rest ('\x08' :: acc)
    | 'f' => readString rest ('\x0c' :: acc)
    | 'n' => readString rest ('\n' :: acc)
    | 'r' => readString rest ('\r' :: acc)
    | 't' => readString rest ('\t' :: acc)
    | c => readString rest (c :: acc)
  | c :: rest, acc => readString rest (c :: acc)
  termination_by cs => cs.length
  decreasing_by
    all_goals simp_wf
    all_goals (try simp only [hr, List.length_cons])
    all_goals omega

/-- Leave out blanks at the front. -/
def skipSpace (cs : List Char) : List Char := cs.dropWhile isSpace

/-- A number at the front, and the rest after it: an integer when it has no fraction or
exponent, else a double (an infinity when too large). -/
def readNumber (cs : List Char) : Option (Json × List Char) :=
  let isPart (c : Char) : Bool := c.isDigit || c == '-' || c == '+' || c == '.' || c == 'e' || c == 'E'
  let body := cs.takeWhile isPart
  let rest := cs.drop body.length
  if body.isEmpty then none
  else
    let text := String.ofList body
    if body.any (fun c => c == '.' || c == 'e' || c == 'E') then
      match Text.parseDecimalFloat text with
      | some f => some (.float f, rest)
      | none => some (.float (if body.head? == some '-' then -1.0 / 0.0 else 1.0 / 0.0), rest)
    else
      match text.toInt? with
      | some i => some (.int i, rest)
      | none => none

mutual

/-- A value at the front of checked text, and the rest after it. -/
def readValue : Nat → List Char → Option (Json × List Char)
  | 0, _ => none
  | fuel + 1, cs =>
    match skipSpace cs with
    | '{' :: rest => readMembers fuel rest []
    | '[' :: rest => readItems fuel rest []
    | '"' :: rest => (readString rest []).map fun r => (.str r.1, r.2)
    | 't' :: 'r' :: 'u' :: 'e' :: rest => some (.bool true, rest)
    | 'f' :: 'a' :: 'l' :: 's' :: 'e' :: rest => some (.bool false, rest)
    | 'n' :: 'u' :: 'l' :: 'l' :: rest => some (.null, rest)
    | other => readNumber other

/-- Array elements up to the closing bracket. -/
def readItems : Nat → List Char → List Json → Option (Json × List Char)
  | 0, _, _ => none
  | fuel + 1, cs, acc =>
    match skipSpace cs with
    | ']' :: rest => some (.arr acc.reverse, rest)
    | more => do
      let (v, r) ← readValue fuel more
      match skipSpace r with
      | ',' :: r2 => readItems fuel r2 (v :: acc)
      | ']' :: r2 => some (.arr (v :: acc).reverse, r2)
      | _ => none

/-- Object members up to the closing brace. -/
def readMembers : Nat → List Char → List (String × Json) → Option (Json × List Char)
  | 0, _, _ => none
  | fuel + 1, cs, acc =>
    match skipSpace cs with
    | '}' :: rest => some (.obj acc.reverse, rest)
    | '"' :: more => do
      let (k, r) ← readString more []
      match skipSpace r with
      | ':' :: r2 => do
        let (v, r3) ← readValue fuel r2
        match skipSpace r3 with
        | ',' :: r4 => readMembers fuel r4 ((k, v) :: acc)
        | '}' :: r4 => some (.obj ((k, v) :: acc).reverse, r4)
        | _ => none
      | _ => none
    | _ => none

end

/-- Read JSON text: the first error the checking machine finds, or the value. -/
def read (text : String) : Except String Json := do
  check text
  match readValue (text.length + 1) text.toList with
  | some (v, _) => pure v
  | none => throw "unexpected end of JSON input"

/-- The kind of a value, as type errors name it. -/
def kindName : Json → String
  | .null => "null"
  | .bool _ => "bool"
  | .int _ | .float _ => "number"
  | .str _ => "string"
  | .arr _ => "array"
  | .obj _ => "object"

/-- A value of the wrong kind for its place: the kind found, where it stands (the name of a
struct and a field path in it) unless it is the whole text, and the type the place wants. -/
structure TypeMismatch where
  kind : String
  place : Option (String × String)
  type : String

/-- The text of a type mismatch. -/
def TypeMismatch.render (e : TypeMismatch) : String :=
  match e.place with
  | some (s, f) =>
    "json: cannot unmarshal " ++ e.kind ++ " into Go struct field " ++ s ++ "." ++ f ++
      " of type " ++ e.type
  | none => "json: cannot unmarshal " ++ e.kind ++ " into Go value of type " ++ e.type

/-- Read a value into a text field of a record: a string is stored, `null` leaves the field as
it is, and any other kind is a type error, noted by `fail` with the name of the kind. -/
def readStringInto {σ : Type} (fail : σ → String → σ) (set : σ → String → σ) (w : σ) : Json → σ
  | .str s => set w s
  | .null => w
  | j => fail w j.kindName

end Windowing.Json
