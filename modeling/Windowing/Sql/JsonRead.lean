import Windowing.Sql.JsonValue

set_option autoImplicit false

/-! # Reading JSON text

JSON text is read with the JSON5 extensions allowed: comments and more kinds of white
space, a comma after the last item, strings in single quotes with more escapes, object
labels written as plain names, hexadecimal integers, a point with no digit on one side,
a leading plus sign, and the names `Infinity` and `NaN` (the first read as a real too large
for a double, the second as null). Whether any of them was used is kept, since a text that
uses one is not standard JSON.

Reading stops at the end of the text or at a NUL character. When the text does not read,
the place where reading failed is kept (for `json_error_position`). Nesting goes at most
1000 deep. -/

namespace Windowing.Sql

/-- What reading has found out so far: whether a JSON5 extension was used, and the
position of the last mark or failure met. -/
structure ReadNote where
  nonstandard : Bool := false
  errorAt : Nat := 0
  deriving Inhabited

/-- A reader of JSON text. -/
abbrev JsonReadM := StateM ReadNote

/-- What one step of reading finds at a position: a value and where it ends, a closing
bracket or separator (its position is the note's), the end of the text, or a failure
(its position is the note's). -/
inductive ReadStep where
  | value (v : JsonValue) (next : Nat)
  | mark (c : Char)
  | finished
  | failed
  deriving Inhabited

/-- The character at a position, NUL past the end. -/
def charAt (s : Array Char) (i : Nat) : Char := s.getD i '\x00'

/-- Note that a JSON5 extension was used. -/
def markNonstandard : JsonReadM Unit := modify fun n => { n with nonstandard := true }

/-- Fail at a position. -/
def failAt (i : Nat) : JsonReadM ReadStep := do
  modify fun n => { n with errorAt := i }
  pure .failed

/-- Whether a character is standard JSON white space. -/
def isJsonSpace (c : Char) : Bool := c == ' ' || c == '\t' || c == '\n' || c == '\r'

/-- Whether a character is one of the white space characters beyond ASCII that JSON5
allows. -/
def isWideSpace (c : Char) : Bool :=
  let n := c.toNat
  n == 0xa0 || n == 0x1680 || (0x2000 ≤ n && n ≤ 0x200a) || n == 0x2028 || n == 0x2029 ||
    n == 0x202f || n == 0x205f || n == 0x3000 || n == 0xfeff

/-- Whether a character is an ASCII letter or digit. -/
def isAsciiAlnum (c : Char) : Bool := c.isAlphanum && c.toNat < 0x80

/-- The number of characters of JSON5 white space and comments at a position. -/
def json5SpaceLength (s : Array Char) (i : Nat) : Nat :=
  let rec go : Nat → Nat → Nat
    | 0, n => n
    | fuel + 1, n =>
      let c := charAt s (i + n)
      if c == ' ' || c == '\t' || c == '\n' || c == '\r' || c == '\x0b' || c == '\x0c' || isWideSpace c then
        go fuel (n + 1)
      else if c == '/' then
        let c1 := charAt s (i + n + 1)
        if c1 == '*' && charAt s (i + n + 2) != '\x00' then
          -- a block comment runs to the first "*/" after its opening
          let rec close : Nat → Nat → Option Nat
            | 0, _ => none
            | f + 1, j =>
              let d := charAt s j
              if d == '\x00' then none
              else if d == '/' && charAt s (j - 1) == '*' then some (j + 1)
              else close f (j + 1)
          match close (s.size + 1) (i + n + 3) with
          | some e => go fuel (e - i)
          | none => n
        else if c1 == '/' then
          -- a line comment runs to the end of the line
          let rec lineEnd : Nat → Nat → Nat
            | 0, j => j
            | f + 1, j =>
              let d := charAt s j
              if d == '\x00' then j
              else if d == '\n' || d == '\r' || d == '\u2028' || d == '\u2029' then j + 1
              else lineEnd f (j + 1)
          go fuel (lineEnd (s.size + 1) (i + n + 2) - i)
        else n
      else n
  go (s.size + 1) 0

/-- Whether four hexadecimal digits start at a position. -/
def hex4At (s : Array Char) (i : Nat) : Bool := (List.range 4).all fun k => isHexDigit (charAt s (i + k))

/-- Whether a character may start a plain name label. -/
def isLabelStart (c : Char) : Bool := c.isAlpha || c == '_' || c == '$' || c.toNat ≥ 0x80

/-- Whether a character may continue a plain name label. -/
def isLabelChar (c : Char) : Bool := isLabelStart c || c.isDigit

/-- The characters from one position to another. -/
def sliceChars (s : Array Char) (a b : Nat) : String := String.ofList ((s.toList.drop a).take (b - a))

/-- Whether the text at a position starts with a word, ASCII letters compared without case. -/
def wordAt (s : Array Char) (i : Nat) (w : String) : Bool :=
  w.toList.zipIdx.all fun (c, k) => (charAt s (i + k)).toLower == c.toLower

/-- Read a string in quotes starting at a position. -/
def readString (s : Array Char) (i : Nat) : JsonReadM ReadStep := do
  let delim := charAt s i
  if delim == '\'' then markNonstandard
  let rec go : Nat → Nat → StrForm → JsonReadM ReadStep
    | 0, j, _ => failAt j
    | fuel + 1, j, form => do
      let c := charAt s j
      if c == delim then pure (.value (.str form (sliceChars s (i + 1) j)) (j + 1))
      else if c == '\\' then
        let e := charAt s (j + 1)
        if e == '"' || e == '\\' || e == '/' || e == 'b' || e == 'f' || e == 'n' || e == 'r' ||
            e == 't' || (e == 'u' && hex4At s (j + 2)) then
          go fuel (j + 2) (if form == .plain then .escaped else form)
        else if e == '\'' || e == '0' || e == 'v' || e == '\n' || e == '\u2028' || e == '\u2029' ||
            (e == 'x' && isHexDigit (charAt s (j + 2)) && isHexDigit (charAt s (j + 3))) then
          markNonstandard
          go fuel (j + 2) .json5
        else if e == '\r' then
          markNonstandard
          go fuel (if charAt s (j + 2) == '\n' then j + 3 else j + 2) .json5
        else failAt (j + 1)
      else if c.toNat ≤ 0x1f then
        if c == '\x00' then failAt j
        else
          markNonstandard
          go fuel (j + 1) .json5
      else if c == '"' then go fuel (j + 1) .json5
      else go fuel (j + 1) form
  go (s.size + 2) (i + 1) .plain

/-- The end of a run of digits. -/
def digitsEnd (s : Array Char) (j : Nat) : Nat :=
  let rec go : Nat → Nat → Nat
    | 0, k => k
    | f + 1, k => if (charAt s k).isDigit then go f (k + 1) else k
  go (s.size + 1) j

/-- The end of a run of hexadecimal digits. -/
def hexDigitsEnd (s : Array Char) (j : Nat) : Nat :=
  let rec go : Nat → Nat → Nat
    | 0, k => k
    | f + 1, k => if isHexDigit (charAt s k) then go f (k + 1) else k
  go (s.size + 1) j

/-- A number ending at a position, of a kind (bit 1: JSON5, bit 2: real), written from a
position (a leading plus sign left out). -/
def jsonNumberStep (s : Array Char) (i j : Nat) (t : Nat) : ReadStep :=
  let i := if charAt s i == '+' then i + 1 else i
  let form : NumForm := if t == 0 then .int else if t == 1 then .int5 else if t == 2 then .float else .float5
  .value (.num form (sliceChars s i j)) j

/-- Read the digits of a number after its first character, from a position; `t` says
what is known of its kind so far. -/
def readNumberTail (s : Array Char) (i : Nat) (t0 : Nat) : JsonReadM ReadStep := do
  let rec go : Nat → Nat → Nat → Bool → JsonReadM ReadStep
    | 0, j, _, _ => failAt j
    | fuel + 1, j, t, seenE => do
      let c := charAt s j
      if c.isDigit then go fuel (j + 1) t seenE
      else if c == '.' then
        if t / 2 % 2 == 1 then failAt j else go fuel (j + 1) (t ||| 2) seenE
      else if c == 'e' || c == 'E' then
        let prev := charAt s (j - 1)
        let t ← if prev < '0' then
            if prev == '.' && j ≥ i + 2 && (charAt s (j - 2)).isDigit then do
              markNonstandard
              pure (t ||| 1)
            else pure 99
          else pure t
        if t == 99 || seenE then failAt j
        else
          let j := if charAt s (j + 1) == '+' || charAt s (j + 1) == '-' then j + 1 else j
          if !(charAt s (j + 1)).isDigit then failAt j
          else go fuel (j + 1) (t ||| 2) true
      else
        let prev := charAt s (j - 1)
        if prev < '0' then
          if prev == '.' && j ≥ i + 2 && (charAt s (j - 2)).isDigit then do
            markNonstandard
            pure (jsonNumberStep s i j (t ||| 1))
          else failAt j
        else pure (jsonNumberStep s i j t)
  go (s.size + 2) (i + 1) t0 false

/-- Read a number starting at a position (a sign, a digit or a point). -/
def readNumberAt (s : Array Char) (i : Nat) : JsonReadM ReadStep := do
  let c := charAt s i
  if c == '.' then
    if (charAt s (i + 1)).isDigit then
      markNonstandard
      readNumberTail s i 3
    else failAt i
  else
    if c == '+' then markNonstandard
    if c == '0' then
      let x := charAt s (i + 1)
      if (x == 'x' || x == 'X') && isHexDigit (charAt s (i + 2)) then
        markNonstandard
        pure (jsonNumberStep s i (hexDigitsEnd s (i + 3)) 1)
      else if x.isDigit then failAt (i + 1)
      else readNumberTail s i 0
    else if c == '+' || c == '-' then
      let d := charAt s (i + 1)
      if !d.isDigit then
        if (d == 'I' || d == 'i') && wordAt s (i + 1) "inf" then
          markNonstandard
          let text := if c == '-' then "-9e999" else "9e999"
          let len := if wordAt s (i + 4) "inity" then 9 else 4
          pure (.value (.num .float text) (i + len))
        else if d == '.' then
          markNonstandard
          readNumberTail s i 1
        else failAt i
      else if d == '0' then
        let x := charAt s (i + 2)
        if x.isDigit then failAt (i + 1)
        else if (x == 'x' || x == 'X') && isHexDigit (charAt s (i + 3)) then
          markNonstandard
          pure (jsonNumberStep s i (hexDigitsEnd s (i + 4)) 1)
        else readNumberTail s i 0
      else readNumberTail s i 0
    else readNumberTail s i 0

/-- The names that read as a number or null: their first letter, length, text, and
whether they are the real too large for a double. -/
def specialNames : List (Nat × String × Bool) :=
  [(3, "inf", true), (8, "infinity", true), (3, "nan", false), (4, "qnan", false), (4, "snan", false)]

/-- Read one of the special names at a position. -/
def readSpecialName (s : Array Char) (i : Nat) : JsonReadM ReadStep := do
  let hit := specialNames.find? fun (n, w, _) =>
    (charAt s i).toLower == w.toList.headD ' ' && wordAt s i w && !isAsciiAlnum (charAt s (i + n))
  match hit with
  | some (n, _, isReal) =>
    markNonstandard
    pure (.value (if isReal then .num .float "9e999" else .null) (i + n))
  | none => failAt i

/-- Read a word literal at a position: `true`, `false` or `null`. -/
def readLiteral (s : Array Char) (i : Nat) (w : String) (v : JsonValue) : Option ReadStep :=
  let n := w.length
  if w.toList.zipIdx.all (fun (c, k) => charAt s (i + k) == c) && !isAsciiAlnum (charAt s (i + n)) then
    some (.value v (i + n))
  else none

/-- Skip standard white space from a position. -/
def skipSpaces (s : Array Char) (j : Nat) : Nat :=
  let rec go : Nat → Nat → Nat
    | 0, k => k
    | f + 1, k => if isJsonSpace (charAt s k) then go f (k + 1) else k
  go (s.size + 1) j

/-- The position recorded by the last mark or failure. -/
def notedPosition : JsonReadM Nat := do return (← get).errorAt

mutual

/-- Read a value starting at a position, nested `depth` deep. -/
def readValue : Nat → Nat → Array Char → Nat → JsonReadM ReadStep
  | 0, _, _, i => failAt i
  | fuel + 1, depth, s, i => do
    let c := charAt s i
    match c with
    | '{' => if depth ≥ 1000 then failAt i else readObject fuel (depth + 1) s (i + 1) []
    | '[' => if depth ≥ 1000 then failAt i else readArray fuel (depth + 1) s (i + 1) []
    | '"' | '\'' => readString s i
    | 't' =>
      match readLiteral s i "true" (.bool true) with
      | some r => pure r
      | none => failAt i
    | 'f' =>
      match readLiteral s i "false" (.bool false) with
      | some r => pure r
      | none => failAt i
    | 'n' =>
      match readLiteral s i "null" .null with
      | some r => pure r
      | none => readSpecialName s i
    | '}' | ']' | ',' | ':' => do
      modify fun n => { n with errorAt := i }
      pure (.mark c)
    | '\x00' => pure .finished
    | ' ' | '\t' | '\n' | '\r' => readValue fuel depth s (skipSpaces s i)
    | _ =>
      if c == '+' || c == '-' || c == '.' || c.isDigit then readNumberAt s i
      else if c == '\x0b' || c == '\x0c' || c == '/' || isWideSpace c then
        let n := json5SpaceLength s i
        if n > 0 then do
          markNonstandard
          readValue fuel depth s (i + n)
        else failAt i
      else readSpecialName s i

/-- Read the items of an array from a position, after those read so far. -/
def readArray : Nat → Nat → Array Char → Nat → List JsonValue → JsonReadM ReadStep
  | 0, _, _, j, _ => failAt j
  | fuel + 1, depth, s, j, items => do
    match ← readValue fuel depth s j with
    | .value v x =>
      let items := items ++ [v]
      let c := charAt s x
      if c == ',' then readArray fuel depth s (x + 1) items
      else if c == ']' then pure (.value (.arr items) (x + 1))
      else
        let k := if isJsonSpace c then skipSpaces s x else x
        let d := charAt s k
        if isJsonSpace c && d == ',' then readArray fuel depth s (k + 1) items
        else if isJsonSpace c && d == ']' then pure (.value (.arr items) (k + 1))
        else
          match ← readValue fuel depth s k with
          | .mark ',' => readArray fuel depth s ((← notedPosition) + 1) items
          | .mark ']' => pure (.value (.arr items) ((← notedPosition) + 1))
          | _ => failAt k
    | .mark ']' =>
      if !items.isEmpty then markNonstandard
      pure (.value (.arr items) ((← notedPosition) + 1))
    | .failed => pure .failed
    | _ => failAt j

/-- Read the members of an object from a position, after those read so far. -/
def readObject : Nat → Nat → Array Char → Nat → List (JsonLabel × JsonValue) → JsonReadM ReadStep
  | 0, _, _, j, _ => failAt j
  | fuel + 1, depth, s, j, fields => do
    -- the label: a string, or a plain name
    let first ← readValue fuel depth s j
    let labelStep : Option (Option (JsonLabel × Nat)) ← match first with
      | .value (.str form text) x => pure (some (some ({ form, text }, x)))
      | .value _ _ => do
        let _ ← failAt j
        pure none
      | .mark '}' => pure (some none)
      | other => do
        let k := j + json5SpaceLength s j
        let c := charAt s k
        if isLabelStart c || (c == '\\' && charAt s (k + 1) == 'u' && hex4At s (k + 2)) then
          let rec nameEnd : Nat → Nat → StrForm → Nat × StrForm
            | 0, e, f => (e, f)
            | g + 1, e, f =>
              let d := charAt s e
              if isLabelChar d && !isWideSpace d then nameEnd g (e + 1) f
              else if d == '\\' && charAt s (e + 1) == 'u' && hex4At s (e + 2) then nameEnd g (e + 1) .escaped
              else (e, f)
          let startForm : StrForm := if c == '\\' then .escaped else .plain
          let (e, form) := nameEnd (s.size + 1) (k + 1) startForm
          markNonstandard
          pure (some (some ({ form, text := sliceChars s k e }, e)))
        else
          match other with
          | .failed => pure none
          | _ => do
            let _ ← failAt k
            pure none
    match labelStep with
    | none => pure .failed
    | some none =>
      if !fields.isEmpty then markNonstandard
      pure (.value (.obj fields) ((← notedPosition) + 1))
    | some (some (label, x)) =>
      -- the colon
      let afterColon : Option Nat ← do
        if charAt s x == ':' then pure (some (x + 1))
        else
          let k := if isJsonSpace (charAt s x) then skipSpaces s x else x
          if isJsonSpace (charAt s x) && charAt s k == ':' then pure (some (k + 1))
          else
            match ← readValue fuel depth s k with
            | .mark ':' => pure (some ((← notedPosition) + 1))
            | .failed => pure none
            | _ => do
              let _ ← failAt k
              pure none
      match afterColon with
      | none => pure .failed
      | some vj =>
        match ← readValue fuel depth s vj with
        | .value v x =>
          let fields := fields ++ [(label, v)]
          let c := charAt s x
          if c == ',' then readObject fuel depth s (x + 1) fields
          else if c == '}' then pure (.value (.obj fields) (x + 1))
          else
            let k := if isJsonSpace c then skipSpaces s x else x
            let d := charAt s k
            if isJsonSpace c && d == ',' then readObject fuel depth s (k + 1) fields
            else if isJsonSpace c && d == '}' then pure (.value (.obj fields) (k + 1))
            else
              match ← readValue fuel depth s k with
              | .mark ',' => readObject fuel depth s ((← notedPosition) + 1) fields
              | .mark '}' => pure (.value (.obj fields) ((← notedPosition) + 1))
              | _ => failAt k
        | .failed => pure .failed
        | _ => failAt vj

end

/-- How a JSON text reads: its value and whether it used JSON5 extensions, or the
position (counted in characters from 1) where it failed. -/
def readJsonText (text : String) : Except Nat (JsonValue × Bool) :=
  let chars := (text.toList.takeWhile (· != '\x00')).toArray
  let (step, note) := (readValue (4 * chars.size + 8) 0 chars 0).run {}
  match step with
  | .value v i =>
    let k := skipSpaces chars i
    if charAt chars k == '\x00' then .ok (v, note.nonstandard)
    else
      let m := k + json5SpaceLength chars k
      if charAt chars m == '\x00' then .ok (v, true)
      else .error (note.errorAt + 1)
  | _ => .error (note.errorAt + 1)

end Windowing.Sql
