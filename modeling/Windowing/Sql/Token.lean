set_option autoImplicit false

/-! # Tokens of SQL text

SQL text is split into tokens, leaving out blanks (space, tab, newline, form feed,
carriage return), `--` comments (to the end of the line) and `/* */` comments (to the end
of the text when not closed):

* a *word*: a letter, `_` or a character beyond ASCII, then those, digits and `$`; it is a
  keyword or a name;
* a *quoted name*: in `"` or back quotes (a doubled quote stands for one), or in brackets;
* a *string* in `'` (a doubled `'` stands for one);
* a *blob* `x'…'` of an even number of hexadecimal digits;
* a *number*: decimal digits with a point and an exponent (or a point and digits), or
  `0x` and hexadecimal digits;
* a *variable*: `?` and digits, or `:`, `@`, `$` or `#` and a name;
* an operator or punctuation mark.

A number followed by a character of a word, a quote or bracket that is not closed, a
blob literal that is not well formed, and any other character form an *illegal* token,
which is refused as unrecognized when it is reached. -/

namespace Windowing.Sql

/-- The kinds of tokens. -/
inductive TokenKind where
  | word
  | quoted
  | string
  | blob
  | integer
  | float
  | variable
  | op
  | illegal
  deriving BEq, Inhabited

/-- A token: its kind, its text as written, its value (the text inside quotes, the digits
of a blob), and where it starts in the SQL text (in characters). -/
structure Token where
  kind : TokenKind
  text : String
  value : String := ""
  start : Nat := 0
  deriving Inhabited

/-- Whether a character may continue a word. -/
def isIdChar (c : Char) : Bool := c.isAlphanum || c == '_' || c == '$' || c.toNat ≥ 0x80

/-- Whether a character may start a word. -/
def isIdStart (c : Char) : Bool := c.isAlpha || c == '_' || c.toNat ≥ 0x80

/-- Whether a character is a blank between tokens. -/
def isBlank (c : Char) : Bool :=
  c == ' ' || c == '\t' || c == '\n' || c == '\x0c' || c == '\r'

/-- Whether a character is a hexadecimal digit. -/
def isHexChar (c : Char) : Bool :=
  c.isDigit || ('a' ≤ c && c ≤ 'f') || ('A' ≤ c && c ≤ 'F')

/-- A quoted run up to the closing quote `q`, a doubled `q` standing for one: the text
inside, the number of characters taken (with the closing quote), or `none` when it is
not closed. -/
def takeQuoted (q : Char) : List Char → List Char → Nat → Option (List Char × Nat)
  | [], _, _ => none
  | c :: rest, acc, n =>
    if c == q then
      match rest with
      | d :: more => if d == q then takeQuoted q more (q :: acc) (n + 2) else some (acc.reverse, n + 1)
      | [] => some (acc.reverse, n + 1)
    else takeQuoted q rest (c :: acc) (n + 1)

/-- The length of a number at the head of the text (starting with a digit, or a point
and a digit), and whether it has a point or an exponent. -/
def numberLength (cs : List Char) : Nat × Bool :=
  let ds := cs.takeWhile Char.isDigit
  let r := cs.drop ds.length
  let (n, r, isFloat) := match r with
    | '.' :: more =>
      let fs := more.takeWhile Char.isDigit
      (ds.length + 1 + fs.length, more.drop fs.length, true)
    | _ => (ds.length, r, false)
  match r with
  | e :: s :: more =>
    if (e == 'e' || e == 'E') && s.isDigit then
      (n + 2 + (more.takeWhile Char.isDigit).length, true)
    else if (e == 'e' || e == 'E') && (s == '+' || s == '-') &&
        ((more.head?.map Char.isDigit).getD false) then
      (n + 2 + (more.takeWhile Char.isDigit).length, true)
    else (n, isFloat)
  | _ => (n, isFloat)

/-- The two-character operators. -/
def twoCharOps : List String := ["<=", ">=", "<>", "!=", "==", "||", "<<", ">>", "->"]

/-- The one-character operators and marks. -/
def oneCharOps : List Char := ['(', ')', ';', '+', '-', '*', '/', '%', '=', '<', '>', '|', ',', '&', '~', '.']

/-- The next token at the head of the text: the token (none for blanks and comments) and
the number of characters it takes; `none` at the end of the text. -/
def nextToken (cs : List Char) (pos : Nat) : Option (Option Token × Nat) :=
  let text (n : Nat) : String := String.ofList (cs.take n)
  let mk (k : TokenKind) (n : Nat) (v : String := "") : Option (Option Token × Nat) :=
    some (some { kind := k, text := text n, value := v, start := pos }, n)
  match cs with
  | [] => none
  | c :: rest =>
    if isBlank c then some (none, 1 + (rest.takeWhile isBlank).length)
    else if c == '-' && rest.head? == some '-' then
      some (none, 2 + ((rest.drop 1).takeWhile (· != '\n')).length)
    else if c == '/' && rest.head? == some '*' && rest.length ≥ 2 then
      let body := rest.drop 1
      let rec close : List Char → Nat → Nat
        | '*' :: '/' :: _, n => n + 2
        | _ :: more, n => close more (n + 1)
        | [], n => n
      some (none, 2 + close body 0)
    else if c == '-' && rest.head? == some '>' then
      if (rest.drop 1).head? == some '>' then mk .op 3 else mk .op 2
    else if c == '\'' then
      match takeQuoted '\'' rest [] 0 with
      | some (body, n) => mk .string (n + 1) (String.ofList body)
      | none => mk .illegal cs.length
    else if c == '"' || c == '`' then
      match takeQuoted c rest [] 0 with
      | some (body, n) => mk .quoted (n + 1) (String.ofList body)
      | none => mk .illegal cs.length
    else if c == '[' then
      let body := rest.takeWhile (· != ']')
      if body.length < rest.length then mk .quoted (body.length + 2) (String.ofList body)
      else mk .illegal cs.length
    else if (c == 'x' || c == 'X') && rest.head? == some '\'' then
      let ds := (rest.drop 1).takeWhile isHexChar
      let after := (rest.drop 1).drop ds.length
      if after.head? == some '\'' && ds.length % 2 == 0 then mk .blob (ds.length + 3) (String.ofList ds)
      else
        let body := (rest.drop 1).takeWhile (· != '\'')
        let n := 2 + body.length
        mk .illegal (if n < cs.length then n + 1 else n)
    else if c.isDigit || (c == '.' && ((rest.head?.map Char.isDigit).getD false)) then
      let (n, isFloat) :=
        if c == '0' && (rest.head? == some 'x' || rest.head? == some 'X') &&
            (((rest.drop 1).head?.map isHexChar).getD false) then
          (2 + ((rest.drop 1).takeWhile isHexChar).length, false)
        else numberLength cs
      let tail := (cs.drop n).takeWhile isIdChar
      if tail.isEmpty then mk (if isFloat then .float else .integer) n
      else mk .illegal (n + tail.length)
    else if c == '?' then mk .variable (1 + (rest.takeWhile Char.isDigit).length)
    else if c == ':' || c == '@' || c == '$' || c == '#' then
      let name := rest.takeWhile isIdChar
      if name.isEmpty then mk .illegal 1 else mk .variable (1 + name.length)
    else if isIdStart c then mk .word (1 + (rest.takeWhile isIdChar).length)
    else
      let two := String.ofList [c, rest.headD ' ']
      if twoCharOps.contains two then mk .op 2
      else if c == '!' then mk .illegal 1
      else if oneCharOps.contains c then mk .op 1
      else mk .illegal 1

/-- Split SQL text into tokens. -/
def tokenize (s : String) : List Token :=
  let rec go : Nat → List Char → Nat → List Token → List Token
    | 0, _, _, acc => acc.reverse
    | fuel + 1, cs, pos, acc =>
      match nextToken cs pos with
      | none => acc.reverse
      | some (t, n) =>
        let n := max n 1
        go fuel (cs.drop n) (pos + n) (match t with | some t => t :: acc | none => acc)
  go (s.length + 1) s.toList 0 []

/-- Whether a token is the word `kw` (a keyword, in any case). -/
def Token.isWord (t : Token) (kw : String) : Bool := t.kind == .word && t.text.toUpper == kw

/-- Whether a token is the operator `o`. -/
def Token.isOp (t : Token) (o : String) : Bool := t.kind == .op && t.text == o

end Windowing.Sql
