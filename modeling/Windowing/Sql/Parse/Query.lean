import Windowing.Sql.Parse.Basic

set_option autoImplicit false

/-! # Reading expressions and queries

Operators bind, from the loosest to the tightest: `OR`; `AND`; `NOT`; the equality level
(`=`, `==`, `!=`, `<>`, `IS [NOT] [DISTINCT FROM]`, `[NOT] IN`, `[NOT] LIKE`, `GLOB`,
`REGEXP`, `MATCH`, `[NOT] BETWEEN … AND …`, `ISNULL`, `NOTNULL`, `NOT NULL`);
`<`, `<=`, `>`, `>=`; `&`, `|`, `<<`, `>>`; `+`, `-`; `*`, `/`, `%`; `||`, `->`, `->>`;
`COLLATE`; and the prefix `-`, `+`, `~`. Operators of one level group from the left. A
`NOT` may also stand before any operand, where it takes everything up to the next `AND`
or `OR`.

A query is an optional `WITH` clause, one or more `SELECT` or `VALUES` cores joined by
`UNION [ALL]`, `INTERSECT` or `EXCEPT`, and then `ORDER BY` and `LIMIT` for the whole. -/

namespace Windowing.Sql

/-- The words that join sources, in any case. -/
def joinWords : List String := ["CROSS", "FULL", "INNER", "LEFT", "NATURAL", "OUTER", "RIGHT"]

/-- Whether the next token can be an alias written without `AS`: a name that is not a
join word and does not start a `WINDOW` clause. -/
def atAlias : Parser Bool := do
  match ← peek with
  | some t =>
    -- WINDOW before a name and AS starts a WINDOW clause
    let windowClause := t.isWord "WINDOW" && (← atNameAt 1) && (← atWordAt 2 "AS")
    return (t.kind == .word && !isReserved t.text && !joinWords.contains t.text.toUpper &&
        !(t.isWord "INDEXED") && !windowClause) || t.kind == .quoted || t.kind == .string
  | none => return false

/-- An optional alias: `AS name`, or a name alone. -/
def aliasClause : Parser (Option String) := do
  if ← acceptWord "AS" then return some (← name)
  else if ← atAlias then return some (← name)
  else return none

/-- Whether the next token starts a query inside parentheses. -/
def atQueryStart : Parser Bool := do
  return (← atWord "SELECT") || (← atWord "WITH") || (← atWord "VALUES")

/-- A type name: words (with an optional size in parentheses), as written. -/
def typeName (fuel : Nat) : Parser String := do
  let a ← nextStart
  let rec words : Nat → Parser Unit
    | 0 => pure ()
    | n + 1 => do
      match ← peek with
      | some t =>
        if (t.kind == .word && !isReserved t.text) || t.kind == .quoted || t.kind == .string then
          advance
          words n
        else pure ()
      | none => pure ()
  words fuel
  if ← atOp "(" then
    advance
    let signed : Parser Unit := do
      if !(← acceptOp "+") then let _ ← acceptOp "-"
      match ← peek with
      | some t => if t.kind == .integer || t.kind == .float then advance else syntaxError
      | none => syntaxError
    signed
    if ← acceptOp "," then signed
    expectOp ")"
  let b := (← get).lastEnd
  if b ≤ a then return "" else sourceBetween a b

/-- The value of a blob literal's hexadecimal digits. -/
def blobOfHex (ds : String) : List UInt8 :=
  let v (c : Char) : Nat :=
    if c.isDigit then c.toNat - '0'.toNat
    else if 'a' ≤ c && c ≤ 'f' then c.toNat - 'a'.toNat + 10
    else c.toNat - 'A'.toNat + 10
  let rec go : List Char → List UInt8
    | a :: b :: rest => UInt8.ofNat (v a * 16 + v b) :: go rest
    | _ => []
  go ds.toList

/-- Take up to `n` join words. -/
def joinWordsTaken : Nat → List String → Parser (List String)
  | 0, acc => pure acc
  | n + 1, acc => do
    match ← peek with
    | some u =>
      if u.kind == .word && joinWords.contains u.text.toUpper then
        advance
        joinWordsTaken n (acc ++ [u.text.toUpper])
      else pure acc
    | none => pure acc

/-- The index of a variable: `?` takes the next, `?N` the `N`th, and a named variable the
next. -/
def variableIndex (t : Token) : Parser Nat := do
  let s ← get
  match t.text.toList with
  | '?' :: ds@(_ :: _) =>
    let n := ds.foldl (fun acc c => acc * 10 + (c.toNat - '0'.toNat)) 0
    set { s with params := max s.params n }
    return n
  | _ =>
    set { s with params := s.params + 1 }
    return s.params + 1

/-- Whether an expression is an integer literal written as zero (`0`, `00`, `0x0`): a
conjunction with one is zero whatever the other operand is, and that operand is dropped
unread, names and all. -/
def Expr.isFalseLiteral : Expr → Bool
  | .number t false =>
    let digits := if t.startsWith "0x" || t.startsWith "0X" then (t.drop 2).toString else t
    !digits.isEmpty && digits.all (· == '0')
  | _ => false

/-- The width of an expression as a row value: the number of its items. -/
def Expr.rowWidth : Expr → Nat
  | .vector items => items.length
  | _ => 1

/-- A membership test in a list. A list of one subquery tests membership in the subquery;
a row value tests membership in the rows of the list, each of which must have as many
items. -/
def inListOf (negated : Bool) (a : Expr) (items : List Expr) : Parser Expr :=
  match items, a with
  | [.scalar q], _ => pure (.inQuery negated a q)
  | _, .vector xs =>
    match items.find? (fun i => i.rowWidth != xs.length) with
    | some bad =>
      let n := bad.rowWidth
      throw ("IN(...) element has " ++ toString n ++ " term" ++ (if n > 1 then "s" else "") ++
        " - expected " ++ toString xs.length)
    | none =>
      let rows := items.map fun i =>
        match i with
        | .vector ys => ys
        | y => [y]
      pure (.inQuery negated a (.mk false [] (.values rows) [] [] none none))
  | _, _ => pure (.inList negated a items)

/-- The binding level of the equality operators, `IN`, `LIKE`, `BETWEEN` and the null
tests. -/
def equalityLevel : Nat := 4

/-- The binding level of `COLLATE`. -/
def collateLevel : Nat := 11

/-- A binary operator that groups from the left, with its binding level. -/
def binaryOperator? (t : Token) : Option (Nat × BinaryOp) :=
  if t.isWord "OR" then some (1, .or)
  else if t.isWord "AND" then some (2, .and)
  else if t.isOp "=" || t.isOp "==" then some (equalityLevel, .eq)
  else if t.isOp "!=" || t.isOp "<>" then some (equalityLevel, .ne)
  else if t.isOp "<" then some (5, .lt)
  else if t.isOp "<=" then some (5, .le)
  else if t.isOp ">" then some (5, .gt)
  else if t.isOp ">=" then some (5, .ge)
  else if t.isOp "&" then some (7, .bitAnd)
  else if t.isOp "|" then some (7, .bitOr)
  else if t.isOp "<<" then some (7, .shl)
  else if t.isOp ">>" then some (7, .shr)
  else if t.isOp "+" then some (8, .add)
  else if t.isOp "-" then some (8, .sub)
  else if t.isOp "*" then some (9, .mul)
  else if t.isOp "/" then some (9, .div)
  else if t.isOp "%" then some (9, .rem)
  else if t.isOp "||" then some (10, .concat)
  else if t.isOp "->" then some (10, .arrow)
  else if t.isOp "->>" then some (10, .arrow2)
  else none

/-- Whether a word starts a pattern, range or membership test. -/
def Token.startsTest (t : Token) : Bool :=
  t.isWord "LIKE" || t.isWord "GLOB" || t.isWord "REGEXP" || t.isWord "MATCH" ||
    t.isWord "BETWEEN" || t.isWord "IN"

/-- Join two operands with a binary operator; a conjunction with a false literal is false. -/
def joinBinary (op : BinaryOp) (a b : Expr) : Expr :=
  match op with
  | .and => if a.isFalseLiteral || b.isFalseLiteral then .number "0" false else .binary .and a b
  | op => .binary op a b

mutual

/-- An expression. -/
def expr : Nat → Parser Expr
  | 0 => syntaxError
  | fuel + 1 => exprAt fuel 1

/-- An expression of the operators that bind at a level or tighter. -/
def exprAt : Nat → Nat → Parser Expr
  | 0, _ => syntaxError
  | fuel + 1, level => do
    let a ← prefixed fuel
    exprTail fuel level a

/-- The operators after an operand, of those that bind at a level or tighter. A test that
ends the operand (`IN (…)`, `ISNULL`, `NOT NULL`, …) leaves an operand that any operator
may follow. -/
def exprTail : Nat → Nat → Expr → Parser Expr
  | 0, _, a => pure a
  | fuel + 1, level, a => do
    match ← peek with
    | none => pure a
    | some t =>
      match binaryOperator? t with
      | some (l, op) =>
        if l < level then pure a
        else
          advance
          let b ← exprAt fuel (l + 1)
          exprTail fuel level (joinBinary op a b)
      | none =>
        if t.isWord "COLLATE" then
          if collateLevel < level then pure a
          else
            advance
            match ← peek with
            | some u =>
              if (u.kind == .word && !isReserved u.text) || u.kind == .string || u.kind == .quoted then
                advance
                exprTail fuel level (.collate a u.nameValue)
              else syntaxError
            | none => syntaxError
        else if equalityLevel < level then pure a
        else if t.isWord "IS" then
          advance
          let negated ← acceptWord "NOT"
          let distinct ← acceptWord "DISTINCT"
          if distinct then expectWord "FROM"
          let b ← exprAt fuel (equalityLevel + 1)
          exprTail fuel level (.isOp (negated != distinct) a b)
        else if t.isWord "ISNULL" then
          advance
          exprTail fuel level (.isNull false a)
        else if t.isWord "NOTNULL" then
          advance
          exprTail fuel level (.isNull true a)
        else if t.isWord "NOT" then
          match ← peekAt 1 with
          | some u =>
            if u.isWord "NULL" then
              advance; advance
              exprTail fuel level (.isNull true a)
            else if u.startsTest then
              advance
              let e ← negatable fuel true a
              exprTail fuel level e
            else pure a
          | none => pure a
        else if t.startsTest then
          let e ← negatable fuel false a
          exprTail fuel level e
        else pure a

/-- A pattern, range or membership test, possibly negated, after its left operand. -/
def negatable : Nat → Bool → Expr → Parser Expr
  | 0, _, _ => syntaxError
  | fuel + 1, negated, a => do
    match ← peek with
    | none => syntaxError
    | some t =>
      if t.isWord "BETWEEN" then
        advance
        let lo ← exprAt fuel 3
        expectWord "AND"
        let hi ← exprAt fuel (equalityLevel + 1)
        pure (.between negated a lo hi)
      else if t.isWord "IN" then
        advance
        if ← acceptOp "(" then
          if ← acceptOp ")" then pure (.inList negated a [])
          else if ← atQueryStart then
            let q ← query fuel
            expectOp ")"
            pure (.inQuery negated a q)
          else
            let items ← exprList fuel
            expectOp ")"
            inListOf negated a items
        else
          let n ← name
          let n ← if ← acceptOp "." then name else pure n
          if ← acceptOp "(" then
            if ← acceptOp ")" then pure () else
              let _ ← exprList fuel
              expectOp ")"
          pure (.inTable negated a n)
      else
        let kind : LikeKind :=
          if t.isWord "LIKE" then .like else if t.isWord "GLOB" then .glob
          else if t.isWord "REGEXP" then .regexp else .matchOp
        advance
        let b ← exprAt fuel (equalityLevel + 1)
        if ← acceptWord "ESCAPE" then
          let e ← exprAt fuel (equalityLevel + 1)
          pure (.like kind negated a b (some e))
        else pure (.like kind negated a b none)

/-- An operand with prefix operators: `-`, `+` and `~` take the operand after them, `NOT`
everything after it that binds tighter than `AND`. -/
def prefixed : Nat → Parser Expr
  | 0 => syntaxError
  | fuel + 1 => do
    if ← acceptOp "-" then
      let e ← prefixed fuel
      match e with
      | .number t f => if t.startsWith "-" then pure (.unary .neg e) else pure (.number ("-" ++ t) f)
      | e => pure (.unary .neg e)
    else if ← acceptOp "+" then
      let e ← prefixed fuel
      pure (.unary .pos e)
    else if ← acceptOp "~" then
      let e ← prefixed fuel
      pure (.unary .bitNot e)
    else if ← acceptWord "NOT" then
      let e ← exprAt fuel 3
      pure (.unary .not e)
    else primary fuel

/-- An operand. -/
def primary : Nat → Parser Expr
  | 0 => syntaxError
  | fuel + 1 => do
    match ← peek with
    | none => syntaxError
    | some t =>
      match t.kind with
      | .integer => advance; pure (.number t.text false)
      | .float => advance; pure (.number t.text true)
      | .blob => advance; pure (.lit (.blob (blobOfHex t.value)))
      | .variable => advance; pure (.param (← variableIndex t))
      | .string =>
        advance
        if ← atOp "." then identTail fuel t.value false
        else pure (.lit (.text t.value))
      | .quoted => advance; identTail fuel t.value (t.text.startsWith "\"")
      | .op =>
        if t.isOp "(" then
          advance
          if ← atQueryStart then
            let q ← query fuel
            expectOp ")"
            pure (.scalar q)
          else
            let e ← expr fuel
            if ← acceptOp "," then
              let more ← exprList fuel
              expectOp ")"
              pure (.vector (e :: more))
            else
              expectOp ")"
              pure e
        else syntaxError
      | .word =>
        let w := t.text.toUpper
        if w == "NULL" then advance; pure (.lit .null)
        else if w == "CAST" then
          advance
          expectOp "("
          let e ← expr fuel
          expectWord "AS"
          let ty ← typeName fuel
          expectOp ")"
          pure (.cast e ty)
        else if w == "CASE" then
          advance
          let operand ← if ← atWord "WHEN" then pure none else some <$> expr fuel
          let whens ← whenList fuel
          if whens.isEmpty then syntaxError
          let otherwise ← if ← acceptWord "ELSE" then some <$> expr fuel else pure none
          expectWord "END"
          pure (.caseOf operand whens otherwise)
        else if w == "EXISTS" then
          advance
          expectOp "("
          let q ← query fuel
          expectOp ")"
          pure (.exists q)
        else if w == "RAISE" then
          advance
          expectOp "("
          if ← acceptWord "IGNORE" then
            expectOp ")"
            pure (.raise .ignore "")
          else
            let kind ← if ← acceptWord "ROLLBACK" then pure RaiseKind.rollback
              else if ← acceptWord "ABORT" then pure .abort
              else if ← acceptWord "FAIL" then pure .fail
              else syntaxError
            expectOp ","
            let msg ← name
            expectOp ")"
            pure (.raise kind msg)
        else if w == "CURRENT_TIME" || w == "CURRENT_DATE" || w == "CURRENT_TIMESTAMP" then
          advance
          pure (.call t.text.toLower false [] false none [] none)
        else if isReserved w then syntaxError
        else
          advance
          identTail fuel t.text false
      | _ => syntaxError

/-- After a name in an expression: a function call, a qualified column, or a column. -/
def identTail : Nat → String → Bool → Parser Expr
  | 0, _, _ => syntaxError
  | fuel + 1, n, dq => do
    if ← atOp "(" then
      advance
      if ← acceptOp "*" then
        expectOp ")"
        let (filter, windowSpec) ← filterOver fuel
        pure (.call n false [] true filter [] windowSpec)
      else if ← acceptOp ")" then
        let (filter, windowSpec) ← filterOver fuel
        pure (.call n false [] false filter [] windowSpec)
      else
        let distinct ← acceptWord "DISTINCT"
        if !distinct then let _ ← acceptWord "ALL"
        let args ← exprList fuel
        let order ← if ← atWord "ORDER" then
            advance
            expectWord "BY"
            orderTerms fuel
          else pure []
        expectOp ")"
        let (filter, windowSpec) ← filterOver fuel
        if windowSpec.isSome && !order.isEmpty then
          throw ("ORDER BY may not be used with non-aggregate " ++ n ++ "()")
        if windowSpec.isSome && distinct then throw "DISTINCT is not supported for window functions"
        pure (.call n distinct args false filter order windowSpec)
    else if ← atOp "." then
      advance
      let n2 ← name
      if ← acceptOp "." then
        let n3 ← name
        pure (.column [n, n2] n3 false)
      else pure (.column [n] n2 false)
    else pure (.column [] n dq)

/-- The optional `FILTER (WHERE …)` and `OVER` clauses after a call. `FILTER` is a
keyword here only before `(`, and `OVER` only before `(` or a name. -/
def filterOver : Nat → Parser (Option Expr × Option WindowSpec)
  | 0 => pure (none, none)
  | fuel + 1 => do
    let filter ← if (← atWord "FILTER") && (← atOpAt 1 "(") then
        advance
        expectOp "("
        expectWord "WHERE"
        let e ← expr fuel
        expectOp ")"
        pure (some e)
      else pure none
    if (← atWord "OVER") && ((← atOpAt 1 "(") || (← atNameAt 1)) then
      advance
      if ← acceptOp "(" then
        let w ← windowBody fuel
        expectOp ")"
        pure (filter, some w)
      else
        let n ← name
        pure (filter, some (.named n))
    else pure (filter, none)

/-- The inside of a window's parentheses: the window it builds on, `PARTITION BY`,
`ORDER BY` and a frame. -/
def windowBody : Nat → Parser WindowSpec
  | 0 => syntaxError
  | fuel + 1 => do
    let clauseWords := ["PARTITION", "ORDER", "RANGE", "ROWS", "GROUPS"]
    let base ← match ← peek with
      | some t =>
        if t.isOp ")" || clauseWords.any t.isWord then pure none
        else some <$> name
      | none => syntaxError
    let partition ← if ← atWord "PARTITION" then
        advance
        expectWord "BY"
        exprList fuel
      else pure []
    let order ← if ← atWord "ORDER" then
        advance
        expectWord "BY"
        orderTerms fuel
      else pure []
    let frame ← if (← atWord "RANGE") || (← atWord "ROWS") || (← atWord "GROUPS") then
        some <$> windowFrame fuel
      else pure none
    pure (.mk base partition order frame)

/-- A window frame: its units, its bounds and what it excludes. -/
def windowFrame : Nat → Parser WindowFrame
  | 0 => syntaxError
  | fuel + 1 => do
    let units ← if ← acceptWord "RANGE" then pure FrameUnits.range
      else if ← acceptWord "ROWS" then pure .rows
      else do expectWord "GROUPS"; pure .groups
    let (start, finish) ← if ← acceptWord "BETWEEN" then
        let a ← frameBound fuel true
        expectWord "AND"
        let b ← frameBound fuel false
        pure (a, b)
      else
        let a ← frameBound fuel true
        pure (a, FrameBound.currentRow)
    let exclude ← if ← acceptWord "EXCLUDE" then
        if ← acceptWord "NO" then do expectWord "OTHERS"; pure FrameExclude.noOthers
        else if ← acceptWord "CURRENT" then do expectWord "ROW"; pure .currentRow
        else if ← acceptWord "GROUP" then pure .group
        else do expectWord "TIES"; pure .ties
      else pure .noOthers
    let unsupported : Bool := match start, finish with
      | .currentRow, .preceding _ => true
      | .following _, .preceding _ => true
      | .following _, .currentRow => true
      | _, _ => false
    if unsupported then throw "unsupported frame specification"
    pure (.mk units start finish exclude)

/-- A frame bound: `UNBOUNDED PRECEDING` may only start a frame and `UNBOUNDED FOLLOWING`
only end one. An offset that is not constant stands for null. -/
def frameBound : Nat → Bool → Parser FrameBound
  | 0, _ => syntaxError
  | fuel + 1, isStart => do
    if (← atWord "UNBOUNDED") && ((← atWordAt 1 "PRECEDING") || (← atWordAt 1 "FOLLOWING")) then
      advance
      if isStart then do expectWord "PRECEDING"; pure .unboundedPreceding
      else do expectWord "FOLLOWING"; pure .unboundedFollowing
    else if (← atWord "CURRENT") && (← atWordAt 1 "ROW") then
      advance; advance
      pure .currentRow
    else
      let e ← expr fuel
      let e := if Expr.isWrittenConstant 64 e then e else .lit .null
      if ← acceptWord "PRECEDING" then pure (.preceding e)
      else do expectWord "FOLLOWING"; pure (.following e)

/-- The named windows of a `WINDOW` clause. -/
def windowDefs : Nat → Parser (List (String × WindowSpec))
  | 0 => syntaxError
  | fuel + 1 => do
    let n ← name
    expectWord "AS"
    expectOp "("
    let w ← windowBody fuel
    expectOp ")"
    if ← acceptOp "," then
      let rest ← windowDefs fuel
      pure ((n, w) :: rest)
    else pure [(n, w)]

/-- The `WHEN … THEN …` pairs of a `CASE`. -/
def whenList : Nat → Parser (List (Expr × Expr))
  | 0 => pure []
  | fuel + 1 => do
    if ← acceptWord "WHEN" then
      let c ← expr fuel
      expectWord "THEN"
      let v ← expr fuel
      let rest ← whenList fuel
      pure ((c, v) :: rest)
    else pure []

/-- A comma-separated list of expressions. -/
def exprList : Nat → Parser (List Expr)
  | 0 => syntaxError
  | fuel + 1 => do
    let e ← expr fuel
    if ← acceptOp "," then
      let rest ← exprList fuel
      pure (e :: rest)
    else pure [e]

/-- Terms of an `ORDER BY`. -/
def orderTerms : Nat → Parser (List OrderTerm)
  | 0 => syntaxError
  | fuel + 1 => do
    let e ← expr fuel
    let desc ← if ← acceptWord "DESC" then pure true
      else do let _ ← acceptWord "ASC"; pure false
    let nulls ← if ← acceptWord "NULLS" then
        if ← acceptWord "FIRST" then pure (some true)
        else do expectWord "LAST"; pure (some false)
      else pure none
    let t := OrderTerm.mk e desc nulls
    if ← acceptOp "," then
      let rest ← orderTerms fuel
      pure (t :: rest)
    else pure [t]

/-- A column of a query's result. -/
def resultColumn : Nat → Parser ResultColumn
  | 0 => syntaxError
  | fuel + 1 => do
    if ← acceptOp "*" then pure .all
    else
      let t0 ← peek
      let t1 ← peekAt 1
      let t2 ← peekAt 2
      let isNameTok := match t0 with
        | some t => (t.kind == .word && !isReserved t.text) || t.kind == .quoted || t.kind == .string
        | none => false
      if isNameTok && (t1.any (·.isOp ".")) && (t2.any (·.isOp "*")) then
        let n ← name
        advance; advance
        pure (.allOf n)
      else
        let (e, text) ← withText (expr fuel)
        let a ← aliasClause
        pure (.expr e a text)

/-- The result columns of a `SELECT`. -/
def resultColumns : Nat → Parser (List ResultColumn)
  | 0 => syntaxError
  | fuel + 1 => do
    let c ← resultColumn fuel
    if ← acceptOp "," then
      let rest ← resultColumns fuel
      pure (c :: rest)
    else pure [c]

/-- A source of rows. -/
def source : Nat → Parser Source
  | 0 => syntaxError
  | fuel + 1 => do
    if ← acceptOp "(" then
      if ← atQueryStart then
        let q ← query fuel
        expectOp ")"
        let a ← aliasClause
        pure (.query q a)
      else syntaxError
    else
      let n ← name
      let (schema, n) ← if ← acceptOp "." then
          let m ← name
          pure (some n, m)
        else pure (none, n)
      if ← acceptOp "(" then
        let args ← if ← atOp ")" then pure [] else exprList fuel
        expectOp ")"
        let a ← aliasClause
        return .call n args a
      let a ← aliasClause
      if ← acceptWord "INDEXED" then
        expectWord "BY"
        let _ ← name
      else if ← atWord "NOT" then
        if ← atWordAt 1 "INDEXED" then
          advance; advance
      pure (.table schema n a)

/-- The join operator before a source, if one comes: its kind and whether it is natural.
A comma is a plain join. -/
def joinOp : Nat → Parser (Option (JoinKind × Bool))
  | 0 => pure none
  | fuel + 1 => do
    if ← acceptOp "," then pure (some (.inner, false))
    else if ← acceptWord "JOIN" then pure (some (.inner, false))
    else
      match ← peek with
      | some t =>
        if t.kind == .word && joinWords.contains t.text.toUpper then
          let ws ← joinWordsTaken 3 []
          expectWord "JOIN"
          let natural := ws.contains "NATURAL"
          let kind : JoinKind :=
            if ws.contains "LEFT" then .left else if ws.contains "RIGHT" then .right
            else if ws.contains "FULL" then .full else if ws.contains "CROSS" then .cross
            else .inner
          let _ := fuel
          pure (some (kind, natural))
        else pure none
      | none => pure none

/-- The sources of a `FROM` clause. -/
def sources : Nat → Parser (List Joined)
  | 0 => syntaxError
  | fuel + 1 => do
    let first ← source fuel
    let (on, usingCols) ← joinConstraint fuel
    let rest ← moreSources fuel
    pure (Joined.mk .inner false first on usingCols :: rest)

/-- The sources after the first. -/
def moreSources : Nat → Parser (List Joined)
  | 0 => pure []
  | fuel + 1 => do
    match ← joinOp fuel with
    | none => pure []
    | some (kind, natural) =>
      let src ← source fuel
      let (on, usingCols) ← joinConstraint fuel
      let rest ← moreSources fuel
      pure (Joined.mk kind natural src on usingCols :: rest)

/-- An optional `ON` or `USING` clause. -/
def joinConstraint : Nat → Parser (Option Expr × List String)
  | 0 => pure (none, [])
  | fuel + 1 => do
    if ← acceptWord "ON" then
      let e ← expr fuel
      pure (some e, [])
    else if ← acceptWord "USING" then
      let ns ← nameList fuel
      pure (none, ns)
    else pure (none, [])

/-- The rows of a `VALUES` core, each as long as the first. -/
def valueRows : Nat → Option Nat → Parser (List (List Expr))
  | 0, _ => syntaxError
  | fuel + 1, width => do
    expectOp "("
    let row ← exprList fuel
    expectOp ")"
    if width.any (· != row.length) then throw "all VALUES must have the same number of terms"
    if ← acceptOp "," then
      let rest ← valueRows fuel (some row.length)
      pure (row :: rest)
    else pure [row]

/-- One `SELECT` or `VALUES` core. -/
def core : Nat → Parser Core
  | 0 => syntaxError
  | fuel + 1 => do
    if ← acceptWord "VALUES" then
      let rows ← valueRows fuel none
      pure (.values rows)
    else
      expectWord "SELECT"
      let distinct ← if ← acceptWord "DISTINCT" then pure true
        else do let _ ← acceptWord "ALL"; pure false
      let cols ← resultColumns fuel
      let srcs ← if ← acceptWord "FROM" then sources fuel else pure []
      let filter ← if ← acceptWord "WHERE" then some <$> expr fuel else pure none
      let groupBy ← if ← atWord "GROUP" then
          advance
          expectWord "BY"
          exprList fuel
        else pure []
      let having ← if ← acceptWord "HAVING" then some <$> expr fuel else pure none
      let windows ← if (← atWord "WINDOW") && (← atNameAt 1) && (← atWordAt 2 "AS") then
          advance
          windowDefs fuel
        else pure []
      pure (.select distinct cols srcs filter groupBy having windows)

/-- The queries of a `WITH` clause. -/
def ctes : Nat → Parser (List Cte)
  | 0 => syntaxError
  | fuel + 1 => do
    let n ← name
    let cols ← if ← atOp "(" then nameList fuel else pure []
    expectWord "AS"
    if ← acceptWord "NOT" then expectWord "MATERIALIZED"
    else let _ ← acceptWord "MATERIALIZED"
    expectOp "("
    let q ← query fuel
    expectOp ")"
    let c := Cte.mk n cols q
    if ← acceptOp "," then
      let rest ← ctes fuel
      pure (c :: rest)
    else pure [c]

/-- The compound operator that comes next, if any. -/
def compoundOp : Parser (Option CompoundOp) := do
  if ← acceptWord "UNION" then
    if ← acceptWord "ALL" then pure (some .unionAll) else pure (some .union)
  else if ← acceptWord "INTERSECT" then pure (some .intersect)
  else if ← acceptWord "EXCEPT" then pure (some .except)
  else pure none

/-- The cores after the first, with their operators. -/
def compounds : Nat → Parser (List (CompoundOp × Core))
  | 0 => pure []
  | fuel + 1 => do
    match ← compoundOp with
    | none => pure []
    | some op =>
      let c ← core fuel
      let rest ← compounds fuel
      pure ((op, c) :: rest)

/-- A query. -/
def query : Nat → Parser Query
  | 0 => syntaxError
  | fuel + 1 => do
    let (recursive, withs) ← if ← acceptWord "WITH" then
        let r ← acceptWord "RECURSIVE"
        let cs ← ctes fuel
        pure (r, cs)
      else pure (false, [])
    queryAfterWith fuel recursive withs

/-- A query after its `WITH` clause. -/
def queryAfterWith : Nat → Bool → List Cte → Parser Query
  | 0, _, _ => syntaxError
  | fuel + 1, recursive, withs => do
    let first ← core fuel
    let rest ← compounds fuel
    let order ← if ← atWord "ORDER" then
        advance
        expectWord "BY"
        orderTerms fuel
      else pure []
    let (limit, offset) ← if ← acceptWord "LIMIT" then
        let l ← expr fuel
        if ← acceptWord "OFFSET" then
          let o ← expr fuel
          pure (some l, some o)
        else if ← acceptOp "," then
          let o ← expr fuel
          pure (some o, some l)
        else pure (some l, none)
      else pure (none, none)
    pure (.mk recursive withs first rest order limit offset)

end

end Windowing.Sql
