import Windowing.Template.Parser
import Windowing.Template.Format
import Windowing.Template.Escape

set_option autoImplicit false

/-! # Executing text templates

Execution walks a body with a current value (the dot), a stack of variables (`$` is the
data), and the output written so far. A missing map key is an error, as is a field that
the value does not have.

An error names where execution stood: `template: NAME:LINE:COL: executing "T" at <NODE>:
MESSAGE`, where the node is the last one execution turned to (its canonical text), LINE
and COL its place in the text (the column counts octets from
zero), and T the template being executed. Function failures read `error calling F: …`.

Execution is bounded by a fuel that every step of the walk consumes; the entry point
gives more fuel than any walk of a finite body over finite data can use short of
`{{range}}` over a huge number. -/

namespace Windowing.Template

/-- A node execution may point at: its offset and its canonical text. -/
structure At where
  pos : Nat
  text : String

/-- The execution state. -/
structure Env where
  /-- Variables, innermost first. -/
  vars : List (String × Value)
  out : String := ""
  node : Option At := none
  depth : Nat := 0

/-- How a walk ends: normally, or by `break` or `continue` of the nearest loop. -/
inductive Flow where
  | normal
  | breakLoop
  | continueLoop
  deriving DecidableEq

/-- Execution: state, and failure with the full message. -/
abbrev ExecM := StateT Env (Except String)

/-- What execution needs besides the state: the parsed set and the running template. -/
structure Ctx where
  tree : Tree
  name : String

/-- The kinds of parameters of the built-in functions. -/
inductive Param where
  | reflect
  | any
  | string
  | untyped
  deriving DecidableEq

/-- The name of a parameter type in messages. -/
def Param.name : Param → String
  | .reflect => "reflect.Value"
  | .any => "interface {}"
  | .string => "string"
  | .untyped => "<nil>"

namespace Exec

/-- Line and column (octets from zero) of an octet offset. -/
def location (source : String) (pos : Nat) : Nat × Nat :=
  let rec go : List Char → Nat → Nat → Nat → Nat × Nat
    | [], _, line, col => (line, col)
    | c :: rest, remaining, line, col =>
      if remaining == 0 then (line, col)
      else if c == '\n' then go rest (remaining - min remaining c.utf8Size) (line + 1) 0
      else go rest (remaining - min remaining c.utf8Size) line (col + c.utf8Size)
  go source.toList pos 1 0

/-- Fail, naming the current node. The message is a format and its operands. The place
(the name the text was parsed under, the line and the column) is part of the format, so
that a `%` in that name is read as a verb too; the template's name and the node's text are
not. -/
def fail {α : Type} (ctx : Ctx) (format : String) (args : List Operand) : ExecM α := do
  let env ← get
  match env.node with
  | none => throw (errorf ("template: " ++ doublePercent ctx.name ++ ": " ++ format) args)
  | some a =>
    let (line, col) := location ctx.tree.source a.pos
    throw (errorf ("template: " ++ ctx.tree.parseName ++ ":" ++ toString line ++ ":" ++
      toString col ++ ": executing " ++ Text.quote (doublePercent ctx.name) ++ " at <" ++
      doublePercent a.text ++ ">: " ++ format) args)

/-- A type as a message operand. -/
def typeOperand (name : String) : Operand :=
  .described name "*reflect.rtype" (.record "reflect.rtype" []) false

/-- The type of an operand node, as `%T` names it. -/
def argType : Arg → String
  | .field .. => "*parse.FieldNode"
  | .var .. => "*parse.VariableNode"
  | .chain .. => "*parse.ChainNode"
  | .ident .. => "*parse.IdentifierNode"
  | .dot _ => "*parse.DotNode"
  | .nil _ => "*parse.NilNode"
  | .bool .. => "*parse.BoolNode"
  | .number .. => "*parse.NumberNode"
  | .string .. => "*parse.StringNode"
  | .pipe _ => "*parse.PipeNode"

/-- An operand node as a message operand: its canonical text. -/
def argOperand (a : Arg) : Operand :=
  .described a.render (argType a) (.record (argType a) [("Pos", .int a.pos)]) false

/-- Turn to a node. -/
def turnTo (a : At) : ExecM Unit := modify fun e => { e with node := some a }

/-- An operand as a node to point at. -/
def argAt (a : Arg) : At := ⟨a.pos, a.render⟩

/-- The value of a variable. -/
def varValue (ctx : Ctx) (name : String) : ExecM Value := do
  match (← get).vars.lookup name with
  | some v => pure v
  | none => fail ctx "undefined variable: %s" [.text name]

/-- Push a variable. -/
def push (name : String) (v : Value) : ExecM Unit :=
  modify fun e => { e with vars := (name, v) :: e.vars }

/-- Set the innermost variable of a name. -/
def setVar (ctx : Ctx) (name : String) (v : Value) : ExecM Unit := do
  let e ← get
  let rec upd : List (String × Value) → Option (List (String × Value))
    | [] => none
    | (n, x) :: rest => if n == name then some ((n, v) :: rest) else (upd rest).map ((n, x) :: ·)
  match upd e.vars with
  | some vs => set { e with vars := vs }
  | none => fail ctx "undefined variable: %s" [.text name]

/-- Set the variable `k` places from the top (1 is the top). -/
def setTop (k : Nat) (v : Value) : ExecM Unit :=
  modify fun e =>
    { e with vars := e.vars.mapIdx fun i p => if i + 1 == k then (p.1, v) else p }

/-- Drop variables pushed since the stack had `n` entries. -/
def popTo (n : Nat) : ExecM Unit :=
  modify fun e => { e with vars := e.vars.drop (e.vars.length - n) }

/-- Write text. -/
def write (s : String) : ExecM Unit :=
  modify fun e => { e with out := e.out ++ s }

/-- The text of a value as an action writes it. -/
def printed : Value → String
  | .none => "<no value>"
  | v => Format.value {} 'v' v

/-- The parameters of a built-in function: fixed ones, and the type of the rest if it
takes any number more. -/
def signature (name : String) : List Param × Option Param :=
  match name with
  | "and" | "or" | "call" | "index" | "slice" | "eq" => ([.reflect], some .reflect)
  | "not" | "len" => ([.reflect], none)
  | "html" | "js" | "urlquery" | "print" | "println" => ([], some .any)
  | "printf" => ([.string], some .any)
  | _ => ([.reflect, .reflect], none)

/-- Check a computed value against a parameter type. -/
def validate (ctx : Ctx) (p : Param) (v : Value) : ExecM Value := do
  match v with
  | .none =>
    match p with
    | .any => pure .nil
    | .untyped | .reflect => pure .none
    | _ => fail ctx "invalid value; expected %s" [typeOperand p.name]
  | _ =>
    if p == .string then
      match v with
      | .str _ => pure v
      | _ => fail ctx "wrong type for value; expected %s; got %s" [typeOperand "string", typeOperand v.typeName]
    else pure v

/-- A number constant as a value: a float when written as one, otherwise an integer. -/
def constant (ctx : Ctx) (n : Number) : ExecM Value := do
  let isHex := n.text.length > 2 && (n.text.startsWith "0x" || n.text.startsWith "0X") &&
    !(n.text.any (fun c => c == 'p' || c == 'P'))
  let looksFloat := n.text.any (fun c => c == '.' || c == 'e' || c == 'E' || c == 'p' || c == 'P')
  match n.asComplex with
  | some (re, im) => pure (.complex re im)
  | none =>
  match n.asFloat with
  | some f =>
    if !n.isChar && !isHex && looksFloat then pure (.float f)
    else match n.asInt with
      | some i => pure (.int i)
      | none => if n.asUint.isSome then fail ctx "%s overflows int" [.text n.text] else pure .none
  | none =>
    match n.asInt with
    | some i => pure (.int i)
    | none => if n.asUint.isSome then fail ctx "%s overflows int" [.text n.text] else pure .none

/-- The field (or map entry) `name` of a value; `hasArgs` says arguments were given. -/
def field (ctx : Ctx) (name : String) (hasArgs : Bool) : Value → ExecM Value
  | .none => fail ctx "nil data; no entry for key %q" [.text name]
  | .nil => fail ctx "nil pointer evaluating %s.%s" [typeOperand "interface {}", .text name]
  | v@(.record t fs) =>
    match fs.lookup name with
    | some x =>
      if hasArgs then fail ctx "%s has arguments but cannot be invoked as function" [.text name]
      else pure x
    | none => let _ := v; fail ctx "can't evaluate field %s in type %s" [.text name, typeOperand t]
  | .dict m =>
    if hasArgs then fail ctx "%s is not a method but has arguments" [.text name]
    else match m.get? name with
      | some x => pure (.str x)
      | none => fail ctx "map has no entry for key %q" [.text name]
  | .nilDict =>
    if hasArgs then fail ctx "%s is not a method but has arguments" [.text name]
    else fail ctx "map has no entry for key %q" [.text name]
  | v => fail ctx "can't evaluate field %s in type %s" [.text name, typeOperand v.typeName]

/-- Walk a chain of field names from a value. -/
def fieldChain (ctx : Ctx) (receiver : Value) (names : List String) (hasArgs : Bool) :
    ExecM Value :=
  match names with
  | [] => pure receiver
  | [n] => field ctx n hasArgs receiver
  | n :: rest => do
    let v ← field ctx n false receiver
    fieldChain ctx v rest hasArgs

end Exec

/-! ## Built-in functions -/

namespace Builtin

/-- An index operand as a position. -/
def indexArg (v : Value) (cap : Nat) : Except String Nat :=
  let x : Option Int := match v with
    | .int n => some n
    | .octet n | .uint n => some n
    | _ => none
  match v, x with
  | .none, _ | .nil, _ => .error "cannot index slice/array with nil"
  | _, none => .error ("cannot index slice/array with type " ++ v.typeName)
  | _, some n => if n < 0 ∨ n > cap then .error ("index out of range: " ++ toString n) else .ok n.toNat

/-- `index item i j …`. -/
def index (item : Value) (idxs : List Value) : Except String Value :=
  match item with
  | .none | .nil => .error "index of untyped nil"
  | _ => idxs.foldlM (fun it ix =>
      match it with
      | .list _ xs _ => do
        let i ← indexArg ix xs.length
        match xs[i]? with
        | some x => pure x
        | none => throw "reflect: slice index out of range"
      | .str s => do
        let bs := Utf8.bytes s
        let i ← indexArg ix bs.length
        match bs[i]? with
        | some b => pure (.octet b.toNat)
        | none => throw "reflect: string index out of range"
      | .nilDict =>
        match ix with
        | .str _ => pure (.str "")
        | .none | .nil => throw "value is nil; should be of type string"
        | other => throw ("value has type " ++ other.typeName ++ "; should be string")
      | .dict m =>
        match ix with
        | .str k => pure (.str ((m.get? k).getD ""))
        | .none | .nil => throw "value is nil; should be of type string"
        | other => throw ("value has type " ++ other.typeName ++ "; should be string")
      | other => throw ("can't index item of type " ++ other.typeName)) item

/-- `slice item i j k`. The indexes are checked against the capacity (for text, its
length); a slice of a list keeps past its end the elements up to `k`, or up to the
capacity when `k` is not given. -/
def slice (item : Value) (idxs : List Value) : Except String Value := do
  if idxs.length > 3 then throw ("too many slice indexes: " ++ toString idxs.length)
  let (len, cap) ← match item with
    | .none | .nil => throw "slice of untyped nil"
    | .str s =>
      if idxs.length == 3 then throw "cannot 3-index slice a string"
      else pure (Utf8.size s, Utf8.size s)
    | .list _ xs spare => pure (xs.length, xs.length + spare.length)
    | other => throw ("can't slice item of type " ++ other.typeName)
  let got ← idxs.mapM (fun ix => indexArg ix cap)
  let lo := got.getD 0 0
  let hi := got.getD 1 len
  if lo > hi then throw ("invalid slice index: " ++ toString lo ++ " > " ++ toString hi)
  let top ← if got.length == 3 then do
      let k := got.getD 2 cap
      if hi > k then throw ("invalid slice index: " ++ toString hi ++ " > " ++ toString k)
      pure k
    else pure cap
  match item with
  | .str s => pure (.str (Utf8.sliceBytes s lo hi))
  | .list t xs spare =>
    let all := xs ++ spare
    pure (.list t ((all.drop lo).take (hi - lo)) ((all.drop hi).take (top - hi)))
  | _ => throw "can't slice"

/-- Whether a value can be compared with `==`. -/
def comparable : Value → Bool
  | .dict _ | .nilDict | .list _ _ _ => false
  | .record _ fs => fs.all (fun p => comparableScalar p.2)
  | _ => true
where
  comparableScalar : Value → Bool
    | .dict _ | .nilDict | .list _ _ _ | .record _ _ => false
    | _ => true

/-- Structural equality of comparable values. -/
def same : Value → Value → Bool
  | .str a, .str b => a == b
  | .int a, .int b => a == b
  | .octet a, .octet b | .uint a, .uint b | .octet a, .uint b | .uint a, .octet b => a == b
  | .float a, .float b => a == b
  | .complex a b, .complex c d => a == c && b == d
  | .bool a, .bool b => a == b
  | .record t fs, .record u gs =>
    t == u && fs.length == gs.length &&
      (fs.zip gs).all (fun (p, q) => p.1 == q.1 && sameScalar p.2 q.2)
  | .nil, .nil | .none, .none => true
  | _, _ => false
where
  sameScalar : Value → Value → Bool
    | .str a, .str b => a == b
    | .int a, .int b => a == b
    | .octet a, .octet b | .uint a, .uint b => a == b
    | .float a, .float b => a == b
    | .bool a, .bool b => a == b
    | _, _ => false

/-- The integer reading of an integer-like value. -/
def intOf : Value → Int
  | .int n => n
  | .octet n | .uint n => n
  | _ => 0

/-- Whether a value is present (not the absent value). -/
def valid : Value → Bool
  | .none => false
  | _ => true

/-- `a == b`, with the rules of `eq`. -/
def eqOne (a b : Value) : Except String Bool :=
  let k1 := a.basicKind
  let k2 := b.basicKind
  if k1 != k2 then
    if k1 == .int && k2 == .uint then .ok (intOf a ≥ 0 && intOf a == intOf b)
    else if k1 == .uint && k2 == .int then .ok (intOf b ≥ 0 && intOf a == intOf b)
    else if valid a && valid b then
      .error ("incompatible types for comparison: " ++ a.typeName ++ " and " ++ b.typeName)
    else .ok false
  else
    match k1 with
    | .bool | .int | .uint | .float | .complex | .string => .ok (same a b)
    | .invalid =>
      let kindTag : Value → Nat := fun v => match v with
        | .dict _ | .nilDict => 1 | .list _ _ _ => 2 | .record _ _ => 3 | .nil => 4 | .none => 5
        | _ => 0
      let absent (v : Value) : Bool := match v with | .nil | .none => true | _ => false
      let nilLike (v : Value) : Bool := absent v || v matches .nilDict
      if kindTag a != kindTag b && !(absent a || absent b) then
        .error ("non-comparable types " ++ Format.value {} 's' a ++ ": " ++ a.typeName ++ ", " ++
          b.typeName ++ ": " ++ Format.value {} 'v' b)
      else if nilLike a || nilLike b then .ok (nilLike a == nilLike b)
      else if !comparable b then
        .error ("non-comparable type " ++ Format.value {} 's' b ++ ": " ++ b.typeName)
      else .ok (same a b)

/-- `eq a b c …`: whether `a` equals one of the others. -/
def eq (a : Value) (bs : List Value) : Except String Bool :=
  if bs.isEmpty then .error "missing argument for comparison"
  else bs.foldlM (fun found b => if found then pure true else eqOne a b) false

/-- `lt a b`. -/
def lt (a b : Value) : Except String Bool :=
  let k1 := a.basicKind
  let k2 := b.basicKind
  if k1 == .invalid || k2 == .invalid then .error "invalid type for comparison"
  else if k1 != k2 then
    if k1 == .int && k2 == .uint then .ok (intOf a < 0 || intOf a < intOf b)
    else if k1 == .uint && k2 == .int then .ok (intOf b ≥ 0 && intOf a < intOf b)
    else .error ("incompatible types for comparison: " ++ a.typeName ++ " and " ++ b.typeName)
  else
    match a, b with
    | .bool _, .bool _ | .complex _ _, .complex _ _ => .error "invalid type for comparison"
    | .float x, .float y => .ok (x < y)
    | .str x, .str y => .ok (Utf8.lessThan x y)
    | _, _ => .ok (intOf a < intOf b)

/-- `le a b`. -/
def le (a b : Value) : Except String Bool := do
  if ← lt a b then pure true else eq a [b]

/-- Text of the operands of `html`, `js` and `urlquery`: a single text operand as it is,
otherwise the operands printed. -/
def operandText (args : List Value) : String :=
  match args with
  | [.str s] => s
  | _ => sprint (args.map fun v => match v with
    | .nil | .none => .str "<no value>"
    | _ => v)

/-- Apply a built-in function (other than `and`, `or`, `call`) to evaluated operands. -/
def apply (name : String) (args : List Value) : Except String Value :=
  match name, args with
  | "not", [a] => .ok (.bool !a.truth)
  | "len", [a] =>
    match a, a.length? with
    | .none, _ | .nil, _ => .error "reflect: call of reflect.Value.Type on zero Value"
    | _, some n => .ok (.int n)
    | _, none => .error ("len of type " ++ a.typeName)
  | "index", a :: rest => index a rest
  | "slice", a :: rest => slice a rest
  | "html", xs => .ok (.str (Escape.html (Utf8.normalize (operandText xs))))
  | "js", xs => .ok (.str (Escape.js (Utf8.normalize (operandText xs))))
  | "urlquery", xs => .ok (.str (Escape.urlquery (operandText xs)))
  | "print", xs => .ok (.str (Utf8.normalize (sprint xs)))
  | "println", xs => .ok (.str (Utf8.normalize (sprintln xs)))
  | "printf", (.str f) :: xs => .ok (.str (Utf8.normalize (sprintf f xs)))
  | "eq", a :: rest => (eq a rest).map .bool
  | "ne", [a, b] => (eq a [b]).map (fun r => .bool !r)
  | "lt", [a, b] => (lt a b).map .bool
  | "le", [a, b] => (le a b).map .bool
  | "gt", [a, b] => (le a b).map (fun r => .bool !r)
  | "ge", [a, b] => (lt a b).map (fun r => .bool !r)
  | _, _ => .error ("wrong use of " ++ name)

end Builtin

namespace Exec

mutual
/-- Evaluate an operand for a parameter of a type. -/
def arg : Nat → Ctx → Value → Param → Arg → ExecM Value
  | 0, ctx, _, _, _ => fail ctx "exceeded maximum template depth (%v)" [.int 100000]
  | fuel + 1, ctx, dot, p, a => do
    turnTo (argAt a)
    match a with
    | .dot _ => validate ctx p dot
    | .nil _ =>
      match p with
      | .any => pure .nil
      | .reflect => pure .none
      | _ => fail ctx "cannot assign nil to %s" [typeOperand p.name]
    | .field _ names => do
      let v ← fieldNode fuel ctx dot a names [] none
      validate ctx p v
    | .var _ name fields => do
      let v ← variableNode fuel ctx dot a name fields [] none
      validate ctx p v
    | .pipe pp => do
      let v ← pipeline fuel ctx dot pp
      validate ctx p v
    | .ident _ name => do
      let v ← function fuel ctx dot (argAt a) name [] none
      validate ctx p v
    | .chain _ base fields => do
      let v ← chainNode fuel ctx dot a base fields [] none
      validate ctx p v
    | .string _ _ s => pure (.str s)
    | .bool _ b =>
      if p == .string then fail ctx "expected string; found %s" [argOperand a] else pure (.bool b)
    | .number _ n =>
      if p == .string then fail ctx "expected string; found %s" [argOperand a] else constant ctx n

/-- Evaluate operands in order, each for its parameter type. -/
def args : Nat → Ctx → Value → List (Param × Arg) → ExecM (List Value)
  | 0, ctx, _, _ => fail ctx "exceeded maximum template depth (%v)" [.int 100000]
  | _ + 1, _, _, [] => pure []
  | fuel + 1, ctx, dot, (p, a) :: rest => do
    let v ← arg fuel ctx dot p a
    let vs ← args fuel ctx dot rest
    pure (v :: vs)

/-- `and` and `or`: the first operand whose truth decides, else the last. -/
def shortCircuit : Nat → Ctx → Value → Bool → List Arg → Option Value → Value → ExecM Value
  | 0, ctx, _, _, _, _, _ => fail ctx "exceeded maximum template depth (%v)" [.int 100000]
  | _ + 1, ctx, _, _, [], final, last =>
    match final with
    | some f => validate ctx .reflect f
    | none => pure last
  | fuel + 1, ctx, dot, isOr, a :: rest, final, _ => do
    let v ← arg fuel ctx dot .reflect a
    if v.truth == isOr then pure v
    else shortCircuit fuel ctx dot isOr rest final v

/-- Call a built-in function with operand nodes and an optional piped value. -/
def function : Nat → Ctx → Value → At → String → List Arg → Option Value → ExecM Value
  | 0, ctx, _, _, _, _, _ => fail ctx "exceeded maximum template depth (%v)" [.int 100000]
  | fuel + 1, ctx, dot, cmdAt, name, operands, final => do
    let (fixed, rest) := signature name
    let numIn := operands.length + (if final.isSome then 1 else 0)
    match rest with
    | some _ =>
      if numIn < fixed.length then
        fail ctx "wrong number of args for %s: want at least %d got %d"
          [.text name, .int fixed.length, .int operands.length]
    | none =>
      if numIn != fixed.length then
        fail ctx "wrong number of args for %s: want %d got %d"
          [.text name, .int fixed.length, .int numIn]
    if name == "and" || name == "or" then
      shortCircuit fuel ctx dot (name == "or") operands final .none
    else
      let typeAt (i : Nat) : Param := (fixed[i]?).getD (rest.getD .any)
      let typed := operands.mapIdx (fun i a => (typeAt i, a))
      let vs ← args fuel ctx dot typed
      let vs ← match final with
        | some f => do
          let t := if rest.isSome && numIn - 1 ≥ fixed.length then rest.getD .any
            else typeAt (numIn - 1)
          let fv ← validate ctx t f
          pure (vs ++ [fv])
        | none => pure vs
      let result : Except String Value :=
        if name == "call" then
          let callee := match operands with
            | a :: _ => a.render
            | [] => match final with
              | some (.str s) => s
              | some v => "<" ++ v.typeName ++ " Value>"
              | none => ""
          match vs with
          | .none :: _ | .nil :: _ => .error "call of nil"
          | f :: _ => .error ("non-function " ++ callee ++ " of type " ++ f.typeName)
          | [] => .error "call of nil"
        else Builtin.apply name vs
      match result with
      | .ok v => pure v
      | .error e => do
        turnTo cmdAt
        fail ctx "error calling %s: %w" [.text name, .error e]

/-- A field chain that starts at the dot. -/
def fieldNode : Nat → Ctx → Value → Arg → List String → List Arg → Option Value → ExecM Value
  | 0, ctx, _, _, _, _, _ => fail ctx "exceeded maximum template depth (%v)" [.int 100000]
  | _ + 1, ctx, dot, node, names, operands, final => do
    turnTo (argAt node)
    Exec.fieldChain ctx dot names (operands.length > 1 || final.isSome)

/-- A chain of fields after a parenthesized pipeline or other operand. -/
def chainNode : Nat → Ctx → Value → Arg → Arg → List String → List Arg → Option Value →
    ExecM Value
  | 0, ctx, _, _, _, _, _, _ => fail ctx "exceeded maximum template depth (%v)" [.int 100000]
  | fuel + 1, ctx, dot, node, base, names, operands, final => do
    turnTo (argAt node)
    match base with
    | .nil _ => fail ctx "indirection through explicit nil in %s" [argOperand node]
    | _ => pure ()
    let v ← arg fuel ctx dot .untyped base
    Exec.fieldChain ctx v names (operands.length > 1 || final.isSome)

/-- A variable, possibly followed by fields. -/
def variableNode : Nat → Ctx → Value → Arg → String → List String → List Arg →
    Option Value → ExecM Value
  | 0, ctx, _, _, _, _, _, _ => fail ctx "exceeded maximum template depth (%v)" [.int 100000]
  | _ + 1, ctx, _, node, name, names, operands, final => do
    turnTo (argAt node)
    let v ← varValue ctx name
    if names.isEmpty then
      if operands.length > 1 || final.isSome then
        fail ctx "can't give argument to non-function %s" [argOperand (operands.headD node)]
      pure v
    else Exec.fieldChain ctx v names (operands.length > 1 || final.isSome)

/-- One command, with the value piped from the previous one. -/
def command : Nat → Ctx → Value → Command → Option Value → ExecM Value
  | 0, ctx, _, _, _ => fail ctx "exceeded maximum template depth (%v)" [.int 100000]
  | fuel + 1, ctx, dot, cmd, final => do
    let operands := cmd.args
    let notFunction (first : Arg) : ExecM Unit :=
      if operands.length > 1 || final.isSome then
        fail ctx "can't give argument to non-function %s" [argOperand first]
      else pure ()
    match operands with
    | [] => fail ctx "empty command" []
    | first :: rest =>
      match first with
      | .field _ names => fieldNode fuel ctx dot first names operands final
      | .chain _ base names => chainNode fuel ctx dot first base names operands final
      | .ident _ name => do
        turnTo (argAt first)
        function fuel ctx dot ⟨cmd.pos, cmd.render⟩ name rest final
      | .pipe p => do
        notFunction first
        pipeline fuel ctx dot p
      | .var _ name names => variableNode fuel ctx dot first name names operands final
      | .bool _ b => do turnTo (argAt first); notFunction first; pure (.bool b)
      | .dot _ => do turnTo (argAt first); notFunction first; pure dot
      | .nil _ => do turnTo (argAt first); notFunction first; fail ctx "nil is not a command" []
      | .number _ n => do turnTo (argAt first); notFunction first; turnTo (argAt first); constant ctx n
      | .string _ _ s => do turnTo (argAt first); notFunction first; pure (.str s)

/-- The commands of a pipeline, each fed the value of the one before. -/
def commands : Nat → Ctx → Value → List Command → Option Value → ExecM Value
  | 0, ctx, _, _, _ => fail ctx "exceeded maximum template depth (%v)" [.int 100000]
  | _ + 1, _, _, [], final => pure (final.getD .none)
  | fuel + 1, ctx, dot, c :: rest, final => do
    let v ← command fuel ctx dot c final
    commands fuel ctx dot rest (some v)

/-- A pipeline's value; its declared variables are pushed (or assigned). -/
def pipeline : Nat → Ctx → Value → Pipe → ExecM Value
  | 0, ctx, _, _ => fail ctx "exceeded maximum template depth (%v)" [.int 100000]
  | fuel + 1, ctx, dot, p => do
    turnTo ⟨p.pos, p.render⟩
    let v ← commands fuel ctx dot p.cmds none
    for (_, name) in p.decls do
      if p.isAssign then setVar ctx name v else push name v
    pure v

/-- Walk a list of nodes, stopping at `break` or `continue`. -/
def walkList : Nat → Ctx → Value → List Node → ExecM Flow
  | 0, ctx, _, _ => fail ctx "exceeded maximum template depth (%v)" [.int 100000]
  | _ + 1, _, _, [] => pure .normal
  | fuel + 1, ctx, dot, n :: rest => do
    let f ← walk fuel ctx dot n
    if f != .normal then pure f else walkList fuel ctx dot rest

/-- One pass of a `range` body for each index and element. -/
def rangeItems : Nat → Ctx → Pipe → List Node → Nat → List (Value × Value) → ExecM Unit
  | 0, ctx, _, _, _, _ => fail ctx "exceeded maximum template depth (%v)" [.int 100000]
  | _ + 1, _, _, _, _, [] => pure ()
  | fuel + 1, ctx, p, body, mark, (ix, elem) :: rest => do
    let decls := p.decls
    if !decls.isEmpty then
      if p.isAssign then
        if decls.length > 1 then setVar ctx (decls.headD (0, "")).2 ix
        else setVar ctx (decls.headD (0, "")).2 elem
      else setTop 1 elem
    if decls.length > 1 then
      if p.isAssign then setVar ctx (decls.getD 1 (0, "")).2 elem
      else setTop 2 ix
    let f ← walkList fuel ctx elem body
    popTo mark
    if f == .breakLoop then pure () else rangeItems fuel ctx p body mark rest

/-- Walk one node. -/
def walk : Nat → Ctx → Value → Node → ExecM Flow
  | 0, ctx, _, _ => fail ctx "exceeded maximum template depth (%v)" [.int 100000]
  | fuel + 1, ctx, dot, node =>
    match node with
    | .text _ s => do write s; pure .normal
    | .action pos p => do
      let here : At := ⟨pos, "\x7b\x7b" ++ p.render ++ "\x7d\x7d"⟩
      turnTo here
      let v ← pipeline fuel ctx dot p
      if p.decls.isEmpty then
        turnTo here
        write (printed v)
      pure .normal
    | .ifElse pos p body orElse => do
      turnTo ⟨pos, "\x7b\x7bif " ++ p.render ++ "\x7d\x7d"⟩
      let mark := (← get).vars.length
      let v ← pipeline fuel ctx dot p
      let f ← if v.truth then walkList fuel ctx dot body
        else match orElse with
          | some e => walkList fuel ctx dot e
          | none => pure .normal
      popTo mark
      pure f
    | .with_ pos p body orElse => do
      turnTo ⟨pos, "\x7b\x7bwith " ++ p.render ++ "\x7d\x7d"⟩
      let mark := (← get).vars.length
      let v ← pipeline fuel ctx dot p
      let f ← if v.truth then walkList fuel ctx v body
        else match orElse with
          | some e => walkList fuel ctx dot e
          | none => pure .normal
      popTo mark
      pure f
    | .range pos p body orElse => do
      turnTo ⟨pos, "\x7b\x7brange " ++ p.render ++ "\x7d\x7d"⟩
      let mark := (← get).vars.length
      let v ← pipeline fuel ctx dot p
      let mark2 := (← get).vars.length
      let items : Option (List (Value × Value)) ← match v with
        | .list _ xs _ => pure (some ((List.range xs.length).zip xs |>.map (fun (p : Nat × Value) => (.int (p.1 : Int), p.2))))
        | .dict m => pure (some (m.toList.map (fun (k, x) => (.str k, .str x))))
        | .nilDict => pure (some [])
        | .int _ | .octet _ | .uint _ => do
          if p.decls.length > 1 then
            fail ctx "can't use %v to iterate over more than one variable" [.reflected v]
          let n := (Builtin.intOf v).toNat
          -- the counts have the type of the bound
          let count (i : Nat) : Value := match v with
            | .octet _ => .octet i
            | .uint _ => .uint i
            | _ => .int i
          pure (some ((List.range n).map (fun (i : Nat) => (.none, count i))))
        | .none => pure (some [])
        | _ => fail ctx "range can't iterate over %v" [.reflected v]
      let items := items.getD []
      if items.isEmpty then
        match orElse with
        | some e => do
          let f ← walkList fuel ctx dot e
          popTo mark
          pure f
        | none => do popTo mark; pure .normal
      else do
        rangeItems fuel ctx p body mark2 items
        popTo mark
        pure .normal
    | .breakLoop _ => pure .breakLoop
    | .continueLoop _ => pure .continueLoop
    | .call pos name p => do
      let pipeText := match p with
        | some pp => " " ++ pp.render
        | none => ""
      turnTo ⟨pos, "\x7b\x7btemplate " ++ Text.quote name ++ pipeText ++ "\x7d\x7d"⟩
      match ctx.tree.bodies.lookup name with
      | none => fail ctx "template %q not defined" [.text name]
      | some body => do
        if (← get).depth ≥ 100000 then fail ctx "exceeded maximum template depth (%v)" [.int 100000]
        let newDot ← match p with
          | some pp => pipeline fuel ctx dot pp
          | none => pure .none
        let saved ← get
        set { saved with vars := [("$", newDot)], depth := saved.depth + 1 }
        let _ ← walkList fuel { ctx with name := name } newDot body
        modify fun e => { e with vars := saved.vars, node := saved.node, depth := saved.depth }
        pure .normal
end

end Exec

/-- Execute the main body of a parsed template over data, giving the output or the error
message. -/
def Tree.execute (t : Tree) (data : Value) : Except String String :=
  match t.bodies.lookup t.parseName with
  | none => .error (errorf ("template: " ++ doublePercent t.parseName ++
      ": %q is an incomplete or empty template") [.text t.parseName])
  | some body =>
    let ctx : Ctx := { tree := t, name := t.parseName }
    match (Exec.walkList 1000000000 ctx data body).run { vars := [("$", data)] } with
    | .ok (_, env) => .ok (Utf8.normalize env.out)
    | .error e => .error e

end Windowing.Template
