set_option autoImplicit false

/-! # Syntax of text templates

A template is text with actions between double braces. An action holds a pipeline: an
optional declaration of variables, then commands separated by `|`, where each command is
a function, field chain, variable or constant followed by its arguments, and the value of
one command becomes the last argument of the next. Control actions (`if`, `range`,
`with`, `template`, `block`, `define`, `break`, `continue`) structure the text.

Every node keeps the octet offset where it starts, so that an execution error can name the
line and column; `Arg.render`, `Command.render` and `Pipe.render` give the canonical text
that error messages quote. -/

namespace Windowing.Template

/-- A number constant as written, with the readings it admits. -/
structure Number where
  text : String
  asInt : Option Int := none
  asUint : Option Nat := none
  asFloat : Option Float := none
  /-- Whether the text is a character constant such as 'a'. -/
  isChar : Bool := false
  /-- The real and imaginary parts, when the text is a complex constant such as `1+2i`. -/
  asComplex : Option (Float × Float) := none
  deriving Inhabited

mutual
/-- An operand of a command. -/
inductive Arg where
  | field (pos : Nat) (idents : List String)
  | var (pos : Nat) (name : String) (fields : List String)
  | chain (pos : Nat) (base : Arg) (fields : List String)
  | ident (pos : Nat) (name : String)
  | dot (pos : Nat)
  | nil (pos : Nat)
  | bool (pos : Nat) (b : Bool)
  | number (pos : Nat) (n : Number)
  | string (pos : Nat) (quoted : String) (text : String)
  | pipe (p : Pipe)

/-- A command: its first operand is the function or value, the rest are arguments. -/
inductive Command where
  | mk (pos : Nat) (args : List Arg)

/-- A pipeline, with the variables it declares (or assigns, when `isAssign`). -/
inductive Pipe where
  | mk (pos : Nat) (isAssign : Bool) (decls : List (Nat × String)) (cmds : List Command)
end

instance : Inhabited Arg := ⟨.dot 0⟩
instance : Inhabited Pipe := ⟨.mk 0 false [] []⟩

/-- A node of a template body. -/
inductive Node where
  | text (pos : Nat) (s : String)
  | action (pos : Nat) (pipe : Pipe)
  | ifElse (pos : Nat) (pipe : Pipe) (body : List Node) (orElse : Option (List Node))
  | range (pos : Nat) (pipe : Pipe) (body : List Node) (orElse : Option (List Node))
  | with_ (pos : Nat) (pipe : Pipe) (body : List Node) (orElse : Option (List Node))
  | breakLoop (pos : Nat)
  | continueLoop (pos : Nat)
  | call (pos : Nat) (name : String) (pipe : Option Pipe)
  deriving Inhabited

/-- A parsed template set: the named bodies, the main one among them. -/
structure Tree where
  /-- The name the text was parsed under; error locations use it. -/
  parseName : String
  /-- The whole text, for turning offsets into lines and columns. -/
  source : String
  bodies : List (String × List Node)
  deriving Inhabited

namespace Pipe

def pos : Pipe → Nat
  | .mk p _ _ _ => p

def decls : Pipe → List (Nat × String)
  | .mk _ _ d _ => d

def isAssign : Pipe → Bool
  | .mk _ a _ _ => a

def cmds : Pipe → List Command
  | .mk _ _ _ c => c

end Pipe

def Command.pos : Command → Nat
  | .mk p _ => p

def Command.args : Command → List Arg
  | .mk _ a => a

/-- The offset where an operand starts. -/
def Arg.pos : Arg → Nat
  | .field p _ | .var p _ _ | .chain p _ _ | .ident p _ | .dot p | .nil p | .bool p _
  | .number p _ | .string p _ _ => p
  | .pipe p => p.pos

/-- The field path `.a.b` of a list of names. -/
def fieldsText (fs : List String) : String :=
  String.join (fs.map (fun f => "." ++ f))

mutual
/-- The canonical text of an operand. -/
def Arg.render : Arg → String
  | .field _ idents => fieldsText idents
  | .var _ name fields => name ++ fieldsText fields
  | .chain _ (.pipe p) fields => "(" ++ p.render ++ ")" ++ fieldsText fields
  | .chain _ b fields => b.render ++ fieldsText fields
  | .ident _ name => name
  | .dot _ => "."
  | .nil _ => "nil"
  | .bool _ b => if b then "true" else "false"
  | .number _ n => n.text
  | .string _ q _ => q
  | .pipe p => p.render

/-- An operand inside a command: an inner pipeline gets parentheses. -/
def Arg.renderOperand : Arg → String
  | .pipe p => "(" ++ p.render ++ ")"
  | a => a.render

/-- Operands separated by blanks. -/
def renderOperands : List Arg → String
  | [] => ""
  | [a] => a.renderOperand
  | a :: rest => a.renderOperand ++ " " ++ renderOperands rest

/-- Commands separated by bars. -/
def renderCommands : List Command → String
  | [] => ""
  | [c] => c.render
  | c :: rest => c.render ++ " | " ++ renderCommands rest

/-- The canonical text of a command. -/
def Command.render : Command → String
  | .mk _ args => renderOperands args

/-- The canonical text of a pipeline. -/
def Pipe.render : Pipe → String
  | .mk _ isAssign decls cmds =>
    let d := if decls.isEmpty then ""
      else ", ".intercalate (decls.map (·.2)) ++ (if isAssign then " = " else " := ")
    d ++ renderCommands cmds
end

/-- Whether an operand is a constant (which cannot take a piped value). -/
def Arg.isConstant : Arg → Bool
  | .bool _ _ | .dot _ | .nil _ | .number _ _ | .string _ _ _ => true
  | _ => false

end Windowing.Template
