import Windowing.KeyMap
import Windowing.Text.Utf8

set_option autoImplicit false

/-! # Values that templates compute with

The data a template reads is made of text, integers (signed 64-bit, and octets from
indexing text), floats, complex numbers (from constants such as `1+2i`), booleans, maps
from text to text (among them the nil map, which an empty window's first and last
messages hold), lists and records with named fields. A list keeps the elements past its
end up to its capacity, which slicing may reach again. Each value has a type name, which
error messages show, and a truth: empty text, maps and lists, zero numbers and `false` are
false; records are always true. -/

namespace Windowing.Template

/-- A value during template execution. -/
inductive Value where
  | str (s : String)
  | int (n : Int)
  | octet (n : Nat)
  | uint (n : Nat)
  | float (f : Float)
  /-- A complex number, by its real and imaginary parts. -/
  | complex (re im : Float)
  | bool (b : Bool)
  | dict (m : KeyMap String)
  /-- The nil map from text to text: empty, but printed and compared as nil. -/
  | nilDict
  /-- A list: its element type, its elements, and the elements past its end that slicing
  may still reach (those up to its capacity). -/
  | list (elemType : String) (xs : List Value) (spare : List Value)
  | record (typeName : String) (fields : List (String × Value))
  /-- The absent interface value, printed `<nil>`. -/
  | nil
  /-- No value at all, printed `<no value>`. -/
  | none
  deriving Inhabited

/-- The kinds that comparisons distinguish. -/
inductive BasicKind where
  | invalid | bool | int | uint | float | complex | string
  deriving DecidableEq

namespace Value

/-- The name of a value's type, as messages show it. -/
def typeName : Value → String
  | .str _ => "string"
  | .int _ => "int"
  | .octet _ => "uint8"
  | .uint _ => "uint"
  | .float _ => "float64"
  | .complex _ _ => "complex128"
  | .bool _ => "bool"
  | .dict _ | .nilDict => "map[string]string"
  | .list t _ _ => "[]" ++ t
  | .record t _ => t
  | .nil => "<nil>"
  | .none => "<invalid Value>"

/-- The comparison kind of a value. -/
def basicKind : Value → BasicKind
  | .str _ => .string
  | .int _ => .int
  | .octet _ | .uint _ => .uint
  | .float _ => .float
  | .complex _ _ => .complex
  | .bool _ => .bool
  | _ => .invalid

/-- Whether a value is text. -/
def isString : Value → Bool
  | .str _ => true
  | _ => false

/-- The truth of a value, as `if`, `with`, `and`, `or` and `not` read it. -/
def truth : Value → Bool
  | .str s => !s.isEmpty
  | .int n => n != 0
  | .octet n | .uint n => n != 0
  | .float f => f != 0
  | .complex re im => re != 0 || im != 0
  | .bool b => b
  | .dict m => !m.isEmpty
  | .nilDict => false
  | .list _ xs _ => !xs.isEmpty
  | .record _ _ => true
  | .nil | .none => false

/-- The length of text (in octets), a map or a list. -/
def length? : Value → Option Nat
  | .str s => some (Utf8.size s)
  | .dict m => some m.size
  | .nilDict => some 0
  | .list _ xs _ => some xs.length
  | _ => Option.none

end Value

end Windowing.Template
