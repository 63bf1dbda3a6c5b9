import Windowing.Json

set_option autoImplicit false

/-! # JSON schemas

A schema may ask for a type, a least number, a least string length (in characters),
required fields, schemas for named fields, whether other fields are refused (or a schema
they must meet), a schema for every array element, and a list of alternatives of which at
least one must hold.

Checking a value gives its problems, each at the path of the value it is about (`(root)`
for the whole value, then field names and element indices joined by dots). A value of
the wrong type has that one problem and nothing else is checked below it. When no
alternative holds, the problems are the alternatives' complaint and those of the
alternative that came closest, the one whose check got furthest (the earliest of equals).
How far a check got is a score: one for each part of the check completed. -/

namespace Windowing

/-- The types a schema can ask for. -/
inductive JsonType where
  | integer
  | number
  | string
  | boolean
  | null
  | array
  | object
  deriving BEq

/-- The name of a type. -/
def JsonType.name : JsonType → String
  | .integer => "integer"
  | .number => "number"
  | .string => "string"
  | .boolean => "boolean"
  | .null => "null"
  | .array => "array"
  | .object => "object"

/-- A schema. -/
structure Schema where
  type : Option JsonType := none
  minimum : Option Int := none
  minLength : Option Nat := none
  required : List String := []
  properties : List (String × Schema) := []
  /-- Whether fields other than the named ones are refused. -/
  closed : Bool := false
  /-- The schema fields other than the named ones must meet. -/
  additional : Option Schema := none
  items : Option Schema := none
  anyOf : List Schema := []

/-- A problem found by a check: the path of the value and what is wrong. -/
structure Problem where
  path : List String
  description : String

/-- The text of a problem: its field, a colon, and its description. -/
def Problem.text (p : Problem) : String :=
  let field := if p.path.isEmpty then "(root)" else ".".intercalate p.path
  field ++ ": " ++ p.description

/-- The problems of a check and how far it got. -/
structure Findings where
  problems : List Problem := []
  score : Nat := 0

namespace Findings

/-- Add a problem. -/
def add (o : Findings) (path : List String) (description : String) : Findings :=
  { o with problems := o.problems ++ [{ path, description }] }

/-- Count one completed part. -/
def bump (o : Findings) : Findings := { o with score := o.score + 1 }

/-- Take in the problems and score of a check below this one. -/
def merge (o other : Findings) : Findings :=
  { problems := o.problems ++ other.problems, score := o.score + other.score }

end Findings

/-- The type a value has, as problems name it: a number is an integer when it is whole. -/
def Json.typeName : Json → String
  | .null => "null"
  | .bool _ => "boolean"
  | .int _ => "integer"
  | .float f => if f.floor == f then "integer" else "number"
  | .str _ => "string"
  | .arr _ => "array"
  | .obj _ => "object"

/-- Whether a value has a type a schema asks for. -/
def JsonType.admits (t : JsonType) (v : Json) : Bool :=
  match t, v with
  | .null, .null => true
  | .boolean, .bool _ => true
  | .number, .int _ | .number, .float _ => true
  | .integer, .int _ => true
  | .integer, .float f => f.floor == f
  | .string, .str _ => true
  | .array, .arr _ => true
  | .object, .obj _ => true
  | _, _ => false

/-- Whether a number is below a least value. -/
def belowMinimum (v : Json) (m : Int) : Bool :=
  match v with
  | .int i => i < m
  | .float f => f < Float.ofInt m
  | _ => false

mutual

/-- Check a value against a schema, adding to an outcome. -/
def Schema.check : Nat → Schema → Json → List String → Findings → Findings
  | 0, _, _, _, o => o
  | fuel + 1, s, v, path, o =>
    match s.type with
    | some t =>
      if !t.admits v then
        o.add path ("Invalid type. Expected: " ++ t.name ++ ", given: " ++ v.typeName)
      else Schema.checkAdmitted fuel s v path o
    | none => Schema.checkAdmitted fuel s v path o

/-- Check a value whose type the schema admits. -/
def Schema.checkAdmitted : Nat → Schema → Json → List String → Findings → Findings
  | 0, _, _, _, o => o
  | fuel + 1, s, v, path, o =>
    let o :=
      if s.anyOf.isEmpty then o
      else match Schema.checkAnyOf fuel s.anyOf v path none with
        | none => o
        | some best =>
          (o.add path "Must validate at least one schema (anyOf)").merge (best.getD {})
    let o := match v with
      | .int _ | .float _ =>
        let o := match s.minimum with
          | some m =>
            if belowMinimum v m then o.add path ("Must be greater than or equal to " ++ toString m)
            else o
          | none => o
        o.bump.bump
      | .str text =>
        let o := o.bump
        let o := match s.minLength with
          | some m =>
            if text.length < m then
              o.add path ("String length must be greater than or equal to " ++ toString m)
            else o
          | none => o
        o.bump
      | .arr items =>
        let o := match s.items with
          | some is => Schema.checkItems fuel is items path 0 o
          | none => o
        o.bump.bump
      | .obj fields =>
        let o := s.required.foldl (fun (o : Findings) r =>
          if (fields.lookup r).isSome then o.bump
          else o.add path (r ++ " is required")) o
        let o := Schema.checkExtra fuel s fields path o
        let o := o.bump.bump
        Schema.checkProperties fuel s.properties fields path o
      | _ => o.bump
    o.bump

/-- Check the alternatives in order: none when one holds, otherwise the outcome of the
one that got furthest (the earliest of equals). -/
def Schema.checkAnyOf : Nat → List Schema → Json → List String → Option Findings →
    Option (Option Findings)
  | 0, _, _, _, _ => none
  | _ + 1, [], _, _, best => some best
  | fuel + 1, a :: rest, v, path, best =>
    let r := Schema.check fuel a v path {}
    if r.problems.isEmpty then none
    else
      let best := match best with
        | some b => if r.score > b.score then some r else some b
        | none => some r
      Schema.checkAnyOf fuel rest v path best

/-- Check every element of an array. -/
def Schema.checkItems : Nat → Schema → List Json → List String → Nat → Findings → Findings
  | 0, _, _, _, _, o => o
  | _ + 1, _, [], _, _, o => o
  | fuel + 1, s, v :: rest, path, i, o =>
    let o := o.merge (Schema.check fuel s v (path ++ [toString i]) {})
    Schema.checkItems fuel s rest path (i + 1) o

/-- Check the fields a schema does not name: refused, or checked against its schema for
them. -/
def Schema.checkExtra : Nat → Schema → List (String × Json) → List String → Findings → Findings
  | 0, _, _, _, o => o
  | _ + 1, _, [], _, o => o
  | fuel + 1, s, (k, v) :: rest, path, o =>
    let o :=
      if s.properties.any (·.1 == k) then o
      else if s.closed then o.add path ("Additional property " ++ k ++ " is not allowed")
      else match s.additional with
        | some a => o.merge (Schema.check fuel a v (path ++ [k]) {})
        | none => o
    Schema.checkExtra fuel s rest path o

/-- Check the named fields that are present. -/
def Schema.checkProperties : Nat → List (String × Schema) → List (String × Json) →
    List String → Findings → Findings
  | 0, _, _, _, o => o
  | _ + 1, [], _, _, o => o
  | fuel + 1, (name, p) :: rest, fields, path, o =>
    let o := match fields.lookup name with
      | some v => Schema.check fuel p v (path ++ [name]) o
      | none => o
    Schema.checkProperties fuel rest fields path o

end

/-- The problems of a value against a schema, as texts in byte order. -/
def Schema.problems (s : Schema) (v : Json) : List String :=
  let o := Schema.check 100000 s v [] {}
  (o.problems.map Problem.text).mergeSort (fun a b => decide (a ≤ b))

end Windowing
