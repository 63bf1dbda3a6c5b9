import Windowing.Sql.JsonCall
import Windowing.Sql.Scope

set_option autoImplicit false

/-! # JSON as a table

`json_each(X)` has a row for each element of the array or object `X` is (or one row for
`X` itself when it is neither); `json_each(X, P)` does the same for the part of `X` at the
path `P`. `json_tree` walks the whole part instead, the part itself first and then each
element before the elements inside it.

A row shows an element's key (its label, or its index in an array), its value as an SQL
value (an array or object as JSON text), its type, its atom (the value, when it is neither
an array nor an object), its id, the id of the element it is in (`json_tree` only), its
full path and the path of the element it is in. An element's id is where it starts in the
binary form of the document: where its label starts, for an object's member.

The key and path of `json_tree`'s first row, when a path is given, are read from that path:
the path is cut before its last step whose part starts the part the path names (or else
after its `$`), and what follows the cut is the key. -/

namespace Windowing.Sql

/-- The length of a value's binary form. -/
def JsonValue.binarySize (v : JsonValue) : Nat := v.binary.length

/-- The length of a label's binary form. -/
def JsonLabel.binarySize (l : JsonLabel) : Nat := (binaryElement l.form.code (Utf8.bytes l.text)).length

/-- The length of the header of a value's binary form. -/
def JsonValue.headerSize (v : JsonValue) : Nat :=
  match v with
  | .arr items => v.binarySize - (binaryItems items).length
  | .obj fields => v.binarySize - (binaryFields fields).length
  | .num _ t | .str _ t => v.binarySize - (Utf8.bytes t).length
  | .null | .bool _ => 1

/-- An element inside an array or object: its label (for an object's member), its index,
its value, its id, and where its value starts. -/
structure JsonChild where
  label : Option JsonLabel
  index : Nat
  value : JsonValue
  id : Nat
  offset : Nat

/-- The elements inside a value that starts at an offset, in turn. -/
def JsonValue.children (v : JsonValue) (offset : Nat) : List JsonChild :=
  let start := offset + v.headerSize
  match v with
  | .arr items =>
    (items.foldl (fun (acc, cursor, k) item =>
      (acc ++ [{ label := none, index := k, value := item, id := cursor, offset := cursor }],
       cursor + item.binarySize, k + 1)) (([] : List JsonChild), start, 0)).1
  | .obj fields =>
    (fields.foldl (fun (acc, cursor, k) (l, x) =>
      let valueAt := cursor + l.binarySize
      (acc ++ [{ label := some l, index := k, value := x, id := cursor, offset := valueAt }],
       valueAt + x.binarySize, k + 1)) (([] : List JsonChild), start, 0)).1
  | _ => []

/-- Find the part of a value (that starts at an offset) a path names, as `JsonValue.lookup`
does: the part, where it starts, and where its label starts when it is an object's member. -/
def JsonValue.locate : Nat → List Char → JsonValue → Nat → Option Nat →
    PathResult (JsonValue × Nat × Option Nat)
  | 0, _, _, _, _ => .notFound
  | _ + 1, [], v, offset, label => .found (v, offset, label)
  | fuel + 1, '.' :: path, v, offset, _ =>
    match memberStep path with
    | none => .badPath
    | some (key, raw, rest) =>
      match v with
      | .obj _ =>
        let named (c : JsonChild) : Bool :=
          match c.label with
          | some l => labelMatches key raw l
          | none => false
        match (v.children offset).find? named with
        | some c => c.value.locate fuel rest c.offset (some c.id)
        | none => .notFound
      | _ => .notFound
  | fuel + 1, '[' :: path, v, offset, _ =>
    match v with
    | .arr items =>
      match indexStep path items.length with
      | .error () => .badPath
      | .ok (none, _) => .notFound
      | .ok (some k, rest) =>
        match (v.children offset)[k]? with
        | some c => c.value.locate fuel rest c.offset none
        | none => .notFound
    | _ => .notFound
  | _ + 1, _, _, _, _ => .badPath

/-- Whether an octet is an ASCII letter. -/
def isAsciiLetter (b : UInt8) : Bool := (65 ≤ b && b ≤ 90) || (97 ≤ b && b ≤ 122)

/-- Whether an octet is an ASCII letter or digit. -/
def isAsciiLetterOrDigit (b : UInt8) : Bool := isAsciiLetter b || (48 ≤ b && b ≤ 57)

/-- The step a path takes to an element: its index in brackets, or its label as written
(in quotes unless it is a letter and then letters and digits). -/
def JsonChild.step (c : JsonChild) : String :=
  match c.label with
  | none => "[" ++ toString c.index ++ "]"
  | some l =>
    let bs := Utf8.bytes l.text
    let plain := match bs with
      | b :: rest => isAsciiLetter b && rest.all isAsciiLetterOrDigit
      | [] => false
    if plain then "." ++ l.text else ".\"" ++ l.text ++ "\""

/-- A row of `json_each` or `json_tree`. -/
structure JsonEachRow where
  key : Value
  value : Value
  type : String
  atom : Value
  id : Nat
  parent : Option Nat
  fullkey : String
  path : String

/-- A row for an element, with its key, id, parent and paths. -/
def JsonValue.eachRow (v : JsonValue) (key : Value) (id : Nat) (parent : Option Nat)
    (fullkey path : String) : Fallible JsonEachRow := do
  let value ← jsonSqlValue v
  pure { key, value, type := v.typeName, atom := if v.isContainer then .null else value, id, parent,
         fullkey, path }

/-- The key of an element inside a container. -/
def JsonChild.key (c : JsonChild) : Value :=
  match c.label with
  | some l => .text l.key
  | none => .int c.index

/-- The rows of the elements inside a value and of those inside them, each element before
those inside it: `path` is the full path of the value and `id` its id. -/
def JsonValue.treeRows : Nat → JsonValue → Nat → Nat → String → Fallible (List JsonEachRow)
  | 0, _, _, _, _ => pure []
  | fuel + 1, v, offset, id, path =>
    (v.children offset).foldlM (fun acc c => do
      let full := path ++ c.step
      let row ← c.value.eachRow c.key c.id (some id) full path
      let inner ← c.value.treeRows fuel c.offset c.id full
      pure (acc ++ row :: inner)) []

/-- The leading integer of a text, as a key written in a path. -/
def leadingInteger (cs : List Char) : Int :=
  let (neg, ds) := match cs with
    | '-' :: r => (true, r)
    | '+' :: r => (false, r)
    | r => (false, r)
  let n : Nat := (ds.takeWhile Char.isDigit).foldl (fun n c => n * 10 + (c.toNat - 48)) 0
  if neg then -(n : Int) else n

/-- The key and path of `json_tree`'s first row when a path is given: the path is cut
before the last of its steps whose part has the named part first (or else after the `$`);
the key is what follows the cut, an index read as an integer and a quoted label without its
quotes. `id` is the first row's id. -/
def treeRootKey (doc : JsonValue) (root : String) (id : Nat) : Value × String :=
  let cs := root.toList
  let startsAt (n : Nat) : Bool :=
    match cs[n]? with
    | some '[' | some '.' =>
      match doc.locate (cs.length + 2) ((cs.take n).drop 1) 0 none with
      | .found (x, offset, _) => offset + x.headerSize == id
      | _ => false
    | _ => false
  let cut := ((List.range cs.length).reverse.filter (fun n => n ≥ 1)).find? startsAt |>.getD 1
  let rest := cs.drop cut
  let key : Value :=
    match rest with
    | [] => .null
    | '[' :: more => .int (leadingInteger more)
    | _ :: '"' :: more => .text (String.ofList (more.take (rest.length - 3)))
    | _ :: more => .text (String.ofList more)
  (key, String.ofList (cs.take cut))

/-- The rows of `json_each` (`tree` false) or `json_tree` (true) for a document and the
path of the part to walk (none: the whole document). -/
def jsonEachRows (tree : Bool) (doc : JsonValue) (root : Option String) : Fallible (List JsonEachRow) := do
  let rootPath := root.getD "$"
  let some (part, offset, label) ←
      (match root with
      | none | some "$" => pure (some (doc, 0, none))
      | some p =>
        match pathAfterRoot p with
        | none => throw (badJsonPath p)
        | some steps =>
          match doc.locate (steps.length + 2) steps 0 none with
          | .found r => pure (some r)
          | .notFound => pure none
          | .badPath => throw (badJsonPath p) : Fallible (Option (JsonValue × Nat × Option Nat)))
    | pure []
  let id := label.getD offset
  if tree then
    let (key, path) := if rootPath.length == 1 then (Value.null, rootPath) else treeRootKey doc rootPath id
    let first ← part.eachRow key id none rootPath path
    let inner ← part.treeRows (part.binarySize + 1) offset id rootPath
    pure (first :: inner)
  else if part.isContainer then
    (part.children offset).mapM fun c => c.value.eachRow c.key c.id none (rootPath ++ c.step) rootPath
  else
    pure [← part.eachRow .null id none rootPath rootPath]

/-- The columns of `json_each` and `json_tree`; the document and the path are hidden. -/
def jsonEachColumns : List ColumnInfo :=
  (["key", "value", "type", "atom", "id", "parent", "fullkey", "path"].map fun n =>
    ({ name := n, affinity := some .blob } : ColumnInfo)) ++
  (["json", "root"].map fun n => ({ name := n, affinity := some .blob, unlisted := true } : ColumnInfo))

/-- The table functions: their names, columns and most arguments. -/
def tableFunctions : List (String × List ColumnInfo × Nat) :=
  [("json_each", jsonEachColumns, 2), ("json_tree", jsonEachColumns, 2)]

/-- The table function of a name, with its columns and most arguments. -/
def tableFunction? (n : String) : Option (String × List ColumnInfo × Nat) :=
  tableFunctions.find? fun (m, _) => m == n.toLower

/-- The rows of a table function for its arguments, each with which of its values are
marked as JSON (the value of an array or object). -/
def tableFunctionRows (name : String) (args : List Value) : Fallible (List (List Value × List Bool)) := do
  let tree := name.toLower == "json_tree"
  match args with
  | [] => pure []
  | json :: rest =>
    let root : Option Value := rest.head?
    if root.any Value.isNull then return []
    let some doc ← jsonArg json | return []
    let rootText := root.map fun r => r.asText.getD ""
    let rows ← jsonEachRows tree doc rootText
    pure (rows.map fun r =>
      ([r.key, r.value, .text r.type, r.atom, .int r.id, (r.parent.map fun p => Value.int p).getD .null,
        .text r.fullkey, .text r.path, json, .text (rootText.getD "$")],
       [false, r.type == "array" || r.type == "object"]))

end Windowing.Sql
