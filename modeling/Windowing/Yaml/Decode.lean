import Windowing.Yaml.Node
import Windowing.Duration.Text
import Windowing.Text.Quote
import Windowing.Decimal.Shortest
import Windowing.Text.Base64

set_option autoImplicit false

/-! # Decoding YAML nodes into values

A node is decoded against a *shape*: anything, a text, an integer, a boolean, a duration,
a list, a map of texts, a map to anything, a record with named fields, or an optional
reference to one of these.

* Any scalar decodes into a text as its text. An integer takes integers and floats that
  fit (a float is cut toward zero); a boolean takes booleans and the words `y`, `yes`,
  `on`, `n`, `no`, `off` in three spellings. A duration reads its scalar's text as a
  duration setting, and any other node or bad text stops the decoding.
* Null leaves texts, numbers, booleans and records unset, and sets lists, maps, references
  and values of any shape to nothing.
* A mapping whose key repeats (same kind, same text) is refused; a record takes the
  entries that name its fields and ignores the rest; a key decoding to a list or map stops
  the decoding.
* Elements of a list that do not decode are left out.
* A node that does not fit its shape is a type error; type errors are collected and
  decoding goes on, so all of them are reported together.
* An alias decodes as the node it names; an alias met again while it is being decoded
  stops the decoding.
* `<<` merges the entries of a mapping (or of a list of mappings, earlier ones first)
  whose keys the mapping does not give itself, even as null; a merged mapping's own merge
  key merges further under the same rule.
* Decoding counts its work; a document where nodes reached through aliases make up
  nearly all of it is refused. -/

namespace Windowing.Yaml

/-- A decoded value. -/
inductive Data where
  | null
  | bool (b : Bool)
  | int (i : Int)
  | uint (n : Nat)
  | float (f : Float)
  | str (s : String)
  | time (t : Timestamp)
  | seq (items : List Data)
  /-- A map whose keys are texts. -/
  | dict (entries : List (String × Data))
  /-- A map whose keys are any values. -/
  | map (entries : List (Data × Data))
  | record (fields : List (String × Data))
  deriving Inhabited

/-- What a node is decoded into. -/
inductive Shape where
  | any
  | text
  | int
  | bool
  | duration
  | list (elem : Shape)
  | textMap
  | anyMap
  | record (name : String) (fields : List (String × Shape))
  | pointer (target : Shape)
  deriving Inhabited

/-- The name of a shape's type, as type errors show it. -/
def Shape.typeName : Shape → String
  | .any => "interface {}"
  | .text => "string"
  | .int => "int"
  | .bool => "bool"
  | .duration => "config.Duration"
  | .list e => "[]" ++ e.typeName
  | .textMap => "map[string]string"
  | .anyMap => "map[string]interface {}"
  | .record name _ => name
  | .pointer t => "*" ++ t.typeName

/-- Whether nothing of a shape can be set to nothing by null. -/
def Shape.nullable : Shape → Bool
  | .any | .list _ | .textMap | .anyMap | .pointer _ => true
  | _ => false

/-- The value a shape holds before anything is decoded into it. -/
def Shape.zero : Shape → Data
  | .text => .str ""
  | .int | .duration => .int 0
  | .bool => .bool false
  | .record _ _ => .record []
  | _ => .null

/-- A resolved scalar as a value. -/
def Scalar.toData : Scalar → Data
  | .null => .null
  | .bool b => .bool b
  | .int i => .int i
  | .uint n => .uint n
  | .float f => .float f
  | .str s => .str s
  | .time t => .time t

/-- Whether a node is a string by its tag or by its quoting. -/
def Node.indicatedString (n : Node) : Bool :=
  n.kind == .scalar &&
    (shortTag n.tag == "!!str" || ((n.tag == "" || n.tag == "!") && n.style != .plain))

/-- The short tag of a node that is not an alias. -/
def Node.ownShortTag (n : Node) : String :=
  if n.indicatedString then "!!str"
  else if n.tag == "" || n.tag == "!" then
    match n.kind with
    | .mapping => "!!map"
    | .sequence => "!!seq"
    | .scalar => plainTag n.value
    | _ => ""
  else shortTag n.tag

/-- The short tag of a node; an alias has the tag of the node it names. -/
def Document.shortTagOf (d : Document) (n : Node) : String :=
  if n.kind == .alias then
    match d.anchored[n.target]? with
    | some t => t.ownShortTag
    | none => ""
  else n.ownShortTag

/-- Whether a key is the merge key `<<`. -/
def Node.isMerge (n : Node) : Bool :=
  n.kind == .scalar && n.value == "<<" &&
    (n.tag == "" || n.tag == "!" || shortTag n.tag == "!!merge")

/-- The entries of a mapping node as key and value pairs. -/
def pairsOf : List Node → List (Node × Node)
  | k :: v :: rest => (k, v) :: pairsOf rest
  | _ => []

/-- The messages of repeated keys in a mapping: each later key with the same kind and text
as an earlier one. -/
def repeatedKeys (keys : List Node) : List String :=
  let rec go : List Node → List String
    | [] => []
    | k :: rest =>
      (rest.filter (fun j => j.kind == k.kind && j.value == k.value)).map (fun j =>
        "line " ++ toString j.line ++ ": mapping key " ++ Text.quote j.value ++
          " already defined at line " ++ toString k.line) ++ go rest
  go keys

mutual

/-- A value written in the syntax of the value's own language, as map-key complaints
show it: lists and maps of anything with their element type, nothing as a typed nil. -/
def Data.goSyntax : Data → String
  | .null => "interface {}(nil)"
  | .bool b => toString b
  | .int i => toString i
  | .uint n => "0x" ++ String.ofList (Nat.toDigits 16 n)
  | .float f => Decimal.formatFloat f 'g' none
  | .str s => Text.quote s
  | .time t => t.goSyntax
  | .seq items => "[]interface {}" ++ "\x7b" ++ Data.goSyntaxItems items ++ "\x7d"
  | .dict entries => "map[string]interface {}" ++ "\x7b" ++ Data.goSyntaxDict entries ++ "\x7d"
  | .map entries => "map[interface {}]interface {}" ++ "\x7b" ++ Data.goSyntaxMap entries ++ "\x7d"
  | .record _ => "\x7b\x7d"

/-- Elements written in the syntax of their language, separated by commas. -/
def Data.goSyntaxItems : List Data → String
  | [] => ""
  | [d] => d.goSyntax
  | d :: rest => d.goSyntax ++ ", " ++ Data.goSyntaxItems rest

/-- Text-keyed entries written in the syntax of their language. -/
def Data.goSyntaxDict : List (String × Data) → String
  | [] => ""
  | [(k, v)] => Text.quote k ++ ":" ++ v.goSyntax
  | (k, v) :: rest => Text.quote k ++ ":" ++ v.goSyntax ++ ", " ++ Data.goSyntaxDict rest

/-- Entries with keys of any kind written in the syntax of their language. -/
def Data.goSyntaxMap : List (Data × Data) → String
  | [] => ""
  | [(k, v)] => k.goSyntax ++ ":" ++ v.goSyntax
  | (k, v) :: rest => k.goSyntax ++ ":" ++ v.goSyntax ++ ", " ++ Data.goSyntaxMap rest

end

/-- A value with the entries of its text-keyed maps in key order, to a depth. -/
def Data.sortKeys : Nat → Data → Data
  | 0, d => d
  | n + 1, .seq items => .seq (items.map (Data.sortKeys n))
  | n + 1, .dict es =>
    .dict ((es.map fun e => (e.1, Data.sortKeys n e.2)).mergeSort (fun a b => decide (a.1 ≤ b.1)))
  | n + 1, .map es => .map (es.map fun e => (Data.sortKeys n e.1, Data.sortKeys n e.2))
  | _, d => d

/-- Whether a value is a list or a map. -/
def Data.isCollection : Data → Bool
  | .seq _ | .dict _ | .map _ => true
  | _ => false

/-- Look up a text key. -/
def Data.lookupKey (entries : List (Data × Data)) (k : Data) : Bool :=
  entries.any fun e =>
    match e.1, k with
    | .str a, .str b => a == b
    | .int a, .int b => a == b
    | .uint a, .uint b => a == b
    | .bool a, .bool b => a == b
    | .null, .null => true
    | .float a, .float b => a == b
    | .time a, .time b =>
      -- moments in a zone of their own never equal another key
      a.offset == 0 && b.offset == 0 && a.year == b.year && a.month == b.month &&
        a.day == b.day && a.hour == b.hour && a.minute == b.minute && a.second == b.second &&
        a.nanos == b.nanos
    | _, _ => false

/-- Set a key of a map of any keys, replacing an equal key. -/
def setAnyKey (entries : List (Data × Data)) (k v : Data) : List (Data × Data) :=
  if Data.lookupKey entries k then
    entries.map fun e => if Data.lookupKey [e] k then (e.1, v) else e
  else entries ++ [(k, v)]

/-- Set a text key, replacing an equal key. -/
def setTextKey {α : Type} (entries : List (String × α)) (k : String) (v : α) : List (String × α) :=
  if entries.any (·.1 == k) then entries.map fun e => if e.1 == k then (k, v) else e
  else entries ++ [(k, v)]

/-- The decoder's state: the document, the type errors so far, the aliases being
decoded, and the work done. -/
structure Decoder where
  doc : Document
  errors : Array String := #[]
  expanding : List Nat := []
  /-- Nodes decoded so far, and how many of them were reached through an alias. -/
  decoded : Nat := 0
  aliased : Nat := 0

/-- Decoding: state, and a failure that stops it. -/
abbrev DecodeM := StateT Decoder (Except String)

/-- Record a type error of a node that does not fit a shape. -/
def typeError (n : Node) (tag : String) (s : Shape) : DecodeM (Option Data) := do
  let tag := shortTag (if n.tag != "" then n.tag else tag)
  let shown :=
    if tag == "!!seq" || tag == "!!map" then ""
    else if Utf8.size n.value > 10 then " `" ++ Utf8.sliceBytes n.value 0 7 ++ "...`"
    else " `" ++ n.value ++ "`"
  let msg := "line " ++ toString n.line ++ ": cannot unmarshal " ++ tag ++ shown ++ " into " ++ s.typeName
  modify fun d => { d with errors := d.errors.push msg }
  pure none

/-- A float cut toward zero into the signed 64-bit range; out of range gives the least
value. -/
def truncateFloat (f : Float) : Int :=
  if f.isNaN || f.isInf then -9223372036854775808
  else
    let a := f.abs
    if a ≥ 9223372036854775808.0 then -9223372036854775808
    else
      let n := a.floor.toUInt64.toNat
      if f < 0 then -(n : Int) else n

/-- Whether a text is one of the words for true or for false. -/
def boolWord (s : String) : Option Bool :=
  if ["y", "Y", "yes", "Yes", "YES", "on", "On", "ON"].contains s then some true
  else if ["n", "N", "no", "No", "NO", "off", "Off", "OFF"].contains s then some false
  else none

/-- Decode a scalar node. -/
def decodeScalar (n : Node) (s : Shape) : DecodeM (Option Data) := do
  let (tag, v) ←
    if n.indicatedString then pure ("!!str", Scalar.str n.value)
    else match resolve n.tag n.value with
      | .ok ("!!binary", _) =>
        match Text.decodeBase64 n.value with
        | some bs => pure ("!!binary", Scalar.str (Utf8.decodeLossy bs))
        | none => throw "yaml: !!binary value contains invalid base64 data"
      | .ok r => pure r
      | .error m => throw ("yaml: " ++ m)
  match v with
  | .null => pure (if s.nullable then some .null else none)
  | _ =>
    match s with
    | .any => pure (some v.toData)
    | .text =>
      match tag, v with
      | "!!binary", .str t => pure (some (.str t))
      | _, _ => pure (some (.str n.value))
    | .int =>
      match v with
      | .int i => pure (some (.int i))
      | .float f =>
        if f ≤ 9223372036854775808.0 then pure (some (.int (truncateFloat f)))
        else typeError n tag s
      | _ => typeError n tag s
    | .bool =>
      match v with
      | .bool b => pure (some (.bool b))
      | .str t =>
        match boolWord t with
        | some b => pure (some (.bool b))
        | none => typeError n tag s
      | _ => typeError n tag s
    | _ => typeError n tag s

/-- Read a duration from a node. -/
def decodeDuration (n : Node) : DecodeM (Option Data) := do
  if n.kind != .scalar then
    throw ("line " ++ toString n.line ++ ": duration must be a scalar")
  match Duration.parseSetting n.value with
  | .ok d => pure (some (.int d.toInt))
  | .error e => throw ("line " ++ toString n.line ++ ": " ++ e)

/-- The node an alias names. -/
def targetOf (n : Node) : DecodeM Node := do
  pure (((← get).doc.anchored[n.target]?).getD { kind := .scalar })

/-- The share of the decoding work that aliases may account for, by the amount of work:
99% up to 400000 nodes, falling evenly to 10% at 4000000. -/
def allowedAliasRatio (decoded : Nat) : Float :=
  if decoded ≤ 400000 then 0.99
  else if decoded ≥ 4000000 then 0.10
  else 0.99 - 0.89 * (Float.ofNat (decoded - 400000) / 3600000.0)

/-- Count a node about to be decoded. A document whose aliases make up too much of the
work (more than 100 nodes reached through aliases, among more than 1000, in more than the
allowed share) is refused: a few anchors can otherwise stand for an enormous document. -/
def tick : DecodeM Unit := do
  let d ← get
  let decoded := d.decoded + 1
  let aliased := if d.expanding.isEmpty then d.aliased else d.aliased + 1
  set { d with decoded, aliased }
  if aliased > 100 && decoded > 1000 &&
      Float.ofNat aliased / Float.ofNat decoded > allowedAliasRatio decoded then
    throw "yaml: document contains excessive aliasing"

/-- Where the entries of a mapping go: the fields of a record (with their shapes), a map
with text keys (with the shape of its values), or a map with keys of any kind. -/
inductive Target where
  | record (name : String) (fields : List (String × Shape)) (set : List (String × Data))
  | textMap (values : Shape) (entries : List (String × Data))
  | anyMap (entries : List (Data × Data))

/-- The value a target holds. -/
def Target.value : Target → Data
  | .record _ _ set => .record set
  | .textMap _ es => .dict es
  | .anyMap es => .map es

/-- Whether a key is among marked keys. -/
def Data.memberOf (marks : List Data) (k : Data) : Bool :=
  Data.lookupKey (marks.map fun m => (m, Data.null)) k

/-- The complaint about a merge key whose value is not a mapping or a list of them. -/
def wantMap {α : Type} : DecodeM α :=
  throw "yaml: map merge requires map or sequence of maps as the value"

mutual

/-- Decode a node against a shape: the value, or none when nothing is set. -/
def decode : Nat → Node → Shape → DecodeM (Option Data)
  | 0, _, _ => throw "yaml: document is nested too deeply"
  | fuel + 1, n, s => do
    tick
    match n.kind with
    | .document =>
      match n.content with
      | [c] => decode fuel c s
      | _ => pure none
    | .alias =>
      let st ← get
      if st.expanding.contains n.serial then
        throw ("yaml: anchor '" ++ n.value ++ "' value contains itself")
      set { st with expanding := n.serial :: st.expanding }
      let r ← decode fuel (← targetOf n) s
      modify fun st => { st with expanding := st.expanding.erase n.serial }
      pure r
    | _ =>
      let isNull := (← get).doc.shortTagOf n == "!!null"
      match s with
      | .duration =>
        if isNull then decodeKind fuel n s else decodeDuration n
      | .pointer t =>
        if isNull then decodeKind fuel n s
        else
          let r ← decodeKind fuel n t
          pure (some (r.getD t.zero))
      | _ => decodeKind fuel n s

/-- Decode a scalar, mapping or sequence node. -/
def decodeKind : Nat → Node → Shape → DecodeM (Option Data)
  | 0, _, _ => throw "yaml: document is nested too deeply"
  | fuel + 1, n, s => do
    match n.kind with
    | .scalar => decodeScalar n s
    | .sequence =>
      match s with
      | .list e => pure (some (.seq (← decodeItems fuel n.content e [])))
      | .any => pure (some (.seq (← decodeItems fuel n.content .any [])))
      | _ => typeError n "!!seq" s
    | .mapping =>
      let dup := repeatedKeys ((pairsOf n.content).map (·.1))
      if !dup.isEmpty then
        modify fun d => { d with errors := d.errors ++ dup.toArray }
        return none
      let d ← get
      let target : Option Target := match s with
        | .record name fields => some (.record name fields [])
        | .textMap => some (.textMap .text [])
        | .anyMap => some (.textMap .any [])
        | .any =>
          let textKeys := (pairsOf n.content).all fun p =>
            let t := d.doc.shortTagOf p.1
            t == "!!str" || t == "!!merge"
          some (if textKeys then .textMap .any [] else .anyMap [])
        | _ => none
      match target with
      | some t => do
        let (t, _) ← mapping fuel t n none
        pure (some t.value)
      | none => typeError n "!!map" s
    | _ => throw "yaml: cannot decode node with unknown kind"

/-- Decode the elements of a list, leaving out those that set nothing. -/
def decodeItems : Nat → List Node → Shape → List Data → DecodeM (List Data)
  | 0, _, _, _ => throw "yaml: document is nested too deeply"
  | _ + 1, [], _, acc => pure acc.reverse
  | fuel + 1, c :: rest, e, acc => do
    match ← decode fuel c e with
    | some d => decodeItems fuel rest e (d :: acc)
    | none => decodeItems fuel rest e acc

/-- Decode a mapping's entries into a target, then merge in the mappings under its merge
key. `marks` is present while the mapping is itself being merged into a target: it holds
the keys given so far, which this mapping may not set again. -/
def mapping : Nat → Target → Node → Option (List Data) → DecodeM (Target × Option (List Data))
  | 0, _, _, _ => throw "yaml: document is nested too deeply"
  | fuel + 1, t, n, marks => do
    let (t, marks, merge) ← entries fuel t (pairsOf n.content) [] marks none
    match merge with
    | none => pure (t, marks)
    | some m =>
      -- every key the mapping gives is marked before anything is merged
      let ms ← match marks with
        | some ms => pure ms
        | none => keysOf fuel (pairsOf n.content) []
      let (t, ms) ← mergeInto fuel t m ms
      pure (t, marks.map fun _ => ms)

/-- Decode a mapping's entries, all but the merge keys (the last merge value is returned),
into a target. With marks, a key already marked is left out and the others are marked. -/
def entries : Nat → Target → List (Node × Node) → List String → Option (List Data) →
    Option Node → DecodeM (Target × Option (List Data) × Option Node)
  | 0, _, _, _, _, _ => throw "yaml: document is nested too deeply"
  | _ + 1, t, [], _, marks, merge => pure (t, marks, merge)
  | fuel + 1, t, (k, v) :: rest, done, marks, merge => do
    if k.isMerge then entries fuel t rest done marks (some v)
    else
      let keyShape : Shape := match t with
        | .anyMap _ => .any
        | _ => .text
      match ← decode fuel k keyShape with
      | none => entries fuel t rest done marks merge
      | some key =>
        let seen := match marks with
          | some ms => Data.memberOf ms key
          | none => false
        if seen then entries fuel t rest done marks merge else
        let marks := marks.map (· ++ [key])
        let text := match key with
          | .str s => s
          | _ => ""
        match t with
        | .record name fields set =>
          match fields.lookup text with
          | none => entries fuel t rest done marks merge
          | some fs =>
            if done.contains text then
              let msg := "line " ++ toString k.line ++ ": field " ++ text ++
                " already set in type " ++ name
              modify fun d => { d with errors := d.errors.push msg }
              entries fuel t rest done marks merge
            else
              let set := match ← decode fuel v fs with
                | some d => setTextKey set text d
                | none => set
              entries fuel (.record name fields set) rest (text :: done) marks merge
        | .textMap vs es =>
          let es ← match ← decode fuel v vs with
            | some d => pure (setTextKey es text d)
            | none =>
              if (← get).doc.shortTagOf v == "!!null" then pure (setTextKey es text vs.zero)
              else pure es
          entries fuel (.textMap vs es) rest done marks merge
        | .anyMap es =>
          if key.isCollection then
            throw ("yaml: invalid map key: " ++ (key.sortKeys fuel).goSyntax)
          let es ← match ← decode fuel v .any with
            | some d => pure (setAnyKey es key d)
            | none =>
              if (← get).doc.shortTagOf v == "!!null" then pure (setAnyKey es key .null)
              else pure es
          entries fuel (.anyMap es) rest done marks merge

/-- The keys of a mapping's entries, merge keys included, decoded as anything. -/
def keysOf : Nat → List (Node × Node) → List Data → DecodeM (List Data)
  | 0, _, _ => throw "yaml: document is nested too deeply"
  | _ + 1, [], acc => pure acc
  | fuel + 1, (k, _) :: rest, acc => do
    match ← decode fuel k .any with
    | some key => keysOf fuel rest (if Data.memberOf acc key then acc else acc ++ [key])
    | none => keysOf fuel rest acc

/-- Merge into a target what a merge key holds: a mapping, an alias of one, or a list of
them (earlier ones first, so that their keys win). -/
def mergeInto : Nat → Target → Node → List Data → DecodeM (Target × List Data)
  | 0, _, _, _ => throw "yaml: document is nested too deeply"
  | fuel + 1, t, m, ms => do
    match m.kind with
    | .mapping => merged fuel t m ms
    | .alias => if (← targetOf m).kind != .mapping then wantMap else merged fuel t m ms
    | .sequence => mergedList fuel t m.content ms
    | _ => wantMap

/-- Merge the mappings of a list into a target, in order. -/
def mergedList : Nat → Target → List Node → List Data → DecodeM (Target × List Data)
  | 0, _, _, _ => throw "yaml: document is nested too deeply"
  | _ + 1, t, [], ms => pure (t, ms)
  | fuel + 1, t, m :: rest, ms => do
    let ok ← match m.kind with
      | .mapping => pure true
      | .alias => pure ((← targetOf m).kind == .mapping)
      | _ => pure false
    if !ok then wantMap
    let (t, ms) ← merged fuel t m ms
    mergedList fuel t rest ms

/-- Decode one mapping (or an alias of one) that is merged into a target, leaving out the
marked keys. -/
def merged : Nat → Target → Node → List Data → DecodeM (Target × List Data)
  | 0, _, _, _ => throw "yaml: document is nested too deeply"
  | fuel + 1, t, n, ms => do
    tick
    match n.kind with
    | .alias =>
      let st ← get
      if st.expanding.contains n.serial then
        throw ("yaml: anchor '" ++ n.value ++ "' value contains itself")
      set { st with expanding := n.serial :: st.expanding }
      let r ← merged fuel t (← targetOf n) ms
      modify fun st => { st with expanding := st.expanding.erase n.serial }
      pure r
    | _ =>
      let dup := repeatedKeys ((pairsOf n.content).map (·.1))
      if !dup.isEmpty then
        modify fun d => { d with errors := d.errors ++ dup.toArray }
        return (t, ms)
      let (t, marks) ← mapping fuel t n (some ms)
      pure (t, marks.getD ms)

end

/-- Why a document did not decode: a failure that stopped it, or the type errors. -/
inductive DecodeError where
  | stopped (message : String)
  | types (errors : List String)

/-- The message of a decoding error. -/
def DecodeError.message : DecodeError → String
  | .stopped m => m
  | .types es => "yaml: unmarshal errors:\n  " ++ "\n  ".intercalate es

/-- Decode a document against a shape: the value (none when nothing is set). -/
def Document.decode (d : Document) (s : Shape) : Except DecodeError (Option Data) :=
  match d.root with
  | none => .ok none
  | some root =>
    match (Yaml.decode 100000000 root s).run { doc := d } with
    | .error m => .error (.stopped m)
    | .ok (r, st) => if st.errors.isEmpty then .ok r else .error (.types st.errors.toList)

end Windowing.Yaml
