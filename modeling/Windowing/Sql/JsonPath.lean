import Windowing.Sql.JsonRead

set_option autoImplicit false

/-! # JSON paths

A path names a part of a JSON value: `$` is the value itself, `.name` (or `."name"`) a
member of an object (the first with that label), `[N]` an item of an array, and `[#-N]` the
item `N` from the end (`[#]` is one past the last, where an item can be added). A path is
read step by step as the value is walked: a step that cannot be taken because the value
has no such part finds nothing, even when the rest of the path would not read.

Editing walks a path the same way: removing a part, replacing it, or adding it where it is
missing. A part is added as the last member of an object or the last item of an array,
together with the objects and arrays the rest of its path goes through. -/

namespace Windowing.Sql

/-- What walking a path finds. -/
inductive PathResult (α : Type) where
  | found (a : α)
  | notFound
  | badPath
  deriving Inhabited

/-- A path step naming a member: its label and whether it was written without escapes,
and the rest of the path; or a failure to read it. -/
def memberStep (path : List Char) : Option (String × Bool × List Char) :=
  match path with
  | '"' :: rest =>
    let key := rest.takeWhile (· != '"')
    match rest.drop key.length with
    | '"' :: after => some (String.ofList key, !key.contains '\\', after)
    | _ => none
  | _ =>
    let key := path.takeWhile fun c => c != '.' && c != '['
    if key.isEmpty then none else some (String.ofList key, true, path.drop key.length)

/-- Whether a member's label is the label a path names. -/
def labelMatches (key : String) (raw : Bool) (l : JsonLabel) : Bool :=
  (if raw then key else unescapeText key.toList) == l.key

/-- The index an array step names in an array of `count` items, and the rest of the path;
none for an index before the first item; or a failure to read it. -/
def indexStep (path : List Char) (count : Nat) : Except Unit (Option Nat × List Char) :=
  let digits := path.takeWhile Char.isDigit
  let rest := path.drop digits.length
  if !digits.isEmpty && rest.head? == some ']' then
    .ok (some (digits.foldl (fun n c => n * 10 + (c.toNat - 48)) 0), rest.drop 1)
  else
    match path with
    | '#' :: more =>
      match more with
      | '-' :: d :: _ =>
        if d.isDigit then
          let ds := (more.drop 1).takeWhile Char.isDigit
          let after := (more.drop 1).drop ds.length
          let nn := ds.foldl (fun n c => n * 10 + (c.toNat - 48)) 0
          if after.head? != some ']' then
            (if nn > count then .ok (none, after) else .error ())
          else .ok (if nn > count then none else some (count - nn), after.drop 1)
        else if more.head? == some ']' then .ok (some count, more.drop 1) else .error ()
      | ']' :: after => .ok (some count, after)
      | _ => .error ()
    | _ => .error ()

/-- Find the part of a value a path names. -/
def JsonValue.lookup : Nat → List Char → JsonValue → PathResult JsonValue
  | 0, _, _ => .notFound
  | _ + 1, [], v => .found v
  | fuel + 1, '.' :: path, v =>
    match memberStep path with
    | none => .badPath
    | some (key, raw, rest) =>
      match v with
      | .obj fields =>
        match fields.find? (fun (l, _) => labelMatches key raw l) with
        | some (_, x) => x.lookup fuel rest
        | none => .notFound
      | _ => .notFound
  | fuel + 1, '[' :: path, v =>
    match v with
    | .arr items =>
      match indexStep path items.length with
      | .error () => .badPath
      | .ok (none, _) => .notFound
      | .ok (some k, rest) =>
        match items[k]? with
        | some x => x.lookup fuel rest
        | none => .notFound
    | _ => .notFound
  | _ + 1, _, _ => .badPath

/-- The kinds of edit. -/
inductive EditKind where
  | remove
  | replace
  | insert
  | set
  deriving BEq, Inhabited

/-- Whether an edit adds what is missing. -/
def EditKind.adds (k : EditKind) : Bool := k == .insert || k == .set

/-- Apply an edit at a path: the edited value (none when the value itself is removed). -/
def JsonValue.editAt : Nat → EditKind → List Char → JsonValue → JsonValue → PathResult (Option JsonValue)
  | 0, _, _, _, _ => .notFound
  | _ + 1, kind, [], v, new =>
    match kind with
    | .remove => .found none
    | .insert => .found (some v)
    | .replace | .set => .found (some new)
  | fuel + 1, kind, '.' :: path, v, new =>
    match memberStep path with
    | none => .badPath
    | some (key, raw, rest) =>
      match v with
      | .obj fields =>
        match fields.findIdx? (fun (l, _) => labelMatches key raw l) with
        | some i =>
          let (l, x) := fields.getD i default
          match x.editAt fuel kind rest new with
          | .found none => .found (some (.obj (fields.eraseIdx i)))
          | .found (some x') => .found (some (.obj (fields.set i (l, x'))))
          | .notFound => .notFound
          | .badPath => .badPath
        | none =>
          if kind.adds then
            let base : JsonValue := match rest with
              | '.' :: _ => .obj []
              | [] => new
              | _ => .arr []
            let made := if rest.isEmpty then .found (some new) else base.editAt fuel kind rest new
            match made with
            | .found (some x') =>
              let label : JsonLabel := { form := if raw then .raw else .json5, text := key }
              .found (some (.obj (fields ++ [(label, x')])))
            | .found none => .notFound
            | .notFound => .notFound
            | .badPath => .badPath
          else .notFound
      | _ => .notFound
  | fuel + 1, kind, '[' :: path, v, new =>
    match v with
    | .arr items =>
      match indexStep path items.length with
      | .error () => .badPath
      | .ok (none, _) => .notFound
      | .ok (some k, rest) =>
        match items[k]? with
        | some x =>
          match x.editAt fuel kind rest new with
          | .found none => .found (some (.arr (items.eraseIdx k)))
          | .found (some x') => .found (some (.arr (items.set k x')))
          | .notFound => .notFound
          | .badPath => .badPath
        | none =>
          if kind.adds && k == items.length then
            let base : JsonValue := match rest with
              | '.' :: _ => .obj []
              | _ => .arr []
            let made := if rest.isEmpty then .found (some new) else base.editAt fuel kind rest new
            match made with
            | .found (some x') => .found (some (.arr (items ++ [x'])))
            | .found none => .notFound
            | .notFound => .notFound
            | .badPath => .badPath
          else .notFound
    | _ => .notFound
  | _ + 1, _, _, _, _ => .badPath

/-- Merge a patch into a value, as RFC 7396 says: an object patch merges member by
member (a null member removes one), anything else replaces the value. -/
def JsonValue.mergePatch : Nat → JsonValue → JsonValue → JsonValue
  | 0, target, _ => target
  | fuel + 1, target, patch =>
    match patch with
    | .obj pfields =>
      let start : List (JsonLabel × JsonValue) := match target with
        | .obj tf => tf
        | _ => []
      .obj (pfields.foldl (fun acc (pl, pv) =>
        match acc.findIdx? (fun (tl, _) => tl.key == pl.key) with
        | some i =>
          match pv with
          | .null => acc.eraseIdx i
          | _ =>
            let (tl, tv) := acc.getD i default
            acc.set i (tl, tv.mergePatch fuel pv)
        | none =>
          match pv with
          | .null => acc
          | .obj _ => acc ++ [(pl, JsonValue.null.mergePatch fuel pv)]
          | _ => acc ++ [(pl, pv)]) start)
    | _ => patch

/-- The number of items of an array (zero for anything else). -/
def JsonValue.arrayLength : JsonValue → Nat
  | .arr items => items.length
  | _ => 0

/-- A bound on the nesting of a value, for walking it. -/
def JsonValue.fuel (v : JsonValue) : Nat := v.render.length + 2

end Windowing.Sql
