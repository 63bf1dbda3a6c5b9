import Windowing.Sql.Call

set_option autoImplicit false

/-! # Sorting and aggregating rows

Rows are sorted by sort keys, each with a collation, a direction and where nulls go, and
stably, so that rows equal under the keys keep their order. Rows are compared column by
column for `DISTINCT` and the compound operators, each column under its collation.

The aggregates: `count` counts the non-null values (or the rows, for `count(*)`); `sum`,
`total` and `avg` add integers exactly while they fit and reals with a compensated sum
(`sum` of integers that overflow fails); `min` and `max` keep the least or greatest
non-null value under the argument's collation; `group_concat` and `string_agg` join the
non-null values as text with a separator (a comma by default). -/

namespace Windowing.Sql

/-- How one sort key orders: its collation, whether it is descending, and where nulls go
when the term says so (by default they are least). -/
structure SortKey where
  collation : Collation := .binary
  desc : Bool := false
  nullsFirst : Option Bool := none
  deriving Inhabited

/-- Compare two values under a sort key. -/
def SortKey.compare (k : SortKey) (a b : Value) : Ordering :=
  match k.nullsFirst, a, b with
  | some _, .null, .null => .eq
  | some nf, .null, _ => if nf then .lt else .gt
  | some nf, _, .null => if nf then .gt else .lt
  | _, _, _ => let o := Value.compare k.collation a b; if k.desc then o.swap else o

/-- Compare two lists of sort key values, the first key first. -/
def compareKeys : List SortKey → List Value → List Value → Ordering
  | k :: ks, a :: as, b :: bs =>
    match k.compare a b with
    | .eq => compareKeys ks as bs
    | o => o
  | _, _, _ => .eq

/-- Sort rows stably by their sort key values. -/
def sortByKeys {α : Type} (keys : List SortKey) (rows : List (α × List Value)) : List (α × List Value) :=
  rows.mergeSort fun a b => compareKeys keys a.2 b.2 != .gt

/-- Compare two rows column by column, each under its collation. -/
def compareRows : List Collation → List Value → List Value → Ordering
  | cs, a :: as, b :: bs =>
    match Value.compare (cs.headD .binary) a b with
    | .eq => compareRows cs.tail as bs
    | o => o
  | _, [], [] => .eq
  | _, [], _ :: _ => .lt
  | _, _ :: _, [] => .gt

/-- The first of each run of equal rows (by a part of them), in order. -/
def distinctBy {α : Type} (colls : List Collation) (key : α → List Value) (rows : List α) : List α :=
  rows.foldl (fun acc r =>
    if acc.any (fun s => compareRows colls (key s) (key r) == .eq) then acc else acc ++ [r]) []

/-- The distinct rows, sorted. -/
def sortedDistinct (colls : List Collation) (rows : List (List Value)) : List (List Value) :=
  let sorted := rows.mergeSort fun a b => compareRows colls a b != .gt
  (sorted.foldl (fun acc r =>
    match acc with
    | last :: _ => if compareRows colls last r == .eq then acc else r :: acc
    | [] => [r]) []).reverse

/-- The running state of `sum`, `avg` and `total`: how many values came, their exact
integer sum while only integers came, and after that a compensated real sum (the sum and
its error term), with whether the integers overflowed. -/
structure SumState where
  count : Nat := 0
  intSum : Int := 0
  approx : Bool := false
  overflow : Bool := false
  rSum : Float := 0
  rErr : Float := 0
  deriving Inhabited

/-- Add a real to the compensated sum. -/
def SumState.addReal (s : SumState) (r : Float) : SumState :=
  let t := s.rSum + r
  let err := if s.rSum.abs > r.abs then (s.rSum - t) + r else (r - t) + s.rSum
  { s with rSum := t, rErr := s.rErr + err }

/-- An integer split so that each part is exact as a real: its multiple of 16384 and the
remainder, when it is beyond 2^52. -/
def splitLarge (i : Int) : Option (Int × Int) :=
  if i ≤ -4503599627370496 || i ≥ 4503599627370496 then
    let small := i.tmod 16384
    some (i - small, small)
  else none

/-- Add an integer to the compensated sum. -/
def SumState.addInt (s : SumState) (i : Int) : SumState :=
  match splitLarge i with
  | some (big, small) => (s.addReal (Float.ofInt big)).addReal (Float.ofInt small)
  | none => s.addReal (Float.ofInt i)

/-- Start the compensated sum from the integer sum. -/
def SumState.start (s : SumState) : SumState :=
  match splitLarge s.intSum with
  | some (big, small) => { s with approx := true, rSum := Float.ofInt big, rErr := Float.ofInt small }
  | none => { s with approx := true, rSum := Float.ofInt s.intSum, rErr := 0 }

/-- Add a value: null is skipped, a text that is an integer counts as one, any other
value as a real. -/
def SumState.add (s : SumState) (v : Value) : SumState :=
  let v := match v with
    | .text t => numericText false t
    | v => v
  match v with
  | .null => s
  | .int i =>
    let s := { s with count := s.count + 1 }
    if !s.approx then
      let x := s.intSum + i
      if fitsInt x then { s with intSum := x }
      else { s.start with overflow := true }.addInt i
    else s.addInt i
  | v =>
    let s := { s with count := s.count + 1 }
    if !s.approx then s.start.addReal v.toReal
    else { s with overflow := false }.addReal v.toReal

/-- The compensated sum as one real (the error term left out when it is not finite). -/
def SumState.real (s : SumState) : Float :=
  if s.approx then
    if s.rErr.isInf || s.rErr.isNaN then s.rSum else s.rSum + s.rErr
  else Float.ofInt s.intSum

/-- The result of an aggregate over the argument lists of the rows it takes; `star`: it
was called with `*` or no argument. -/
def aggregateOf (name : String) (coll : Collation) (star : Bool) (rows : List (List Value)) :
    Fallible Value :=
  let firsts := rows.map (·.headD .null)
  let sums := firsts.foldl SumState.add {}
  match name with
  | "count" => pure (.int (if star then rows.length else (firsts.filter (!·.isNull)).length))
  | "sum" =>
    if sums.count == 0 then pure .null
    else if sums.approx then
      if sums.overflow then throw (SqlError.logic "integer overflow") else pure (.real sums.real)
    else pure (.int sums.intSum)
  | "avg" => pure (if sums.count == 0 then .null else .real (sums.real / Float.ofNat sums.count))
  | "total" => pure (.real sums.real)
  | "min" | "max" =>
    let isMax := name == "max"
    pure ((firsts.foldl (fun (best : Option Value) v =>
      if v.isNull then best
      else match best with
        | some b =>
          let c := Value.compare coll b v
          if (isMax && c == .lt) || (!isMax && c == .gt) then some v else best
        | none => some v) none).getD .null)
  | "group_concat" | "string_agg" =>
    let joined := rows.foldl (fun (acc : Option String) vs =>
      match vs with
      | x :: rest =>
        match x.asText with
        | none => acc
        | some t =>
          let sep : String :=
            if rest.isEmpty then "," else ((rest.headD .null).asText).getD ""
          match acc with
          | some a => some (a ++ sep ++ t)
          | none => some t
      | [] => acc) none
    pure (match joined with
      | some s => .text s
      | none => .null)
  | _ => throw (SqlError.logic ("no such function: " ++ name))

/-- One step of a `min` or `max` aggregate for choosing the row its other columns are read
from: whether this row is skipped, and the best value after it. -/
def minMaxStep (isMax : Bool) (coll : Collation) (v : Value) (best : Option Value) : Bool × Option Value :=
  match v, best with
  | .null, some b => (true, some b)
  | .null, none => (false, none)
  | v, some b =>
    let c := Value.compare coll b v
    if (isMax && c == .lt) || (!isMax && c == .gt) then (false, some v) else (true, some b)
  | v, none => (false, some v)

end Windowing.Sql
