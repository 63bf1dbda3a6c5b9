import Windowing.Sql.Aggregate
import Windowing.Sql.Window

set_option autoImplicit false

/-! # Window functions

A window function gives each row a value computed from the rows of its partition. The rows
of a query are sorted by their partition values (ascending), then by the window's order,
stably; each run of rows with equal partition values is a partition. Rows of a partition
that are equal in the window's order are peers (all rows are peers when the window has no
order).

* `row_number()` is the row's place in its partition, from 1; `rank()` the place of its
  first peer; `dense_rank()` the number of its peer group; `percent_rank()` is
  `(rank - 1) / (rows - 1)` (zero for a partition of one row) and `cume_dist()` the share of
  rows up to its last peer.
* `ntile(N)` deals the partition into `N` buckets as even as can be, the larger first.
* `lag(x, k, d)` and `lead(x, k, d)` give `x` of the row `k` places before or after (one by
  default), or `d` (null by default) when there is no such row.
* `first_value`, `last_value`, `nth_value` and the aggregates look at the row's frame:
  `ROWS` counts rows, `GROUPS` counts peer groups, and `RANGE` measures the order's value
  (a bound `CURRENT ROW` is the first or last peer). `EXCLUDE` leaves out the row itself,
  its peer group, or its peers but not itself. -/

namespace Windowing.Sql

/-- One row's inputs to a window function: its partition values, its order values, its
arguments, and whether it passes the `FILTER` clause. -/
structure WindowRow where
  partition : List Value
  keys : List Value
  args : List Marked
  counted : Bool := true
  deriving Inhabited

/-- The places of rows in the order a window sorts them: by partition values (each under
its collation), then by the window's order, stably. -/
def windowOrder (partColls : List Collation) (keys : List SortKey) (rows : List WindowRow) : List Nat :=
  let sorted := rows.zipIdx.mergeSort fun (a, _) (b, _) =>
    match compareRows partColls a.partition b.partition with
    | .lt => true
    | .gt => false
    | .eq => compareKeys keys a.keys b.keys != .gt
  sorted.map (·.2)

/-- Split places sorted by partition into the runs of one partition each. -/
def partitionRuns (partColls : List Collation) (rows : Array WindowRow) (order : List Nat) : List (List Nat) :=
  let step (acc : List (List Nat)) (i : Nat) : List (List Nat) :=
    match acc with
    | (j :: run) :: done =>
      if compareRows partColls (rows.getD j default).partition (rows.getD i default).partition == .eq then
        (i :: j :: run) :: done
      else [i] :: (j :: run).reverse :: done
    | _ => [[i]]
  match order.foldl step [] with
  | run :: done => (run.reverse :: done).reverse
  | [] => []

/-- A frame offset of `ROWS` or `GROUPS`: an integer, not negative. -/
def rowsOffset (v : Value) : Option Nat :=
  match v.withAffinity .numeric with
  | .int i => if i ≥ 0 then some i.toNat else none
  | _ => none

/-- A frame offset of `RANGE`: a number, not negative. -/
def rangeOffset (v : Value) : Option Value :=
  match v.withAffinity .numeric with
  | .int i => if i ≥ 0 then some (.int i) else none
  | .real r => if r ≥ 0 then some (.real r) else none
  | _ => none

/-- The offsets of a window's frame bounds, checked: `(start, finish)`. -/
def Window.checkOffsets (w : Window) (start finish : Option Value) : Fallible (Option Value × Option Value) := do
  let isRange := w.units == .range
  let check (v : Option Value) (which : String) : Fallible (Option Value) :=
    match v with
    | none => pure none
    | some x =>
      if isRange then
        match rangeOffset x with
        | some y => pure (some y)
        | none => throw (SqlError.logic ("frame " ++ which ++ " offset must be a non-negative number"))
      else
        match rowsOffset x with
        | some n => pure (some (.int n))
        | none => throw (SqlError.logic ("frame " ++ which ++ " offset must be a non-negative integer"))
  pure (← check start "starting", ← check finish "ending")

/-- The peer groups of a partition: each row's group number, and each group's first and
last row. -/
structure Peers where
  group : Array Nat
  first : Array Nat
  last : Array Nat
  deriving Inhabited

/-- Find the peer groups of a partition's rows (in window order). -/
def peersOf (keys : List SortKey) (part : Array WindowRow) : Peers :=
  let n := part.size
  let groups : Array Nat := (List.range n).foldl (fun (acc : Array Nat) i =>
    if i == 0 then acc.push 0
    else
      let prev := acc.getD (i - 1) 0
      let same := compareKeys keys (part.getD (i - 1) default).keys (part.getD i default).keys == .eq
      acc.push (if same then prev else prev + 1)) #[]
  let count := (groups.back?.map (· + 1)).getD 0
  let first := (List.range count).toArray.map fun g => (groups.findIdx? (· == g)).getD 0
  let last := (List.range count).toArray.map fun g =>
    match (List.range n).reverse.find? (fun i => groups.getD i 0 == g) with
    | some i => i
    | none => 0
  { group := groups, first, last }

/-- The value a `RANGE` bound measures from: the row's order value moved by the offset
(backwards for `PRECEDING`, in the order's direction); a text or blob is not moved. -/
def rangeTarget (v : Value) (offset : Value) (backwards desc : Bool) : Value :=
  match v with
  | .int _ | .real _ =>
    let down := backwards != desc
    arith (if down then .sub else .add) v offset
  | _ => v

/-- Whether a value is before a target in the window's order. -/
def beforeTarget (key : SortKey) (a target : Value) : Bool := key.compare a target == .lt

/-- The rows of a row's frame, by place in its partition. -/
def frameRows (w : Window) (keys : List SortKey) (part : Array WindowRow) (peers : Peers)
    (startOff finishOff : Option Value) (i : Nat) : List Nat :=
  let n := part.size
  let g := peers.group.getD i 0
  let groupCount := peers.first.size
  let offsetInt (v : Option Value) : Int := match v with
    | some (.int k) => k
    | _ => 0
  let all := List.range n
  let inFrame : List Nat :=
    match w.units with
    | .rows =>
      let s : Int := match w.start with
        | .unboundedPreceding => 0
        | .preceding _ => (i : Int) - offsetInt startOff
        | .currentRow => i
        | .following _ => (i : Int) + offsetInt startOff
        | .unboundedFollowing => n
      let e : Int := match w.finish with
        | .unboundedPreceding => -1
        | .preceding _ => (i : Int) - offsetInt finishOff
        | .currentRow => i
        | .following _ => (i : Int) + offsetInt finishOff
        | .unboundedFollowing => (n : Int) - 1
      all.filter fun j => s ≤ (j : Int) && (j : Int) ≤ e
    | .groups =>
      let s : Int := match w.start with
        | .unboundedPreceding => 0
        | .preceding _ => (g : Int) - offsetInt startOff
        | .currentRow => g
        | .following _ => (g : Int) + offsetInt startOff
        | .unboundedFollowing => groupCount
      let e : Int := match w.finish with
        | .unboundedPreceding => -1
        | .preceding _ => (g : Int) - offsetInt finishOff
        | .currentRow => g
        | .following _ => (g : Int) + offsetInt finishOff
        | .unboundedFollowing => (groupCount : Int) - 1
      all.filter fun j => let gj : Int := peers.group.getD j 0; s ≤ gj && gj ≤ e
    | .range =>
      let key := keys.headD {}
      let v := ((part.getD i default).keys.headD .null)
      let keyOf (j : Nat) : Value := (part.getD j default).keys.headD .null
      let firstPeer := peers.first.getD g 0
      let lastPeer := peers.last.getD g 0
      let s : Nat := match w.start with
        | .unboundedPreceding => 0
        | .currentRow => firstPeer
        | .preceding _ | .following _ =>
          if v.isNull then firstPeer
          else
            let back := match w.start with | .preceding _ => true | _ => false
            let t := rangeTarget v (startOff.getD (.int 0)) back key.desc
            (all.find? fun j => !beforeTarget key (keyOf j) t).getD n
        | .unboundedFollowing => n
      let e : Int := match w.finish with
        | .unboundedPreceding => -1
        | .currentRow => lastPeer
        | .preceding _ | .following _ =>
          if v.isNull then lastPeer
          else
            let back := match w.finish with | .preceding _ => true | _ => false
            let t := rangeTarget v (finishOff.getD (.int 0)) back key.desc
            match all.reverse.find? fun j => !beforeTarget key t (keyOf j) with
            | some j => j
            | none => -1
        | .unboundedFollowing => (n : Int) - 1
      all.filter fun j => s ≤ j && (j : Int) ≤ e
  match w.exclude with
  | .noOthers => inFrame
  | .currentRow => inFrame.filter (· != i)
  | .group => inFrame.filter fun j => peers.group.getD j 0 != g
  | .ties => inFrame.filter fun j => j == i || peers.group.getD j 0 != g

/-- An argument of a row, as a value. -/
def WindowRow.arg (r : WindowRow) (k : Nat) : Value := (r.args.getD k (.null, false)).1

/-- The values of a window function for the rows of one partition (in window order).
`coll` is the collation of the first argument. -/
def partitionValues (name : String) (star : Bool) (coll : Collation) (w : Window) (keys : List SortKey)
    (startOff finishOff : Option Value) (part : Array WindowRow) : Fallible (List Value) := do
  let n := part.size
  let peers := peersOf keys part
  let rows := List.range n
  let real (x : Float) : Value := .real x
  match name with
  | "row_number" => pure (rows.map fun (i : Nat) => .int ((i : Int) + 1))
  | "rank" => pure (rows.map fun i => .int ((peers.first.getD (peers.group.getD i 0) 0 : Int) + 1))
  | "dense_rank" => pure (rows.map fun i => .int ((peers.group.getD i 0 : Int) + 1))
  | "percent_rank" =>
    pure (rows.map fun i =>
      if n ≤ 1 then real 0
      else real (Float.ofNat (peers.first.getD (peers.group.getD i 0) 0) / Float.ofNat (n - 1)))
  | "cume_dist" =>
    pure (rows.map fun i => real (Float.ofNat (peers.last.getD (peers.group.getD i 0) 0 + 1) / Float.ofNat n))
  | "ntile" =>
    let buckets := ((part.getD 0 default).arg 0).toInt
    if buckets ≤ 0 then throw (SqlError.logic "argument of ntile must be a positive integer")
    let total : Int := n
    let size := total / buckets
    pure (rows.map fun (i : Nat) =>
      let row : Int := i
      if size == 0 then .int (row + 1)
      else
        let large := total - buckets * size
        let small := large * (size + 1)
        if row < small then .int (1 + row / (size + 1))
        else .int (1 + large + (row - small) / size))
  | "lag" | "lead" =>
    pure (rows.map fun i =>
      let r := part.getD i default
      let fallback := if r.args.length ≥ 3 then r.arg 2 else .null
      let offset : Value := if r.args.length ≥ 2 then r.arg 1 else .int 1
      let target := arith (if name == "lead" then .add else .sub) (.int ((i : Int) + 1)) offset
      match target.withAffinity .numeric with
      | .int t =>
        if t ≥ 1 && t ≤ n then (part.getD (t.toNat - 1) default).arg 0 else fallback
      | _ => fallback)
  | _ =>
    rows.mapM fun i => do
      let frame := frameRows w keys part peers startOff finishOff i
      match name with
      | "first_value" => pure (match frame.head? with
        | some j => (part.getD j default).arg 0
        | none => .null)
      | "last_value" => pure (match frame.getLast? with
        | some j => (part.getD j default).arg 0
        | none => .null)
      | "nth_value" =>
        let nth := (part.getD i default).arg 1
        let k : Option Nat := match nth.withAffinity .numeric with
          | .int k => if k > 0 then some k.toNat else none
          | _ => none
        match k with
        | none => throw (SqlError.logic "second argument to nth_value must be a positive integer")
        | some k => pure (match frame[k - 1]? with
          | some j => (part.getD j default).arg 0
          | none => .null)
      | _ =>
        let taken := (frame.map fun j => part.getD j default).filter (·.counted)
        if isJsonAggregate name then do pure (← aggregateJson name (taken.map (·.args))).1
        else aggregateOf name coll star (taken.map fun r => r.args.map (·.1))

/-- The values of a window function for rows in the order they came. -/
def windowValues (name : String) (star : Bool) (coll : Collation) (w : Window) (partColls : List Collation)
    (keys : List SortKey) (startOff finishOff : Option Value) (rows : List WindowRow) : Fallible (List Value) := do
  let arr := rows.toArray
  let order := windowOrder partColls keys rows
  let runs := partitionRuns partColls arr order
  let placed ← runs.foldlM (fun (acc : List (Nat × Value)) run => do
    let part := (run.map fun i => arr.getD i default).toArray
    let vs ← partitionValues name star coll w keys startOff finishOff part
    pure (acc ++ run.zip vs)) []
  pure ((List.range rows.length).map fun i => ((placed.find? (·.1 == i)).map (·.2)).getD .null)

/-- For each row, the place of its class of rows equal in partition and order among all
such classes in window order: rows sort stably by this as the window sorts them. -/
def keyRanks (partColls : List Collation) (keys : List SortKey) (rows : List WindowRow) : List Nat :=
  let arr := rows.toArray
  let same (i j : Nat) : Bool :=
    compareRows partColls (arr.getD i default).partition (arr.getD j default).partition == .eq &&
      compareKeys keys (arr.getD i default).keys (arr.getD j default).keys == .eq
  let (ranked, _) := (windowOrder partColls keys rows).foldl
    (fun ((acc, prev) : List (Nat × Nat) × Option (Nat × Nat)) i =>
      let r := match prev with
        | some (j, rj) => if same j i then rj else rj + 1
        | none => 0
      (acc ++ [(i, r)], some (i, r))) ([], none)
  (List.range rows.length).map fun i => ((ranked.find? (·.1 == i)).map (·.2)).getD 0

end Windowing.Sql
