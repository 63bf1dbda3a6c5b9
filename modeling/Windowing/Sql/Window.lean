import Windowing.Sql.Syntax
import Windowing.Sql.Database

set_option autoImplicit false

/-! # Windows

A window function sees the rows of its query through a window: the rows are split into
partitions by the `PARTITION BY` terms, each partition is ordered by the `ORDER BY` terms,
and each row's frame is a run of its partition around it. Without a frame clause the frame
runs from the start of the partition to the last row equal to the current one in the order
(`RANGE BETWEEN UNBOUNDED PRECEDING AND CURRENT ROW`).

A window may be named in the `WINDOW` clause of its query and used by name (`OVER w`, the
named window as it is) or built on (`OVER (w …)`, which may add an order when the named
window has none and a frame when it has none, but no partition). A named window may build
on one named before it. -/

namespace Windowing.Sql

/-- A window with its names resolved: partition terms, order, and frame. -/
structure Window where
  partition : List Expr := []
  order : List OrderTerm := []
  units : FrameUnits := .range
  start : FrameBound := .unboundedPreceding
  finish : FrameBound := .currentRow
  exclude : FrameExclude := .noOthers
  /-- Whether the frame was left to its default. -/
  implicitFrame : Bool := true
  deriving Inhabited

/-- Whether a frame bound has an offset. -/
def FrameBound.hasOffset : FrameBound → Bool
  | .preceding _ | .following _ => true
  | _ => false

/-- A window built from its own clauses on a resolved base (none: on nothing). -/
def Window.build (baseName : String) (base : Option Window) (partition : List Expr)
    (order : List OrderTerm) (frame : Option WindowFrame) : Except String Window := do
  let framed : Window → Window := fun w =>
    match frame with
    | some (.mk units start finish exclude) =>
      { w with units, start, finish, exclude, implicitFrame := false }
    | none => w
  match base with
  | none => pure (framed { partition, order })
  | some b =>
    if !partition.isEmpty then throw ("cannot override PARTITION clause of window: " ++ baseName)
    else if !b.order.isEmpty && !order.isEmpty then
      throw ("cannot override ORDER BY clause of window: " ++ baseName)
    else if !b.implicitFrame then throw ("cannot override frame specification of window: " ++ baseName)
    else pure (framed { partition := b.partition, order := if order.isEmpty then b.order else order })

/-- The named windows of a `WINDOW` clause, each resolved against those before it. -/
def resolveNamedWindows (defs : List (String × WindowSpec)) : Except String (List (String × Window)) :=
  defs.foldlM (fun (done : List (String × Window)) (n, spec) => do
    let find (b : String) : Except String Window :=
      match done.find? (fun (m, _) => sameName m b) with
      | some (_, w) => pure w
      | none => throw ("no such window: " ++ b)
    let w ← match spec with
      | .named b => find b
      | .mk none partition order frame => Window.build "" none partition order frame
      | .mk (some b) partition order frame => do
        let bw ← find b
        Window.build b (some bw) partition order frame
    pure (done ++ [(n, w)])) []

/-- Resolve the window of a call against the named windows of its query. -/
def resolveWindow (named : List (String × Window)) (spec : WindowSpec) : Except String Window :=
  let find (b : String) : Except String Window :=
    match named.find? (fun (m, _) => sameName m b) with
    | some (_, w) => pure w
    | none => throw ("no such window: " ++ b)
  match spec with
  | .named b => find b
  | .mk none partition order frame => Window.build "" none partition order frame
  | .mk (some b) partition order frame => do
    let bw ← find b
    Window.build b (some bw) partition order frame

/-- The failure of a window for a call, if any: a `RANGE` frame with an offset needs exactly
one order term, and only aggregates take a `FILTER` clause. -/
def Window.failure (w : Window) (windowOnly hasFilter : Bool) : Option String :=
  if w.units == .range && (w.start.hasOffset || w.finish.hasOffset) && w.order.length != 1 then
    some "RANGE with offset PRECEDING/FOLLOWING requires one ORDER BY expression"
  else if windowOnly && hasFilter then
    some "FILTER clause may only be used with aggregate window functions"
  else none

end Windowing.Sql
