import Windowing.Sql.Function
import Windowing.Sql.JsonCall
import Windowing.Sql.DateTime

set_option autoImplicit false

/-! # Calling functions

A call of a function that is not an aggregate goes to the JSON functions, the date and
time functions or the scalar functions, by its name. Arguments and results carry whether
they are marked as JSON. -/

namespace Windowing.Sql

/-- Call a function that is not an aggregate. -/
def callFunction (ctx : CallContext) (name : String) (args : List Marked) : Fallible Marked :=
  match jsonCall? (foldName name) args with
  | some r => r
  | none =>
    let vals := args.map (·.1)
    match ctx.definition with
    | some place =>
      if dateCallReadsClock ctx.now (foldName name) vals then
        throw (SqlError.logic ("non-deterministic use of " ++ foldName name ++ "() in " ++ place))
      else callOthers vals
    | none => callOthers vals
where
  /-- Call a date function or a scalar function. -/
  callOthers (vals : List Value) : Fallible Marked :=
    match dateCall? ctx.now (foldName name) vals with
    | some v => pure (v, false)
    | none => do pure (← callScalar ctx name vals, false)

/-- Whether an aggregate is one of the JSON aggregates. -/
def isJsonAggregate (name : String) : Bool :=
  ["json_group_array", "json_group_object", "jsonb_group_array", "jsonb_group_object"].contains name

end Windowing.Sql
