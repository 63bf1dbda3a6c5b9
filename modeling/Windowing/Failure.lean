import Windowing.Conditions

set_option autoImplicit false

/-! # Failures

A failure has a class and a message. The class survives when a caller puts its own words
in front of the message, so that a caller far away can still tell, say, a missing timeout
from a malformed document. -/

namespace Windowing

/-- The class of a failure. -/
inductive FailureKind where
  | noTimeout
  | negativeMaxSize
  | negativeRenew
  | patternsRequired
  | missingAction
  | maxKeysWithoutId
  | stopped
  | stopTimeout
  | nilMessage
  /-- The contexts document does not fit its schema; the problems are sorted. -/
  | schema (problems : List String)
  /-- A template failed while it ran. -/
  | exec
  /-- A document value has the wrong type for its place. -/
  | yamlType
  /-- JSON text that does not read. -/
  | jsonSyntax
  /-- A JSON value of the wrong type for its place. -/
  | jsonType
  | other
  deriving Inhabited

/-- A failure: its class and its message. -/
structure Failure where
  kind : FailureKind
  message : String
  deriving Inhabited

namespace Failure

/-- A failure of no particular class. -/
def plain (message : String) : Failure := ⟨.other, message⟩

/-- Put words in front of the message, keeping the class. -/
def wrap (pre : String) (f : Failure) : Failure := { f with message := pre ++ f.message }

end Failure

/-- A conditions error as a failure. -/
def ConditionsError.toFailure (e : ConditionsError) : Failure :=
  let kind : FailureKind := match e with
    | .noTimeout => .noTimeout
    | .negativeMaxSize => .negativeMaxSize
    | .negativeRenew => .negativeRenew
    | .patternsRequired => .patternsRequired
  ⟨kind, e.message⟩

end Windowing
