set_option autoImplicit false

/-! # Log levels

The level names `debug`, `info`, `warn` (also `warning`) and `error`, each exactly in lower
case; every other text means `info`. A level lets through itself and every level above it. -/

namespace Windowing

/-- The severity of log lines that are written. -/
inductive LogLevel where
  | debug
  | info
  | warn
  | error
  deriving DecidableEq

namespace LogLevel

/-- Read a level name; an unknown name is `info`. -/
def parse : String → LogLevel
  | "debug" => .debug
  | "info" => .info
  | "warning" | "warn" => .warn
  | "error" => .error
  | _ => .info

/-- The name of a level. -/
def name : LogLevel → String
  | .debug => "debug"
  | .info => "info"
  | .warn => "warn"
  | .error => "error"

/-- The rank of a level: higher is more severe. -/
def rank : LogLevel → Nat
  | .debug => 0
  | .info => 1
  | .warn => 2
  | .error => 3

/-- Whether a logger at level `l` writes lines of level `m`. -/
def enables (l m : LogLevel) : Bool := l.rank ≤ m.rank

end LogLevel

end Windowing
