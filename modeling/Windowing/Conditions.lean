import Windowing.Window

set_option autoImplicit false

/-! # Conditions of a window

Conditions say which messages a context takes (its patterns), which of them may open a
window, and when an open window closes. A message matches a pattern when its id equals
the pattern, or when it has a name and the name equals the pattern. With no patterns every
message matches and every message opens.

A window closes for the first of these reasons that holds, in this order: its elapsed time
reached the timeout; a positive size cap is reached; a positive renew timeout passed since
the last message; or the last message matches the last pattern while `lastCloses` is set. -/

namespace Windowing

/-- The rules of one context. -/
structure Conditions where
  timeout : Duration := 0
  maxSize : Int := 0
  renewTimeout : Duration := 0
  patterns : List String := []
  firstOpens : Bool := false
  lastCloses : Bool := false
  deriving Inhabited

/-- Why a window closed. -/
inductive ClosingReason where
  | timeout
  | maxSize
  | renewTimeout
  | lastCloses
  deriving DecidableEq, Inhabited, Repr

/-- The label of a closing reason, as counters and answers show it. -/
def ClosingReason.label : ClosingReason → String
  | .timeout => "timeout"
  | .maxSize => "max_size"
  | .renewTimeout => "renew_timeout"
  | .lastCloses => "last_closes"

/-- What is wrong with a set of conditions. -/
inductive ConditionsError where
  | noTimeout
  | negativeMaxSize
  | negativeRenew
  | patternsRequired
  deriving DecidableEq, Inhabited, Repr

/-- The text of a conditions error. -/
def ConditionsError.message : ConditionsError → String
  | .noTimeout => "conditions: timeout must be positive"
  | .negativeMaxSize => "conditions: max_size must not be negative"
  | .negativeRenew => "conditions: renew_timeout must not be negative"
  | .patternsRequired => "conditions: first_opens and last_closes need at least one pattern"

namespace Conditions

/-- The first problem of the conditions, in the order timeout, size cap, renew timeout,
patterns. -/
def validate (c : Conditions) : Option ConditionsError :=
  if c.timeout ≤ 0 then some .noTimeout
  else if c.maxSize < 0 then some .negativeMaxSize
  else if c.renewTimeout < 0 then some .negativeRenew
  else if (c.firstOpens || c.lastCloses) && c.patterns.isEmpty then some .patternsRequired
  else none

/-- A message matches a pattern by id, or by a non-empty name. -/
def matchesPattern (m : Message) (p : String) : Bool :=
  m.id == p || (m.hasName && m.name == p)

/-- Whether the context takes a message at all. -/
def accepts (c : Conditions) (m : Message) : Bool :=
  c.patterns.isEmpty || c.patterns.any (matchesPattern m)

/-- Whether a message may open a window. -/
def isOpening (c : Conditions) (m : Message) : Bool :=
  match c.patterns with
  | [] => true
  | p :: _ => if c.firstOpens then matchesPattern m p else c.accepts m

/-- Whether the last message of the window closes it by the last pattern. -/
def closesOnLast (c : Conditions) (w : Window) : Bool :=
  match w.last?, c.patterns.getLast? with
  | some m, some p => matchesPattern m p
  | _, _ => false

/-- The reason the window must close now, if any. -/
def closingReason (c : Conditions) (w : Window) : Option ClosingReason :=
  if w.elapsed ≥ c.timeout then some .timeout
  else if c.maxSize > 0 && (w.len : Int) ≥ c.maxSize then some .maxSize
  else if c.renewTimeout > 0 && w.sinceLast ≥ c.renewTimeout then some .renewTimeout
  else if c.lastCloses && c.closesOnLast w then some .lastCloses
  else none

/-- An opening message is always a matching one. -/
theorem accepts_of_isOpening (c : Conditions) (m : Message) (h : c.isOpening m = true) :
    c.accepts m = true := by
  unfold isOpening at h
  unfold accepts
  split at h
  · simp_all
  · rename_i p rest hp
    rw [hp]
    split at h
    · simp [List.any_cons, h]
    · simpa [accepts, hp] using h

end Conditions

end Windowing
