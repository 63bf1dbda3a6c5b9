import Windowing.Decimal.Shortest

set_option autoImplicit false

/-! # Counters

The engine counts requests, windows opened, closed and refused, alerts, failed actions
and dropped responses. A counter is a family name with label values; reading them back
lists each family in name order and, within a family, its counters in the order of their
label values.

The text exposition writes, for each family with at least one counter, a `# HELP` line, a
`# TYPE … counter` line, then `name{label="value",…} count` per counter. Label values escape
the backslash, the double quote and the line feed. -/

namespace Windowing

/-- One counter: its family, its labels (by label name) and its count. -/
structure Counter where
  name : String
  labels : List (String × String)
  value : Nat
  deriving Inhabited, BEq

/-- A set of counters. -/
structure Metrics where
  counters : List Counter := []
  deriving Inhabited

namespace Metrics

/-- Add one to the counter of a family and labels, creating it at one. -/
def inc (m : Metrics) (name : String) (labels : List (String × String)) : Metrics :=
  let rec go : List Counter → List Counter
    | [] => [⟨name, labels, 1⟩]
    | c :: rest =>
      if c.name == name && c.labels == labels then { c with value := c.value + 1 } :: rest
      else c :: go rest
  ⟨go m.counters⟩

/-- The count of the counter of a family and labels, zero when it was never bumped. -/
def get (m : Metrics) (name : String) (labels : List (String × String)) : Nat :=
  ((m.counters.find? fun c => c.name == name && c.labels == labels).map (·.value)).getD 0

/-- Lexicographic order on lists of texts. -/
def listLt : List String → List String → Bool
  | [], [] => false
  | [], _ :: _ => true
  | _ :: _, [] => false
  | a :: as, b :: bs => if a == b then listLt as bs else decide (a < b)

/-- Whether a counter comes before another when read back. -/
def before (a b : Counter) : Bool :=
  if a.name == b.name then listLt (a.labels.map (·.2)) (b.labels.map (·.2))
  else decide (a.name < b.name)

/-- The counters in reading order. -/
def gather (m : Metrics) : List Counter :=
  m.counters.mergeSort before

/-- The help text of a family. -/
def help : String → String
  | "correlog_requests_total" => "Requests handled by the reactor by kind."
  | "correlog_windows_opened_total" => "Windows opened per context."
  | "correlog_windows_closed_total" => "Windows closed per context and closing condition."
  | "correlog_windows_rejected_total" =>
    "Opening messages dropped because a map context hit its key limit."
  | "correlog_alerts_total" => "Alerts produced by actions per context."
  | "correlog_action_errors_total" => "Action executions that failed and were suppressed."
  | "correlog_responses_dropped_total" =>
    "Responses dropped because no handler was registered for their kind."
  | _ => ""

/-- A label value escaped for the exposition. -/
def escapeLabel (s : String) : String :=
  String.join (s.toList.map fun c =>
    if c == '\\' then "\\\\" else if c == '"' then "\\\"" else if c == '\n' then "\\n"
    else c.toString)

/-- A count as the exposition writes it: the shortest general form of the number. -/
def countText (n : Nat) : String :=
  if n == 0 then "0" else if n == 1 then "1"
  else Decimal.formatFloat (Float.ofNat n) 'g' none

/-- The exposition line of one counter. -/
def line (c : Counter) : String :=
  let labels := c.labels.map (fun (k, v) => k ++ "=\"" ++ escapeLabel v ++ "\"")
  let labelText := if labels.isEmpty then "" else "\x7b" ++ ",".intercalate labels ++ "\x7d"
  c.name ++ labelText ++ " " ++ countText c.value

/-- The exposition lines of the counters, with each family's header lines. -/
def exposition (m : Metrics) : List String :=
  let rec go : Option String → List Counter → List String
    | _, [] => []
    | prev, c :: rest =>
      let header :=
        if prev == some c.name then []
        else ["# HELP " ++ c.name ++ " " ++ help c.name, "# TYPE " ++ c.name ++ " counter"]
      header ++ line c :: go (some c.name) rest
  go none m.gather

end Metrics

end Windowing
