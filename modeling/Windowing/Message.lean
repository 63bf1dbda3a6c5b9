import Windowing.KeyMap

set_option autoImplicit false

/-! # Messages

A message has an id, a name (the empty name means "no name") and string values by key.
Alerts carry a message of their own, whose id is the action id. -/

namespace Windowing

/-- One message of the stream. -/
structure Message where
  id : String
  name : String := ""
  values : KeyMap String := {}
  deriving Inhabited, BEq

namespace Message

/-- A message has a name when its name is not empty. -/
def hasName (m : Message) : Bool := m.name != ""

/-- The value stored under a key. -/
def value? (m : Message) (k : String) : Option String := m.values.get? k

/-- The value keys, in byte order. -/
def keys (m : Message) : List String := m.values.keys

/-- The number of values. -/
def len (m : Message) : Nat := m.values.size

/-- Add pairs in order (a later pair wins), then merge a second map over them. -/
def build (id name : String) (pairs : List (String × String)) (extra : KeyMap String) :
    Message :=
  { id, name, values := (KeyMap.ofList pairs).insertMany extra.toList }

end Message

/-- What an action produces when a window closes. -/
structure Alert where
  actionId : String
  contextId : String
  contextName : String
  message : Message
  windowLen : Int
  inject : Bool
  deriving Inhabited, BEq

end Windowing
