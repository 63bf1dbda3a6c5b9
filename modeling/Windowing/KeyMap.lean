set_option autoImplicit false

/-! # Maps keyed by strings, kept in byte order

A `KeyMap` is an association list whose keys are strictly increasing. Byte order of UTF-8
text is code point order, which is the order of `String`'s `<`, so walking the list visits
the keys in the order every listing of this library uses (message keys, key windows,
metric labels). `insert` replaces the value of a present key, so the last write wins. -/

namespace Windowing

/-- A finite map from strings, listed in increasing key order. -/
structure KeyMap (α : Type) where
  toList : List (String × α)
  deriving Inhabited, BEq

namespace KeyMap

variable {α β : Type}

instance : EmptyCollection (KeyMap α) := ⟨⟨[]⟩⟩

/-- Insert into an increasing list, replacing an equal key. -/
def insertList (k : String) (v : α) : List (String × α) → List (String × α)
  | [] => [(k, v)]
  | (k', v') :: rest =>
    if k < k' then (k, v) :: (k', v') :: rest
    else if k = k' then (k, v) :: rest
    else (k', v') :: insertList k v rest

/-- The value stored under `k`, if any. -/
def get? (m : KeyMap α) (k : String) : Option α :=
  (m.toList.find? (fun p => p.1 == k)).map (·.2)

/-- Store `v` under `k`, replacing an earlier value. -/
def insert (m : KeyMap α) (k : String) (v : α) : KeyMap α :=
  ⟨insertList k v m.toList⟩

/-- Remove `k` and its value. -/
def erase (m : KeyMap α) (k : String) : KeyMap α :=
  ⟨m.toList.filter (fun p => p.1 != k)⟩

/-- Whether `k` has a value. -/
def contains (m : KeyMap α) (k : String) : Bool :=
  m.toList.any (fun p => p.1 == k)

/-- The keys, in increasing order. -/
def keys (m : KeyMap α) : List String :=
  m.toList.map (·.1)

/-- The number of keys. -/
def size (m : KeyMap α) : Nat :=
  m.toList.length

/-- Whether the map is empty. -/
def isEmpty (m : KeyMap α) : Bool :=
  m.toList.isEmpty

/-- Insert every pair of a list, left to right, so a later pair wins. -/
def insertMany (m : KeyMap α) (ps : List (String × α)) : KeyMap α :=
  ps.foldl (fun acc p => acc.insert p.1 p.2) m

/-- The map holding the pairs of a list; of two equal keys the later one wins. -/
def ofList (ps : List (String × α)) : KeyMap α :=
  (∅ : KeyMap α).insertMany ps

/-- Apply a function to every value. -/
def mapValues (f : α → β) (m : KeyMap α) : KeyMap β :=
  ⟨m.toList.map (fun p => (p.1, f p.2))⟩

/-- Keys in strictly increasing order. -/
def Ordered (m : KeyMap α) : Prop :=
  m.toList.Pairwise (fun a b => a.1 < b.1)

end KeyMap

end Windowing
