set_option autoImplicit false

/-! # Channels

A channel passes values from its senders to its receiver in the order they were sent. It has
room for a fixed number of values: a send waits while the channel is full, a receive while it is
empty. A closed channel takes no more values; once the values it still holds are received, a
receive sees that it is closed.

A channel is kept as everything ever sent, in order, and the number of those values received so
far; what it holds is the rest. Its history is then part of its state, so what was sent, and
what was received before what, can be read off the channel itself. -/

namespace Windowing

/-- A first-in first-out channel: its room, every value ever sent, how many of them were
received, and whether it is closed. -/
structure Channel (α : Type) where
  capacity : Nat
  sent : List α
  received : Nat
  closed : Bool
  received_le : received ≤ sent.length

namespace Channel

variable {α : Type}

/-- An open channel with room for `capacity` values that holds nothing. -/
def empty (capacity : Nat) : Channel α := ⟨capacity, [], 0, false, Nat.le_refl 0⟩

/-- Send a value; `none` while the channel is full or closed, when a sender waits. (Sending on
a closed channel is an error of the sender; the processes that send never meet one.) -/
def send? (c : Channel α) (a : α) : Option (Channel α) :=
  if !c.closed && c.sent.length - c.received < c.capacity then
    some { c with sent := c.sent ++ [a], received_le := by simp; have := c.received_le; omega }
  else none

/-- Receive the oldest value held, with the channel after it; `none` while the channel holds
nothing. -/
def receive? (c : Channel α) : Option (α × Channel α) :=
  if h : c.received < c.sent.length then
    some (c.sent[c.received], { c with received := c.received + 1, received_le := h })
  else none

/-- Close the channel. -/
def close (c : Channel α) : Channel α := { c with closed := true }

@[simp]
theorem sent_empty (n : Nat) : (empty n : Channel α).sent = [] := rfl

@[simp]
theorem received_empty (n : Nat) : (empty n : Channel α).received = 0 := rfl

@[simp]
theorem closed_empty (n : Nat) : (empty n : Channel α).closed = false := rfl

@[simp]
theorem capacity_empty (n : Nat) : (empty n : Channel α).capacity = n := rfl

@[simp]
theorem sent_close (c : Channel α) : c.close.sent = c.sent := rfl

@[simp]
theorem received_close (c : Channel α) : c.close.received = c.received := rfl

@[simp]
theorem closed_close (c : Channel α) : c.close.closed = true := rfl

/-- A send goes through exactly when the channel is open and not full, and adds the value
after every value sent before. -/
theorem send?_eq_some {c c' : Channel α} {a : α} (h : c.send? a = some c') :
    c.closed = false ∧ c.sent.length - c.received < c.capacity ∧
      c'.sent = c.sent ++ [a] ∧ c'.received = c.received ∧ c'.closed = c.closed ∧
      c'.capacity = c.capacity := by
  unfold send? at h
  split at h
  · rename_i hopen
    cases h
    simp only [Bool.and_eq_true, Bool.not_eq_eq_eq_not, Bool.not_true, decide_eq_true_eq] at hopen
    exact ⟨hopen.1, hopen.2, rfl, rfl, rfl, rfl⟩
  · cases h

/-- A send into an open channel with room goes through. -/
theorem send?_isSome {c : Channel α} (a : α) (hopen : c.closed = false)
    (hroom : c.sent.length - c.received < c.capacity) : (c.send? a).isSome := by
  simp [send?, hopen, hroom]

/-- A receive takes the oldest value not yet received. -/
theorem receive?_eq_some {c c' : Channel α} {a : α} (h : c.receive? = some (a, c')) :
    c.sent[c.received]? = some a ∧ c'.sent = c.sent ∧ c'.received = c.received + 1 ∧
      c'.closed = c.closed ∧ c'.capacity = c.capacity := by
  unfold receive? at h
  split at h
  · rename_i hlt
    cases h
    exact ⟨List.getElem?_eq_getElem hlt, rfl, rfl, rfl, rfl⟩
  · cases h

/-- A receive finds nothing exactly when every value sent was received. -/
theorem receive?_eq_none {c : Channel α} : c.receive? = none ↔ c.received = c.sent.length := by
  have := c.received_le
  unfold receive?
  split <;> simp <;> omega

end Channel

end Windowing
