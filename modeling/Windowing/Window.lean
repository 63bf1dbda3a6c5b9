import Windowing.Message
import Windowing.Duration

set_option autoImplicit false

/-! # Windows

A window holds the messages gathered so far, in arrival order, whether it is open, the
time elapsed since it opened and the time since its last message. Adding a message
restarts the second clock; advancing moves both clocks by the same (wrapping) amount.
Closing keeps the messages: the closed window is what actions read. -/

namespace Windowing

/-- The gathered messages of one window and its two clocks. -/
structure Window where
  messages : List Message := []
  isOpen : Bool := false
  elapsed : Duration := 0
  sinceLast : Duration := 0
  deriving Inhabited

namespace Window

/-- The fresh window: closed, empty, both clocks at zero. -/
def fresh : Window := {}

/-- Append a message and restart the clock since the last message. -/
def add (w : Window) (m : Message) : Window :=
  { w with messages := w.messages ++ [m], sinceLast := 0 }

/-- Advance both clocks by `d`, wrapping around. -/
def advance (w : Window) (d : Duration) : Window :=
  { w with elapsed := w.elapsed + d, sinceLast := w.sinceLast + d }

/-- Mark the window open. -/
def open_ (w : Window) : Window := { w with isOpen := true }

/-- Mark the window closed; its messages stay. -/
def close (w : Window) : Window := { w with isOpen := false }

/-- The number of messages. -/
def len (w : Window) : Nat := w.messages.length

/-- The last message, if any. -/
def last? (w : Window) : Option Message := w.messages.getLast?

@[simp] theorem messages_add (w : Window) (m : Message) :
    (w.add m).messages = w.messages ++ [m] := rfl

@[simp] theorem messages_advance (w : Window) (d : Duration) :
    (w.advance d).messages = w.messages := rfl

@[simp] theorem isOpen_add (w : Window) (m : Message) : (w.add m).isOpen = w.isOpen := rfl

@[simp] theorem isOpen_advance (w : Window) (d : Duration) :
    (w.advance d).isOpen = w.isOpen := rfl

end Window

end Windowing
