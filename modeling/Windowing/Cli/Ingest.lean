import Windowing.Message.Wire
import Windowing.Text.Blank
import Windowing.Text.Utf8

set_option autoImplicit false

/-! # Ingesting input

`run` reads its input, the standard input or a file, and pushes the message of each of its
lines into the correlator. Two goroutines share the work. The scanner reads the input line by
line and offers each line on an unbuffered channel. The ingest loop takes the lines, passes over
those that hold no message and pushes the others one at a time, after the rate limiter's wait
when an ingest rate is set. When the scanner can read no more (at the end of the input, at a
line too long for its buffer, or at a read error) it puts its error, none at the end of the
input, into a channel with room for one value, and then its deferred close shuts the line
channel. The loop, finding the line channel closed, takes that error without waiting for it, if
it is there. A signal cancels the context, which stops both.

A line is what lies between two line breaks (octet 10), as the scanner splits the input: a final
empty piece is no line, and a carriage return before a break is dropped. The scanner's buffer
holds `maxLine` octets, so a line that does not fit in it with its break stops the reading. A
line is read as text octet by octet, an octet that starts no well-formed UTF-8 sequence as
U+FFFD, which is what the JSON decoder makes of it inside a string; outside a string it makes
the line no JSON either way.

Each goroutine is a process with a place in its code, and `State.step` takes one atomic step of
one of them, or cancels the context. A send on the unbuffered line channel meets its receive in
one step of both (`hand`). A step that would wait is not enabled; where a `select` could take
more than one case, each case is a step of its own. The loop pushes through `push`, the
correlator's side, which this module does not look into. `ingest` runs the processes in one
fixed order until neither can step; the steps of every run bring the processes nearer their end
(`State.stepsLeft_step`), so every run stops. -/

namespace Windowing.Cli

/-! ## Input lines -/

/-- The longest line the scanner takes, in octets, with its line break. -/
def maxLine : Nat := 1048576

/-- The pieces of octets between line breaks. A final empty piece is no line: the input ended
with a line break, or was empty. -/
def textLines (text : List UInt8) : List (List UInt8) :=
  let raw := text.splitOn 10
  if raw.getLast? = some [] then raw.dropLast else raw

/-- Whether a line is too long for the scanner: with its line break it would not fit in
`maxLine` octets (nor would it without one, as the scanner cannot tell that the input ends). -/
def tooLong (line : List UInt8) : Bool := maxLine ≤ line.length

/-- A line without the carriage return before its break, if it has one. -/
def dropReturn (line : List UInt8) : List UInt8 :=
  if line.getLast? = some 13 then line.dropLast else line

/-- The message on a line, if it has one with an id: its text, trimmed of blanks, is not empty
and reads as a message. -/
def lineMessage (line : List UInt8) : Option Message :=
  let t := Text.trimBlank (Utf8.decodeLossy line)
  if t.isEmpty then none
  else match Message.ofWire t with
    | .ok m => if m.id.isEmpty then none else some m
    | .error _ => none

/-- What the scanner reports when a line does not fit its buffer. -/
def tokenTooLong : String := "bufio.Scanner: token too long"

/-- A failure of reading, as ingesting reports it. -/
def readInputFailure (e : String) : String := "read input: " ++ e

namespace Ingest

/-- Where the scanner is. -/
inductive ScannerPc where
  /-- About to read the next line. -/
  | scanning
  /-- Offering a line on the line channel, unless the context is cancelled first. -/
  | offering (line : List UInt8)
  /-- Done reading: about to put its error into the error channel. -/
  | reporting
  /-- Returned, with its deferred close of the line channel still to run. -/
  | closing
  | done

/-- Where the ingest loop is. -/
inductive LoopPc where
  /-- Waiting for a line, or for the context to be cancelled. -/
  | receiving
  /-- Waiting for the rate limiter before it pushes a message. -/
  | waiting (m : Message)
  | pushing (m : Message)
  /-- The line channel is closed: taking the scanner's error if it is there, without waiting. -/
  | draining
  | returned (failure : Option String)

/-- How far the scanner is from its end. -/
def ScannerPc.rank : ScannerPc → Nat
  | .scanning => 4
  | .offering _ => 3
  | .reporting => 2
  | .closing => 1
  | .done => 0

/-- How far the loop is from returning, the lines still to come apart. -/
def LoopPc.rank : LoopPc → Nat
  | .waiting _ => 4
  | .pushing _ => 3
  | .receiving => 2
  | .draining => 1
  | .returned _ => 0

/-- The failure the loop returned, if it returned one. -/
def LoopPc.failure : LoopPc → Option String
  | .returned f => f
  | _ => none

/-- Whether the loop has returned. -/
def LoopPc.isReturned : LoopPc → Bool
  | .returned _ => true
  | _ => false

/-- The ingest goroutines: what the scanner has still to read, the two channels, each process's
place, and what the loop has done. -/
structure State (σ : Type) where
  /-- The lines of the input the scanner has not read, as they stand in it. -/
  unread : List (List UInt8)
  /-- What reading the input fails with once its lines run out; none at its end. -/
  readFailure : Option String
  /-- Whether a rate limiter paces the pushes: an ingest rate is set. -/
  limited : Bool
  scanner : ScannerPc := .scanning
  /-- The error channel, with room for one error: empty, or holding the scanner's error (none
  when it had none). -/
  errors : Option (Option String) := none
  linesClosed : Bool := false
  cancelled : Bool := false
  loop : LoopPc := .receiving
  /-- The correlator the loop pushes into. -/
  correlator : σ
  /-- How many messages the loop pushed. -/
  pushed : Nat := 0
  /-- The lines the loop took from the line channel, in order. -/
  received : List (List UInt8) := []

/-- A step of one of the processes, or the context being cancelled. -/
inductive Action where
  /-- The scanner reads a line, or finds that it can read none. -/
  | scan
  /-- The line the scanner offers passes over the line channel to the loop. -/
  | hand
  /-- The scanner finds the context cancelled while it offers a line, and returns. -/
  | scannerQuits
  /-- The scanner puts its error into the error channel. -/
  | report
  /-- The scanner's deferred close of the line channel. -/
  | close
  /-- The loop finds the context cancelled while it waits for a line, and returns. -/
  | loopQuits
  /-- The loop finds the line channel closed. -/
  | closedSeen
  /-- The loop takes the scanner's error if it is there, and returns. -/
  | drain
  /-- The rate limiter lets the loop go on. -/
  | grant
  /-- The rate limiter's wait ends as the context is cancelled, and the loop returns. -/
  | waitQuits
  /-- The loop pushes its message. -/
  | push
  | cancel
  deriving DecidableEq

namespace State

variable {σ : Type} (push : σ → Message → σ × Option Failure)

/-- The processes at their start, over the octets of an input or the failure of reading it. -/
def init (s : σ) (limited : Bool) : Except String (List UInt8) → State σ
  | .ok text => { unread := textLines text, readFailure := none, limited, correlator := s }
  | .error e => { unread := [], readFailure := some e, limited, correlator := s }

/-- The scanner's error once it reads no more: the read failure at the end of the input, or the
line too long it stopped at. -/
def scanError (st : State σ) : Option String :=
  match st.unread with
  | [] => st.readFailure
  | _ :: _ => some tokenTooLong

/-- The scanner reads on: it offers the next line, without the carriage return before its break,
or stops at the end of the input or at a line too long. -/
def scanStep (st : State σ) : State σ :=
  match st.unread with
  | l :: rest =>
    if tooLong l then { st with scanner := .reporting }
    else { st with unread := rest, scanner := .offering (dropReturn l) }
  | [] => { st with scanner := .reporting }

theorem scanStep_of_nil {st : State σ} (h : st.unread = []) :
    st.scanStep = { st with scanner := .reporting } := by
  simp [scanStep, h]

theorem scanStep_of_tooLong {st : State σ} {l : List UInt8} {rest : List (List UInt8)}
    (h : st.unread = l :: rest) (hl : tooLong l = true) :
    st.scanStep = { st with scanner := .reporting } := by
  simp [scanStep, h, hl]

theorem scanStep_of_fits {st : State σ} {l : List UInt8} {rest : List (List UInt8)}
    (h : st.unread = l :: rest) (hl : tooLong l = false) :
    st.scanStep = { st with unread := rest, scanner := .offering (dropReturn l) } := by
  simp [scanStep, h, hl]

/-- Where the loop goes with a line it took: back to waiting for lines when the line holds no
message, else on to push it, after the rate limiter's wait if there is one. -/
def afterLine (limited : Bool) (line : List UInt8) : LoopPc :=
  match lineMessage line with
  | none => .receiving
  | some m => if limited then .waiting m else .pushing m

/-- The loop pushes a message: on to the next line, with one more pushed, when the push goes
through, else returning its failure. -/
def pushStep (st : State σ) (m : Message) : State σ :=
  match push st.correlator m with
  | (c, none) => { st with correlator := c, pushed := st.pushed + 1, loop := .receiving }
  | (c, some f) => { st with correlator := c, loop := .returned (some f.message) }

/-- What the loop returns once the line channel is closed, from what the error channel holds:
the scanner's error, if it is there and is one. -/
def drained : Option (Option String) → Option String
  | some (some e) => some (readInputFailure e)
  | _ => none

/-- One step. -/
def step (st : State σ) : Action → Option (State σ)
  | .scan =>
    match st.scanner with
    | .scanning => some st.scanStep
    | _ => none
  | .hand =>
    match st.scanner, st.loop with
    | .offering l, .receiving =>
      some { st with
        scanner := .scanning
        loop := afterLine st.limited l
        received := st.received ++ [l] }
    | _, _ => none
  | .scannerQuits =>
    match st.scanner with
    | .offering _ => if st.cancelled then some { st with scanner := .closing } else none
    | _ => none
  | .report =>
    match st.scanner, st.errors with
    | .reporting, none => some { st with errors := some st.scanError, scanner := .closing }
    | _, _ => none
  | .close =>
    match st.scanner with
    | .closing => some { st with linesClosed := true, scanner := .done }
    | _ => none
  | .loopQuits =>
    match st.loop with
    | .receiving => if st.cancelled then some { st with loop := .returned none } else none
    | _ => none
  | .closedSeen =>
    match st.loop with
    | .receiving => if st.linesClosed then some { st with loop := .draining } else none
    | _ => none
  | .drain =>
    match st.loop with
    | .draining => some { st with errors := none, loop := .returned (drained st.errors) }
    | _ => none
  | .grant =>
    match st.loop with
    | .waiting m => some { st with loop := .pushing m }
    | _ => none
  | .waitQuits =>
    match st.loop with
    | .waiting _ => if st.cancelled then some { st with loop := .returned none } else none
    | _ => none
  | .push =>
    match st.loop with
    | .pushing m => some (st.pushStep push m)
    | _ => none
  | .cancel => if st.cancelled then none else some { st with cancelled := true }

/-- Steps one after another; `none` if one of them is not enabled. -/
def run (st : State σ) : List Action → Option (State σ)
  | [] => some st
  | a :: rest => (st.step push a).bind (·.run rest)

/-- No process can step: every step but a cancellation is disabled. -/
def Blocked (st : State σ) : Prop := ∀ a, a ≠ .cancel → st.step push a = none

/-! ## Steps, one action at a time -/

variable {push} {st st' : State σ}

theorem step_scan : st.step push .scan = some st' ↔ st.scanner = .scanning ∧ st.scanStep = st' := by
  cases h : st.scanner <;> simp [step, h]

theorem step_hand : st.step push .hand = some st' ↔ ∃ l, st.scanner = .offering l ∧
    st.loop = .receiving ∧ { st with
      scanner := .scanning, loop := afterLine st.limited l, received := st.received ++ [l] } = st' := by
  cases h : st.scanner <;> cases h' : st.loop <;> simp [step, h, h']

theorem step_scannerQuits : st.step push .scannerQuits = some st' ↔
    (∃ l, st.scanner = .offering l) ∧ st.cancelled = true ∧ { st with scanner := .closing } = st' := by
  cases h : st.scanner <;> simp [step, h]

theorem step_report : st.step push .report = some st' ↔ st.scanner = .reporting ∧
    st.errors = none ∧ { st with errors := some st.scanError, scanner := .closing } = st' := by
  cases h : st.scanner <;> cases h' : st.errors <;> simp [step, h, h']

theorem step_close : st.step push .close = some st' ↔
    st.scanner = .closing ∧ { st with linesClosed := true, scanner := .done } = st' := by
  cases h : st.scanner <;> simp [step, h]

theorem step_loopQuits : st.step push .loopQuits = some st' ↔
    st.loop = .receiving ∧ st.cancelled = true ∧ { st with loop := .returned none } = st' := by
  cases h : st.loop <;> simp [step, h]

theorem step_closedSeen : st.step push .closedSeen = some st' ↔
    st.loop = .receiving ∧ st.linesClosed = true ∧ { st with loop := .draining } = st' := by
  cases h : st.loop <;> simp [step, h]

theorem step_drain : st.step push .drain = some st' ↔ st.loop = .draining ∧
    { st with errors := none, loop := .returned (drained st.errors) } = st' := by
  cases h : st.loop <;> simp [step, h]

theorem step_grant : st.step push .grant = some st' ↔
    ∃ m, st.loop = .waiting m ∧ { st with loop := .pushing m } = st' := by
  cases h : st.loop <;> simp [step, h]

theorem step_waitQuits : st.step push .waitQuits = some st' ↔
    (∃ m, st.loop = .waiting m) ∧ st.cancelled = true ∧ { st with loop := .returned none } = st' := by
  cases h : st.loop <;> simp [step, h]

theorem step_push : st.step push .push = some st' ↔
    ∃ m, st.loop = .pushing m ∧ st.pushStep push m = st' := by
  cases h : st.loop <;> simp [step, h]

theorem step_cancel : st.step push .cancel = some st' ↔
    st.cancelled = false ∧ { st with cancelled := true } = st' := by
  cases h : st.cancelled <;> simp [step, h]

theorem run_cons {a : Action} {rest : List Action} : st.run push (a :: rest) = some st' ↔
    ∃ st₁, st.step push a = some st₁ ∧ st₁.run push rest = some st' :=
  Option.bind_eq_some_iff

/-! ## Every run stops -/

/-- The lines still to pass to the loop: those unread and the one on offer. -/
def linesLeft (st : State σ) : Nat :=
  st.unread.length + match st.scanner with
    | .offering _ => 1
    | _ => 0

/-- A bound on the steps left: five for each line still to pass (its reading, its passing, the
limiter's wait and its push, with one to spare), the ranks of both places, and one for the
cancellation while it has not happened. -/
def stepsLeft (st : State σ) : Nat :=
  5 * st.linesLeft + st.scanner.rank + st.loop.rank + if st.cancelled then 0 else 1

theorem stepsLeft_scanStep (h : st.scanner = .scanning) : st.scanStep.stepsLeft < st.stepsLeft := by
  rcases hu : st.unread with _ | ⟨l, rest⟩
  · rw [scanStep_of_nil hu]
    simp [stepsLeft, linesLeft, h, ScannerPc.rank]
  · cases hl : tooLong l
    · -- the line read moves from the unread ones to the offer
      rw [scanStep_of_fits hu hl]
      simp [stepsLeft, linesLeft, hu, h, ScannerPc.rank]
    · rw [scanStep_of_tooLong hu hl]
      simp [stepsLeft, linesLeft, h, ScannerPc.rank]

theorem stepsLeft_pushStep {m : Message} (h : st.loop = .pushing m) :
    (st.pushStep push m).stepsLeft < st.stepsLeft := by
  unfold pushStep
  rcases push st.correlator m with ⟨c, _ | f⟩ <;> simp [stepsLeft, linesLeft, h, LoopPc.rank]

/-- Every step brings the processes nearer their end. -/
theorem stepsLeft_step {a : Action} (h : st.step push a = some st') : st'.stepsLeft < st.stepsLeft := by
  have hreceiving : LoopPc.receiving.rank = 2 := rfl
  cases a with
  | scan =>
    obtain ⟨hs, rfl⟩ := step_scan.1 h
    exact stepsLeft_scanStep hs
  | hand =>
    obtain ⟨l, hs, hl, rfl⟩ := step_hand.1 h
    -- the line passed pays for whatever the loop does with it
    have hrank : (afterLine st.limited l).rank ≤ 4 := by
      cases afterLine st.limited l <;> simp [LoopPc.rank]
    simp only [stepsLeft, linesLeft, hs, hl, ScannerPc.rank, hreceiving]
    omega
  | scannerQuits =>
    obtain ⟨⟨l, hs⟩, -, rfl⟩ := step_scannerQuits.1 h
    simp only [stepsLeft, linesLeft, hs, ScannerPc.rank]
    omega
  | report =>
    obtain ⟨hs, -, rfl⟩ := step_report.1 h
    simp only [stepsLeft, linesLeft, hs, ScannerPc.rank]
    omega
  | close =>
    obtain ⟨hs, rfl⟩ := step_close.1 h
    simp only [stepsLeft, linesLeft, hs, ScannerPc.rank]
    omega
  | loopQuits =>
    obtain ⟨hl, -, rfl⟩ := step_loopQuits.1 h
    simp only [stepsLeft, linesLeft, hl, LoopPc.rank]
    omega
  | closedSeen =>
    obtain ⟨hl, -, rfl⟩ := step_closedSeen.1 h
    simp only [stepsLeft, linesLeft, hl, LoopPc.rank]
    omega
  | drain =>
    obtain ⟨hl, rfl⟩ := step_drain.1 h
    simp only [stepsLeft, linesLeft, hl, LoopPc.rank]
    omega
  | grant =>
    obtain ⟨m, hl, rfl⟩ := step_grant.1 h
    simp only [stepsLeft, linesLeft, hl, LoopPc.rank]
    omega
  | waitQuits =>
    obtain ⟨⟨m, hl⟩, -, rfl⟩ := step_waitQuits.1 h
    simp only [stepsLeft, linesLeft, hl, LoopPc.rank]
    omega
  | push =>
    obtain ⟨m, hl, rfl⟩ := step_push.1 h
    exact stepsLeft_pushStep hl
  | cancel =>
    obtain ⟨hc, rfl⟩ := step_cancel.1 h
    simp only [stepsLeft, linesLeft, hc, if_true, Bool.false_eq_true, if_false]
    omega

/-! ## The program's own order -/

/-- The order in which the program's schedule tries the steps: the loop's first, then the
scanner's. -/
def schedule : List Action := [.push, .grant, .drain, .closedSeen, .hand, .scan, .report, .close]

variable (push) in
/-- Run the processes until neither can step, taking at each point the first step of
`schedule` that is enabled. -/
def drive (st : State σ) : State σ :=
  match h : schedule.findSome? (st.step push) with
  | none => st
  | some st' =>
    have : st'.stepsLeft < st.stepsLeft := by
      obtain ⟨a, -, ha⟩ := List.exists_of_findSome?_eq_some h
      exact stepsLeft_step ha
    st'.drive
termination_by st.stepsLeft

end State

end Ingest

variable {σ : Type} (push : σ → Message → σ × Option Failure)

/-- Ingest an input, given as its octets or as the failure of reading it: run the scanner and
the loop in the program's order until neither can step. The correlator then, how many messages
were pushed, and the failure the loop returned. -/
def ingest (s : σ) (limited : Bool) (input : Except String (List UInt8)) :
    σ × Nat × Option String :=
  let st := (Ingest.State.init s limited input).drive push
  (st.correlator, st.pushed, st.loop.failure)

end Windowing.Cli
