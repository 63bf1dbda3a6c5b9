import Mathlib
import Windowing.Cli.Ingest

set_option autoImplicit false

/-! # Ingesting input lines

`run` reads its input line by line and pushes the message of every line that has one, through
two processes: the scanner, which reads the lines and offers them one by one on an unbuffered
channel, and the ingest loop, which takes them and pushes. The main statement,
`ingest_pushes_message_lines`, says what every run of the two does that is not cancelled, in
whatever order their steps interleave, for any push, however it keeps its state.

An input is its lines, each followed by a line break, and then a last line whose break may be
missing; the scanner reads back exactly those lines, less a last one that is empty
(`textLines_lines`). It stops at the first line of `maxLine` octets or more. While the pushes
succeed, the loop pushes the messages of the lines before that one, in order, and returns their
number, with the scanner's error when it stopped at a line too long; a push that fails ends the
ingestion with the number of messages pushed before it. Every run takes at most five steps a
line, and a run stops only once the loop has returned, so every run ends that way, and so does
the program's own order.

The proof follows the lines. At every point of a run, the lines the loop received, with the one
on offer, are those the scanner read, in order (`Inv.read`); what the loop pushed is what pushing
the received lines one after another gives (`LoopHolds`); and the error channel holds the
scanner's error from its report until the loop takes it (`Inv.errorsHeld`), since the scanner
reports before its deferred close and the loop looks only after the close. -/

namespace Windowing.Cli

/-! ## Lines of octets -/

/-- Lines, each followed by a line break, and a last line: the lines joined by line breaks. -/
theorem flatten_lines (ls : List (List UInt8)) (last : List UInt8) :
    (ls.map (· ++ [10])).flatten ++ last = [10].intercalate (ls ++ [last]) := by
  induction ls with
  | nil => simp
  | cons l ls ih =>
    have hne : ls ++ [last] ≠ [] := by simp
    rw [List.map_cons, List.flatten_cons, List.append_assoc, ih, List.cons_append,
      List.intercalate_cons_of_ne_nil hne]

/-- An input of lines, each followed by a line break, and a last line reads back as those
lines, with the last one unless it is empty. -/
theorem textLines_lines (ls : List (List UInt8)) (last : List UInt8) (hls : ∀ l ∈ ls, 10 ∉ l)
    (hlast : 10 ∉ last) :
    textLines ((ls.map (· ++ [10])).flatten ++ last) = ls ++ (if last = [] then [] else [last]) := by
  have hpieces : ∀ l ∈ ls ++ [last], 10 ∉ l := by
    simp only [List.mem_append, List.mem_singleton]
    rintro l (hl | rfl)
    · exact hls l hl
    · exact hlast
  have hraw : ((ls.map (· ++ [10])).flatten ++ last).splitOn 10 = ls ++ [last] := by
    rw [flatten_lines, List.splitOn_intercalate 10 hpieces (by simp)]
  simp only [textLines, hraw, List.getLast?_concat, Option.some.injEq]
  by_cases hlast' : last = []
  · simp [hlast']
  · simp [hlast']

/-- The lines the scanner hands out before it stops: those before the first line too long,
each without the carriage return before its break. -/
def scanned (lines : List (List UInt8)) : List (List UInt8) :=
  (lines.takeWhile (!tooLong ·)).map dropReturn

/-- The failure ingesting reports once the lines run out: the scanner's, at a line too long,
else the failure of reading the input, if any. -/
def stopFailure (lines : List (List UInt8)) (readFailure : Option String) : Option String :=
  (if lines.any tooLong then some tokenTooLong else readFailure).map readInputFailure

/-- Lines read before a line too long are all the lines the scanner hands out. -/
theorem scanned_of_stopped {pre rest : List (List UInt8)} (hpre : ∀ l ∈ pre, tooLong l = false)
    (hrest : rest = [] ∨ ∃ l more, rest = l :: more ∧ tooLong l = true) :
    scanned (pre ++ rest) = pre.map dropReturn := by
  have htake : (pre ++ rest).takeWhile (!tooLong ·) = pre := by
    rw [List.takeWhile_append_of_pos (by simpa using hpre)]
    rcases hrest with rfl | ⟨l, more, rfl, hl⟩
    · simp
    · simp [hl]
  simp only [scanned, htake]

/-- Lines read so far, none of them too long, come first among the lines handed out. -/
theorem scanned_append {pre rest : List (List UInt8)} (hpre : ∀ l ∈ pre, tooLong l = false) :
    scanned (pre ++ rest) = pre.map dropReturn ++ scanned rest := by
  rw [scanned, List.takeWhile_append_of_pos (by simpa using hpre), List.map_append]
  rfl

/-! ## Pushing the messages of lines, one after another -/

section Pushing

variable {σ : Type} (push : σ → Message → σ × Option Failure)

/-- Pushing each message in turn succeeds, from state `s` on. -/
def PushesOk : σ → List Message → Prop
  | _, [] => True
  | s, m :: rest => (push s m).2 = none ∧ PushesOk (push s m).1 rest

/-- The state after pushing each message in turn. -/
def pushed (s : σ) (msgs : List Message) : σ := msgs.foldl (fun s m => (push s m).1) s

/-- What ingesting messages gives: while every push succeeds, the state after all of them,
their number and the failure of reading, if any; when a push fails, the state after it, the
number of messages pushed before it, and its failure. -/
def Ingested (s : σ) (msgs : List Message) (failure : Option String)
    (o : σ × Nat × Option String) : Prop :=
  (PushesOk push s msgs → o = (pushed push s msgs, msgs.length, failure)) ∧
    ∀ pre m post f, msgs = pre ++ m :: post → PushesOk push s pre →
      (push (pushed push s pre) m).2 = some f →
      o = ((push (pushed push s pre) m).1, pre.length, some f.message)

/-- Push the message of each line in turn, passing over lines without one, until a push fails:
the state then, the number of messages pushed (counting from `n`), and the failure of the push
that failed. -/
def pushLines : σ → Nat → List (List UInt8) → σ × Nat × Option Failure
  | s, n, [] => (s, n, none)
  | s, n, l :: rest =>
    match lineMessage l with
    | none => pushLines s n rest
    | some msg =>
      match push s msg with
      | (s', some f) => (s', n, some f)
      | (s', none) => pushLines s' (n + 1) rest

/-- Pushing the lines of two pieces: the second piece's after the first's, unless a push of the
first failed. -/
theorem pushLines_append (s : σ) (n : Nat) (xs ys : List (List UInt8)) :
    pushLines push s n (xs ++ ys) =
      match pushLines push s n xs with
      | (c, k, none) => pushLines push c k ys
      | r => r := by
  induction xs generalizing s n with
  | nil => rfl
  | cons l rest ih =>
    simp only [List.cons_append, pushLines]
    cases hl : lineMessage l with
    | none => simpa using ih s n
    | some msg =>
      rcases hp : push s msg with ⟨s', _ | f⟩
      · simpa [hp] using ih s' (n + 1)
      · simp [hp]

/-- Pushing one more line. -/
theorem pushLines_concat (s : σ) (n : Nat) (xs : List (List UInt8)) (l : List UInt8) {c : σ}
    {k : Nat} (h : pushLines push s n xs = (c, k, none)) :
    pushLines push s n (xs ++ [l]) =
      match lineMessage l with
      | none => (c, k, none)
      | some msg =>
        match push c msg with
        | (c', some f) => (c', k, some f)
        | (c', none) => (c', k + 1, none) := by
  rw [pushLines_append, h]
  simp only [pushLines]

/-- A push that failed ends the pushing, whatever lines follow. -/
theorem pushLines_append_of_fails (s : σ) (n : Nat) (xs ys : List (List UInt8)) {c : σ}
    {k : Nat} {f : Failure} (h : pushLines push s n xs = (c, k, some f)) :
    pushLines push s n (xs ++ ys) = (c, k, some f) := by
  rw [pushLines_append, h]

/-- While the pushes succeed, the lines' messages are all pushed, in order. -/
theorem pushLines_of_pushesOk (ls : List (List UInt8)) (s : σ) (n : Nat)
    (h : PushesOk push s (ls.filterMap lineMessage)) :
    pushLines push s n ls =
      (pushed push s (ls.filterMap lineMessage), n + (ls.filterMap lineMessage).length, none) := by
  induction ls generalizing s n with
  | nil => simp [pushLines, pushed]
  | cons l rest ih =>
    cases hl : lineMessage l with
    | none =>
      simp only [List.filterMap_cons, hl] at h ⊢
      simp only [pushLines, hl]
      exact ih s n h
    | some msg =>
      simp only [List.filterMap_cons, hl, PushesOk] at h ⊢
      obtain ⟨hok, hrest⟩ := h
      rcases hp : push s msg with ⟨s', r⟩
      rw [hp] at hok hrest
      cases hok
      simp only [pushLines, hl, hp, ih s' (n + 1) hrest, pushed, List.foldl_cons,
        List.length_cons]
      grind

/-- A push that fails ends the pushing, with the number of messages pushed before it. -/
theorem pushLines_of_fails (ls : List (List UInt8)) (s : σ) (n : Nat) (pre : List Message)
    (m : Message) (post : List Message) (f : Failure)
    (hmsgs : ls.filterMap lineMessage = pre ++ m :: post) (hok : PushesOk push s pre)
    (hfail : (push (pushed push s pre) m).2 = some f) :
    pushLines push s n ls = ((push (pushed push s pre) m).1, n + pre.length, some f) := by
  induction ls generalizing s n pre with
  | nil => simp at hmsgs
  | cons l rest ih =>
    cases hl : lineMessage l with
    | none =>
      simp only [List.filterMap_cons, hl] at hmsgs
      simp only [pushLines, hl]
      exact ih s n pre hmsgs hok hfail
    | some msg =>
      simp only [List.filterMap_cons, hl] at hmsgs
      cases pre with
      | nil =>
        -- the first message of the lines is the one whose push fails
        obtain ⟨rfl, -⟩ := List.cons.inj hmsgs
        simp only [pushed, List.foldl_nil] at hfail
        rcases hp : push s msg with ⟨s', r⟩
        rw [hp] at hfail
        cases hfail
        simp [pushLines, hl, hp, pushed]
      | cons p pre =>
        obtain ⟨rfl, hrest⟩ := List.cons.inj hmsgs
        obtain ⟨hp0, hokRest⟩ := hok
        rcases hp : push s msg with ⟨s', r⟩
        rw [hp] at hp0 hokRest
        cases hp0
        have hstep := ih s' (n + 1) pre hrest hokRest (by simpa [pushed, hp] using hfail)
        simp only [pushLines, hl, hp, hstep, pushed, List.foldl_cons, List.length_cons]
        grind

/-- Ingesting lines one after another: the outcome of pushing their messages in turn, with
the failure of a push that failed, else the failure of reading. -/
def lineOutcome (s : σ) (lines : List (List UInt8)) (failure : Option String) :
    σ × Nat × Option String :=
  match pushLines push s 0 lines with
  | (c, n, some f) => (c, n, some f.message)
  | (c, n, none) => (c, n, failure)

/-- Ingesting lines one after another is ingesting their messages. -/
theorem ingested_lineOutcome (s : σ) (lines : List (List UInt8)) (failure : Option String) :
    Ingested push s (lines.filterMap lineMessage) failure (lineOutcome push s lines failure) := by
  refine ⟨fun hok => ?_, fun pre m post f hsplit hok hfail => ?_⟩
  · simp only [lineOutcome, pushLines_of_pushesOk push lines s 0 hok, Nat.zero_add]
  · simp only [lineOutcome, pushLines_of_fails push lines s 0 pre m post f hsplit hok hfail,
      Nat.zero_add]

end Pushing

/-! ## What holds along a run without cancellation -/

namespace Ingest

/-- The line the scanner offers, if it offers one. -/
def ScannerPc.offered : ScannerPc → List (List UInt8)
  | .offering l => [l]
  | _ => []

/-- Whether the scanner has stopped reading. -/
def ScannerPc.stopped : ScannerPc → Bool
  | .reporting | .closing | .done => true
  | _ => false

/-- Whether the scanner has reported its error. -/
def ScannerPc.reported : ScannerPc → Bool
  | .closing | .done => true
  | _ => false

variable {σ : Type} (push : σ → Message → σ × Option Failure)

/-- What the loop has done, by its place: what it pushed is what pushing the lines it received
one after another gives, up to the line whose message it is about to push; once returned, it
returned the failure of a push, or the scanner's error after the line channel closed. -/
def LoopHolds (s : σ) (st : State σ) : Prop :=
  match st.loop with
  | .receiving => pushLines push s 0 st.received = (st.correlator, st.pushed, none)
  | .draining =>
    pushLines push s 0 st.received = (st.correlator, st.pushed, none) ∧ st.linesClosed = true
  | .waiting m | .pushing m =>
    ∃ hs l, st.received = hs ++ [l] ∧ lineMessage l = some m ∧
      pushLines push s 0 hs = (st.correlator, st.pushed, none)
  | .returned r =>
    (∃ f, pushLines push s 0 st.received = (st.correlator, st.pushed, some f) ∧
      r = some f.message) ∨
    (pushLines push s 0 st.received = (st.correlator, st.pushed, none) ∧ st.linesClosed = true ∧
      r = State.drained (some st.scanError))

/-- What holds at every point of a run without cancellation from the start over `lines`, with
`readFailure` the failure of reading them and `s` the correlator they are pushed into. -/
structure Inv (s : σ) (lines : List (List UInt8)) (readFailure : Option String)
    (st : State σ) : Prop where
  uncancelled : st.cancelled = false
  readFailure : st.readFailure = readFailure
  /-- The lines read so far come before the unread ones, none of them too long, and the loop
  received them all, in order, but the one on offer. -/
  read : ∃ pre, lines = pre ++ st.unread ∧ (∀ l ∈ pre, tooLong l = false) ∧
    st.received ++ st.scanner.offered = pre.map dropReturn
  /-- The scanner stops reading only at the end of the input or at a line too long. -/
  stopped : st.scanner.stopped = true →
    st.unread = [] ∨ ∃ l rest, st.unread = l :: rest ∧ tooLong l = true
  errorsEmpty : st.scanner.reported = false → st.errors = none
  /-- From its report until the loop takes it, the error channel holds the scanner's error. -/
  errorsHeld : st.scanner.reported = true →
    st.errors = some st.scanError ∨ st.loop.isReturned = true
  closed : st.linesClosed = true ↔ st.scanner = .done
  loop : LoopHolds push s st

variable {push} {s : σ} {lines : List (List UInt8)} {rf : Option String} {st st' : State σ}

/-- The processes start with nothing read, the invariant holding. -/
theorem Inv.init (limited : Bool) (input : Except String (List UInt8)) :
    let st₀ := State.init s limited input
    Inv push s st₀.unread st₀.readFailure st₀ := by
  intro st₀
  have hst : st₀.scanner = .scanning ∧ st₀.loop = .receiving ∧ st₀.received = [] ∧
      st₀.errors = none ∧ st₀.linesClosed = false ∧ st₀.cancelled = false ∧
      st₀.correlator = s ∧ st₀.pushed = 0 := by
    cases input <;> exact ⟨rfl, rfl, rfl, rfl, rfl, rfl, rfl, rfl⟩
  obtain ⟨hs, hl, hr, he, hc, hcan, hcor, hp⟩ := hst
  refine ⟨hcan, rfl, ⟨[], by simp, by simp, by simp [hr, hs, ScannerPc.offered]⟩,
    by simp [hs, ScannerPc.stopped], fun _ => he, by simp [hs, ScannerPc.reported],
    by simp [hc, hs], ?_⟩
  simp only [LoopHolds, hl, hr, hcor, hp]
  rfl

/-- A loop that did not move keeps what it holds, as long as the line channel is open. -/
theorem LoopHolds.frame (h : LoopHolds push s st) (hopen : st.linesClosed = false)
    (hloop : st'.loop = st.loop) (hrec : st'.received = st.received)
    (hcor : st'.correlator = st.correlator) (hpushed : st'.pushed = st.pushed) :
    LoopHolds push s st' := by
  unfold LoopHolds at h ⊢
  rw [hloop, hrec, hcor, hpushed]
  cases hl : st.loop with
  | receiving => simpa [hl] using h
  | waiting m => simpa [hl] using h
  | pushing m => simpa [hl] using h
  | draining => simp [hl, hopen] at h
  | returned r =>
    rw [hl] at h
    rcases h with h | ⟨-, hclosed, -⟩
    · exact .inl h
    · rw [hopen] at hclosed
      cases hclosed

/-- Whether the scanner is done is all that tells whether the line channel is closed, so a
scanner that steps finds it open. -/
theorem Inv.linesOpen (hinv : Inv push s lines rf st) (hdone : st.scanner ≠ .done) :
    st.linesClosed = false := by
  cases h : st.linesClosed
  · rfl
  · exact absurd (hinv.closed.1 h) hdone

/-! ### The scanner's steps -/

theorem Inv.scan (hinv : Inv push s lines rf st) (hs : st.scanner = .scanning) :
    Inv push s lines rf st.scanStep := by
  obtain ⟨pre, hlines, hpre, hrec⟩ := hinv.read
  have hopen := hinv.linesOpen (by simp [hs])
  have herr := hinv.errorsEmpty (by simp [hs, ScannerPc.reported])
  have hrec' : st.received = pre.map dropReturn := by simpa [hs, ScannerPc.offered] using hrec
  -- stopping leaves the lines and what the loop holds as they are
  have hstop : (st.unread = [] ∨ ∃ l rest, st.unread = l :: rest ∧ tooLong l = true) →
      Inv push s lines rf { st with scanner := .reporting } := fun hend =>
    ⟨hinv.uncancelled, hinv.readFailure, ⟨pre, hlines, hpre, by simpa [ScannerPc.offered]⟩,
      fun _ => hend, fun _ => herr, by simp [ScannerPc.reported], by simp [hopen],
      hinv.loop.frame hopen rfl rfl rfl rfl⟩
  rcases hu : st.unread with _ | ⟨l, rest⟩
  · rw [State.scanStep_of_nil hu]
    exact hstop (.inl hu)
  · cases hl : tooLong l
    · -- the line read joins those read, and is offered
      rw [State.scanStep_of_fits hu hl]
      refine ⟨hinv.uncancelled, hinv.readFailure, ⟨pre ++ [l], ?_, ?_, ?_⟩,
        by simp [ScannerPc.stopped], fun _ => herr, by simp [ScannerPc.reported], by simp [hopen],
        hinv.loop.frame hopen rfl rfl rfl rfl⟩
      · simp [hlines, hu]
      · intro l' hl'
        rcases List.mem_append.1 hl' with h | h
        · exact hpre l' h
        · rw [List.mem_singleton.1 h]
          exact hl
      · simp [hrec', ScannerPc.offered]
    · rw [State.scanStep_of_tooLong hu hl]
      exact hstop (.inr ⟨l, rest, hu, hl⟩)

theorem Inv.report (hinv : Inv push s lines rf st) (hs : st.scanner = .reporting) :
    Inv push s lines rf { st with errors := some st.scanError, scanner := .closing } := by
  have hopen := hinv.linesOpen (by simp [hs])
  obtain ⟨pre, hlines, hpre, hrec⟩ := hinv.read
  exact ⟨hinv.uncancelled, hinv.readFailure,
    ⟨pre, hlines, hpre, by simpa [hs, ScannerPc.offered] using hrec⟩,
    fun _ => hinv.stopped (by simp [hs, ScannerPc.stopped]), by simp [ScannerPc.reported],
    fun _ => .inl (by simp [State.scanError]), by simp [hopen],
    hinv.loop.frame hopen rfl rfl rfl rfl⟩

theorem Inv.close (hinv : Inv push s lines rf st) (hs : st.scanner = .closing) :
    Inv push s lines rf { st with linesClosed := true, scanner := .done } := by
  have hopen := hinv.linesOpen (by simp [hs])
  obtain ⟨pre, hlines, hpre, hrec⟩ := hinv.read
  exact ⟨hinv.uncancelled, hinv.readFailure,
    ⟨pre, hlines, hpre, by simpa [hs, ScannerPc.offered] using hrec⟩,
    fun _ => hinv.stopped (by simp [hs, ScannerPc.stopped]), by simp [ScannerPc.reported],
    fun _ => by simpa [State.scanError] using hinv.errorsHeld (by simp [hs, ScannerPc.reported]),
    by simp, hinv.loop.frame hopen rfl rfl rfl rfl⟩

/-! ### The line passing between them -/

theorem Inv.hand (hinv : Inv push s lines rf st) {l : List UInt8} (hs : st.scanner = .offering l)
    (hl : st.loop = .receiving) :
    Inv push s lines rf { st with
      scanner := .scanning, loop := State.afterLine st.limited l, received := st.received ++ [l] } := by
  have hopen := hinv.linesOpen (by simp [hs])
  obtain ⟨pre, hlines, hpre, hrec⟩ := hinv.read
  have hpushed : pushLines push s 0 st.received = (st.correlator, st.pushed, none) := by
    have h := hinv.loop
    simpa [LoopHolds, hl] using h
  refine ⟨hinv.uncancelled, hinv.readFailure,
    ⟨pre, hlines, hpre, by simpa [hs, ScannerPc.offered] using hrec⟩,
    by simp [ScannerPc.stopped], fun _ => hinv.errorsEmpty (by simp [hs, ScannerPc.reported]),
    by simp [ScannerPc.reported], by simp [hopen], ?_⟩
  -- the loop pushes the line's message next, or passes over the line
  unfold LoopHolds State.afterLine
  cases hm : lineMessage l with
  | none =>
    simp [pushLines_concat push s 0 st.received l hpushed, hm]
  | some m =>
    cases st.limited
    · exact ⟨st.received, l, rfl, hm, hpushed⟩
    · exact ⟨st.received, l, rfl, hm, hpushed⟩

/-! ### The loop's steps -/

/-- While the loop has not returned, the error channel holds the scanner's error from its report
on. -/
theorem Inv.errors_of_running (hinv : Inv push s lines rf st) (hl : st.loop.isReturned = false)
    (hr : st.scanner.reported = true) : st.errors = some st.scanError := by
  simpa [hl] using hinv.errorsHeld hr

theorem Inv.closedSeen (hinv : Inv push s lines rf st) (hl : st.loop = .receiving)
    (hclosed : st.linesClosed = true) :
    Inv push s lines rf { st with loop := .draining } := by
  have h := hinv.loop
  simp only [LoopHolds, hl] at h
  exact { hinv with
    errorsHeld := fun hr => .inl (hinv.errors_of_running (by simp [hl, LoopPc.isReturned]) hr)
    loop := by simp [LoopHolds, h, hclosed] }

theorem Inv.drain (hinv : Inv push s lines rf st) (hl : st.loop = .draining) :
    Inv push s lines rf { st with errors := none, loop := .returned (State.drained st.errors) } := by
  have h := hinv.loop
  simp only [LoopHolds, hl] at h
  obtain ⟨hpushed, hclosed⟩ := h
  -- the line channel is closed, so the scanner reported, and the error is still there
  have hdone := hinv.closed.1 hclosed
  have herr : st.errors = some st.scanError := by
    simpa [hl, LoopPc.isReturned] using hinv.errorsHeld (by simp [hdone, ScannerPc.reported])
  exact { hinv with
    errorsEmpty := fun hr => by simp [hdone, ScannerPc.reported] at hr
    errorsHeld := fun _ => .inr rfl
    loop := .inr ⟨hpushed, hclosed, by rw [herr]; rfl⟩ }

theorem Inv.grant (hinv : Inv push s lines rf st) {m : Message} (hl : st.loop = .waiting m) :
    Inv push s lines rf { st with loop := .pushing m } := by
  have h := hinv.loop
  simp only [LoopHolds, hl] at h
  exact { hinv with
    errorsHeld := fun hr => .inl (hinv.errors_of_running (by simp [hl, LoopPc.isReturned]) hr)
    loop := by simpa [LoopHolds] using h }

theorem Inv.pushStep (hinv : Inv push s lines rf st) {m : Message} (hl : st.loop = .pushing m) :
    Inv push s lines rf (st.pushStep push m) := by
  have h := hinv.loop
  simp only [LoopHolds, hl] at h
  obtain ⟨hs, l, hrec, hm, hpushed⟩ := h
  have hline := pushLines_concat push s 0 hs l hpushed
  rw [hm] at hline
  have hrunning : st.loop.isReturned = false := by simp [hl, LoopPc.isReturned]
  unfold State.pushStep
  rcases hp : push st.correlator m with ⟨c, _ | f⟩
  · simp only [hp] at hline
    exact { hinv with
      errorsHeld := fun hr => .inl (hinv.errors_of_running hrunning hr)
      loop := by simp [LoopHolds, hrec, hline] }
  · simp only [hp] at hline
    exact { hinv with
      errorsHeld := fun hr => .inl (hinv.errors_of_running hrunning hr)
      loop := .inl ⟨f, by simp [hrec, hline], rfl⟩ }

/-- Every step but a cancellation keeps the invariant. -/
theorem Inv.step (hinv : Inv push s lines rf st) {a : Action} (ha : a ≠ .cancel)
    (h : st.step push a = some st') : Inv push s lines rf st' := by
  have hcan := hinv.uncancelled
  cases a with
  | scan =>
    obtain ⟨hs, rfl⟩ := State.step_scan.1 h
    exact hinv.scan hs
  | hand =>
    obtain ⟨l, hs, hl, rfl⟩ := State.step_hand.1 h
    exact hinv.hand hs hl
  | scannerQuits =>
    obtain ⟨-, hc, -⟩ := State.step_scannerQuits.1 h
    simp [hcan] at hc
  | report =>
    obtain ⟨hs, -, rfl⟩ := State.step_report.1 h
    exact hinv.report hs
  | close =>
    obtain ⟨hs, rfl⟩ := State.step_close.1 h
    exact hinv.close hs
  | loopQuits =>
    obtain ⟨-, hc, -⟩ := State.step_loopQuits.1 h
    simp [hcan] at hc
  | closedSeen =>
    obtain ⟨hl, hclosed, rfl⟩ := State.step_closedSeen.1 h
    exact hinv.closedSeen hl hclosed
  | drain =>
    obtain ⟨hl, rfl⟩ := State.step_drain.1 h
    exact hinv.drain hl
  | grant =>
    obtain ⟨m, hl, rfl⟩ := State.step_grant.1 h
    exact hinv.grant hl
  | waitQuits =>
    obtain ⟨-, hc, -⟩ := State.step_waitQuits.1 h
    simp [hcan] at hc
  | push =>
    obtain ⟨m, hl, rfl⟩ := State.step_push.1 h
    exact hinv.pushStep hl
  | cancel => exact absurd rfl ha

/-- Every run without cancellation keeps the invariant. -/
theorem Inv.run (hinv : Inv push s lines rf st) {acts : List Action} (hacts : .cancel ∉ acts)
    (h : st.run push acts = some st') : Inv push s lines rf st' := by
  induction acts generalizing st with
  | nil =>
    simp only [State.run, Option.some.injEq] at h
    exact h ▸ hinv
  | cons a rest ih =>
    obtain ⟨st₁, h₁, hrest⟩ := State.run_cons.1 h
    have ha : a ≠ .cancel := fun ha => hacts (by simp [ha])
    exact ih (hinv.step ha h₁) (fun hc => hacts (List.mem_cons_of_mem a hc)) hrest

/-! ## The end of a run -/

/-- What the loop returns from an error channel that holds an error, or the absence of one. -/
theorem drained_some (e : Option String) : State.drained (some e) = e.map readInputFailure := by
  cases e <;> rfl

/-- A loop that returned has done what pushing the lines handed out, one after another, does:
it returned the failure of a push that failed, else the scanner's error. -/
theorem Inv.outcome (hinv : Inv push s lines rf st) {r : Option String}
    (hr : st.loop = .returned r) :
    (st.correlator, st.pushed, r) = lineOutcome push s (scanned lines) (stopFailure lines rf) := by
  obtain ⟨pre, hlines, hpre, hrec⟩ := hinv.read
  have h := hinv.loop
  simp only [LoopHolds, hr] at h
  rcases h with ⟨f, hpushed, rfl⟩ | ⟨hpushed, hclosed, rfl⟩
  · -- a push failed: the lines after the received ones change nothing
    have hmore : scanned lines = st.received ++ (st.scanner.offered ++ scanned st.unread) := by
      rw [hlines, scanned_append hpre, ← hrec, List.append_assoc]
    simp [lineOutcome, hmore, pushLines_append_of_fails push s 0 _ _ hpushed]
  · -- the line channel closed: the scanner handed out every line, then reported its error
    have hdone := hinv.closed.1 hclosed
    have hstop := hinv.stopped (by simp [hdone, ScannerPc.stopped])
    have hall : scanned lines = st.received := by
      rw [hlines, scanned_of_stopped hpre hstop, ← hrec]
      simp [hdone, ScannerPc.offered]
    have hfailure : State.drained (some st.scanError) = stopFailure lines rf := by
      rw [drained_some, stopFailure]
      rcases hstop with hu | ⟨l, rest, hu, hl⟩
      · have hany : lines.any tooLong = false := by
          rw [hlines, hu, List.append_nil, List.any_eq_false]
          intro l hl
          simp [hpre l hl]
        simp [State.scanError, hu, hany, hinv.readFailure]
      · have hany : lines.any tooLong = true := List.any_eq_true.2 ⟨l, by simp [hlines, hu], hl⟩
        simp [State.scanError, hu, hany]
    simp [lineOutcome, hall, hpushed, hfailure]

/-- A run without cancellation stops only once the loop has returned: until then, one of the
processes can step. -/
theorem Inv.returned_of_blocked (hinv : Inv push s lines rf st) (hb : st.Blocked push) :
    st.loop.isReturned = true := by
  have enabled : ∀ a, a ≠ .cancel → (st.step push a).isSome = true → False := fun a ha h => by
    rw [hb a ha] at h
    cases h
  cases hl : st.loop with
  | returned r => rfl
  | waiting m => exact (enabled .grant (by decide) (by simp [State.step, hl])).elim
  | pushing m => exact (enabled .push (by decide) (by simp [State.step, hl])).elim
  | draining => exact (enabled .drain (by decide) (by simp [State.step, hl])).elim
  | receiving =>
    exfalso
    cases hs : st.scanner with
    | scanning => exact enabled .scan (by decide) (by simp [State.step, hs])
    | offering l => exact enabled .hand (by decide) (by simp [State.step, hs, hl])
    | reporting =>
      have he := hinv.errorsEmpty (by simp [hs, ScannerPc.reported])
      exact enabled .report (by decide) (by simp [State.step, hs, he])
    | closing => exact enabled .close (by decide) (by simp [State.step, hs])
    | done =>
      have hc := hinv.closed.2 hs
      exact enabled .closedSeen (by decide) (by simp [State.step, hl, hc])

/-- Without cancellation, the steps that wait for it are disabled, so a state where no step
of the program's order can be taken is one where no process can step. -/
theorem Inv.blocked_of_schedule (hinv : Inv push s lines rf st)
    (h : ∀ a ∈ State.schedule, st.step push a = none) : st.Blocked push := by
  have hcan := hinv.uncancelled
  intro a ha
  cases a with
  | scannerQuits => cases hs : st.scanner <;> simp [State.step, hs, hcan]
  | loopQuits => cases hl : st.loop <;> simp [State.step, hl, hcan]
  | waitQuits => cases hl : st.loop <;> simp [State.step, hl, hcan]
  | cancel => exact absurd rfl ha
  | scan | hand | report | close | closedSeen | drain | grant | push =>
    exact h _ (by simp [State.schedule])

/-- A run takes at most as many steps as the bound of the state it starts from. -/
theorem State.length_le_stepsLeft {acts : List Action} (h : st.run push acts = some st') :
    acts.length + st'.stepsLeft ≤ st.stepsLeft := by
  induction acts generalizing st with
  | nil =>
    simp only [State.run, Option.some.injEq] at h
    simp [h]
  | cons a rest ih =>
    obtain ⟨st₁, h₁, hrest⟩ := State.run_cons.1 h
    have hstep := State.stepsLeft_step h₁
    have hrun := ih hrest
    simp only [List.length_cons]
    omega

/-- At the start, five steps for each line and seven more bound a run. -/
theorem State.stepsLeft_init (limited : Bool) (input : Except String (List UInt8)) :
    (State.init s limited input).stepsLeft = 5 * (State.init s limited input).unread.length + 7 := by
  cases input <;> rfl

variable (push) in
/-- The program's order is a run without cancellation, and it stops where none of its steps can
be taken. -/
theorem State.drive_spec (st : State σ) :
    (∃ acts, .cancel ∉ acts ∧ st.run push acts = some (st.drive push)) ∧
      ∀ a ∈ State.schedule, (st.drive push).step push a = none := by
  fun_induction State.drive push st with
  | case1 st hnone =>
    exact ⟨⟨[], by simp, rfl⟩, fun a ha => List.findSome?_eq_none_iff.1 hnone a ha⟩
  | case2 st st' hsome _ ih =>
    obtain ⟨⟨acts, hacts, hrun⟩, hstop⟩ := ih
    obtain ⟨a, ha, hstep⟩ := List.exists_of_findSome?_eq_some hsome
    refine ⟨⟨a :: acts, ?_, by simp [State.run, hstep, hrun]⟩, hstop⟩
    simp only [List.mem_cons, not_or]
    exact ⟨fun h => by subst h; simp [State.schedule] at ha, hacts⟩

end Ingest

variable {σ : Type} (push : σ → Message → σ × Option Failure)

/-- Ingesting an input in the program's order is pushing the lines the scanner hands out, one
after another. -/
theorem ingest_eq (s : σ) (limited : Bool) (input : Except String (List UInt8)) :
    ingest push s limited input =
      lineOutcome push s (scanned (Ingest.State.init s limited input).unread)
        (stopFailure (Ingest.State.init s limited input).unread
          (Ingest.State.init s limited input).readFailure) := by
  obtain ⟨⟨acts, hacts, hrun⟩, hstop⟩ :=
    Ingest.State.drive_spec push (Ingest.State.init s limited input)
  have hinv₀ : Ingest.Inv push s (Ingest.State.init s limited input).unread
      (Ingest.State.init s limited input).readFailure (Ingest.State.init s limited input) :=
    Ingest.Inv.init limited input
  have hinv := hinv₀.run hacts hrun
  have hret := hinv.returned_of_blocked (hinv.blocked_of_schedule hstop)
  unfold ingest
  dsimp only
  cases hl : ((Ingest.State.init s limited input).drive push).loop with
  | returned r =>
    rw [Ingest.LoopPc.failure]
    exact hinv.outcome hl
  | _ => simp [hl, Ingest.LoopPc.isReturned] at hret

/-- Ingesting an input that is one blank line, without a break, of at least `maxLine` octets:
nothing is pushed, and the reading fails as the line is too long. -/
theorem ingest_long_blank_line (s : σ) (limited : Bool) (n : Nat) (hn : maxLine ≤ n) :
    ingest push s limited (.ok (List.replicate n 32)) =
      (s, 0, some (readInputFailure tokenTooLong)) := by
  have hne : List.replicate n (32 : UInt8) ≠ [] := by
    simp only [ne_eq, List.replicate_eq_nil_iff]
    simp only [maxLine] at hn
    omega
  have hlines : textLines (List.replicate n 32) = [List.replicate n 32] := by
    have h := textLines_lines [] (List.replicate n 32) (by simp) (by simp [List.mem_replicate])
    simpa [hne] using h
  have hlong : tooLong (List.replicate n 32) = true := by simpa [tooLong] using hn
  rw [ingest_eq]
  simp [Ingest.State.init, hlines, scanned, hlong, stopFailure, lineOutcome, pushLines]

/-- Ingesting an input of lines, for any push and with or without a rate limiter. Every run of
the scanner and the loop, in whatever order their steps interleave, takes at most five steps a
line and seven more. A run without cancellation stops only once the loop has returned, and then
the loop has pushed the messages of the lines before the first line too long (of `maxLine`
octets or more), in order: while the pushes succeed it returns their number, with the scanner's
error only if there was a line too long, and a push that fails ends the ingestion with its
failure and the number of messages pushed before it. The program's own order does the same. -/
theorem ingest_pushes_message_lines {σ : Type} (push : σ → Message → σ × Option Failure) (s : σ)
    (limited : Bool) (ls : List (List UInt8)) (last : List UInt8) (hls : ∀ l ∈ ls, 10 ∉ l)
    (hlast : 10 ∉ last) :
    let lines := ls ++ (if last = [] then [] else [last])
    let input := (ls.map (· ++ [10])).flatten ++ last
    let msgs := ((lines.takeWhile (!tooLong ·)).map dropReturn).filterMap lineMessage
    let failure := if lines.any tooLong then some (readInputFailure tokenTooLong) else none
    let start := Ingest.State.init s limited (.ok input)
    (∀ acts st, start.run push acts = some st → acts.length ≤ 5 * lines.length + 7) ∧
    (∀ acts st, start.run push acts = some st → .cancel ∉ acts →
      (st.Blocked push → st.loop.isReturned = true) ∧
      ∀ r, st.loop = .returned r → Ingested push s msgs failure (st.correlator, st.pushed, r)) ∧
    Ingested push s msgs failure (ingest push s limited (.ok input)) := by
  intro lines input msgs failure start
  have hlines : start.unread = lines := textLines_lines ls last hls hlast
  have hfailure : stopFailure lines start.readFailure = failure := by
    simp only [stopFailure, failure]
    split <;> rfl
  -- every outcome that pushes the lines handed out one after another is the ingestion asked for
  have houtcome : ∀ o, o = lineOutcome push s (scanned lines) (stopFailure lines start.readFailure) →
      Ingested push s msgs failure o := by
    rintro o rfl
    rw [hfailure]
    exact ingested_lineOutcome push s _ failure
  have hinv : Ingest.Inv push s lines start.readFailure start :=
    hlines ▸ Ingest.Inv.init limited (.ok input)
  refine ⟨fun acts st h => ?_, fun acts st h hacts => ?_, ?_⟩
  · have hbound := Ingest.State.length_le_stepsLeft h
    rw [Ingest.State.stepsLeft_init, hlines] at hbound
    omega
  · have hinv' := hinv.run hacts h
    exact ⟨hinv'.returned_of_blocked, fun r hr => houtcome _ (hinv'.outcome hr)⟩
  · refine houtcome _ ?_
    rw [ingest_eq, hlines]

/-- Lines ended by a carriage return and a break, a blank line, and a last line without its
break, pushed into a list that keeps every message it is given, with a rate limiter. -/
theorem crlf_lines_ingested :
    let ls : List (List UInt8) := ["\x7b\"id\": \"a\"\x7d\r".toList.map Char.toUInt8, [32, 32]]
    let last : List UInt8 := "\x7b\"id\": \"b\"\x7d".toList.map Char.toUInt8
    let push := fun (kept : List Message) (m : Message) => (kept ++ [m], (none : Option Failure))
    (∀ l ∈ ls, 10 ∉ l) ∧ 10 ∉ last ∧
    (let lines := ls ++ (if last = [] then [] else [last])
     let input := (ls.map (· ++ [10])).flatten ++ last
     let msgs := ((lines.takeWhile (!tooLong ·)).map dropReturn).filterMap lineMessage
     let failure := if lines.any tooLong then some (readInputFailure tokenTooLong) else none
     let start := Ingest.State.init [] true (.ok input)
     (∀ acts st, start.run push acts = some st → acts.length ≤ 5 * lines.length + 7) ∧
     (∀ acts st, start.run push acts = some st → .cancel ∉ acts →
       (st.Blocked push → st.loop.isReturned = true) ∧
       ∀ r, st.loop = .returned r → Ingested push [] msgs failure (st.correlator, st.pushed, r)) ∧
     Ingested push [] msgs failure (ingest push [] true (.ok input))) :=
  have hls : ∀ l ∈ ["\x7b\"id\": \"a\"\x7d\r".toList.map Char.toUInt8, [32, 32]], (10 : UInt8) ∉ l := by
    decide
  have hlast : (10 : UInt8) ∉ "\x7b\"id\": \"b\"\x7d".toList.map Char.toUInt8 := by
    decide
  ⟨hls, hlast, ingest_pushes_message_lines _ [] true _ _ hls hlast⟩

/-- A line of exactly 1 MiB (1048576 octets) is already too long for the scanner: ingesting it
pushes nothing and fails with `read input: bufio.Scanner: token too long`. -/
theorem mebibyte_line_refused :
    (List.replicate 1048576 (32 : UInt8)).length = 1048576 ∧
      ingest (fun (kept : List Message) (m : Message) => (kept ++ [m], (none : Option Failure)))
        [] false (.ok (List.replicate 1048576 32)) = ([], 0, some (readInputFailure tokenTooLong)) :=
  ⟨List.length_replicate, ingest_long_blank_line _ [] false 1048576 le_rfl⟩

end Windowing.Cli
