import Windowing.Duration

set_option autoImplicit false

/-! # Retrying journal writes

A journal write that fails on a transient SQLite error (the database busy or locked, or a short
read) is tried again after a pause. A driver error is judged by its result code: a busy or locked
database by its primary code, whatever the extended code, and a short read only as itself. Any
other error is judged by its text, which may carry a code that wrapping turned into words.

The pause after attempt `i` is the base delay doubled `i` times, capped, plus a random jitter
below the base delay. It is computed as a 64-bit duration: the doubling is a left shift that loses
the bits shifted past the top (a shift by 64 or more leaves zero), and the jitter is added with
wrap-around. The jitter drawn before each pause is a parameter of the model.

The write is tried at attempts `0` to `maxRetries`, with a pause between each two and none after
the last. The attempt counter is a 64-bit integer: with `maxRetries` at its largest value it would
wrap after 2^63 calls and the loop go on, which the model does not follow; it stops there. -/

namespace Windowing.Retry

/-- How a journal write fails: an error of the SQLite driver, with its extended result code, or
another error, known by its text. -/
inductive WriteError where
  | driver (code : Int)
  | other (message : String)
  deriving DecidableEq, Repr

/-- SQLite's result code for a busy database. -/
def sqliteBusy : Int := 5

/-- SQLite's result code for a locked table or database. -/
def sqliteLocked : Int := 6

/-- SQLite's extended result code for a short read, `SQLITE_IOERR` with the short-read flag. -/
def sqliteIoerrShortRead : Int := 522

/-- The texts that mark an error as transient when its code was lost in wrapping. -/
def transientMessages : List String :=
  ["SQLITE_BUSY", "SQLITE_LOCKED", "IOERR_SHORT_READ", "database is locked",
   "database table is locked", "(5)", "(6)", "(522)"]

/-- Whether characters hold a pattern: they start with it, or their tail holds it. -/
def holdsPattern (pattern : List Char) : List Char → Bool
  | [] => pattern.isEmpty
  | c :: rest => pattern.isPrefixOf (c :: rest) || holdsPattern pattern rest

/-- Whether a text holds another. -/
def containsText (s pattern : String) : Bool := holdsPattern pattern.toList s.toList

/-- A driver result code worth retrying: the short read as itself, and every extended code of a
busy or locked database (its low byte is the primary code). -/
def isTransientCode (code : Int) : Bool :=
  code == sqliteIoerrShortRead || code % 256 == sqliteBusy || code % 256 == sqliteLocked

/-- Whether the result of a write is worth retrying: never a success, a driver error by its code,
and any other error by its text. -/
def isTransient : Option WriteError → Bool
  | none => false
  | some (.driver code) => isTransientCode code
  | some (.other message) => transientMessages.any (containsText message)

/-- How often and how long a write is retried. -/
structure RetryConfig where
  maxRetries : Int64
  baseDelay : Duration
  maxDelay : Duration
  deriving DecidableEq, Repr

/-- Three retries, from 50 ms up to 500 ms. -/
def defaultRetryConfig : RetryConfig :=
  { maxRetries := 3, baseDelay := 50000000, maxDelay := 500000000 }

/-- A duration shifted left as a signed 64-bit integer: bits shifted past the top are lost, and a
shift by 64 or more leaves zero. -/
def shiftDuration (d : Duration) (n : Nat) : Duration :=
  if n < 64 then d <<< (Int64.ofNat n) else 0

/-- The pause after attempt `attempt`: the base delay doubled per attempt and capped at the
largest delay, plus the jitter drawn for it. -/
def backoffDelay (cfg : RetryConfig) (attempt : Nat) (jitter : Duration) : Duration :=
  let delay := shiftDuration cfg.baseDelay attempt
  let delay := if delay > cfg.maxDelay then cfg.maxDelay else delay
  delay + jitter

/-- What a run of the retry loop did: the error it returned (none when the write went through),
how many times it called the write, and the pauses it slept, in order. -/
structure RetryRun where
  result : Option WriteError
  calls : Nat
  sleeps : List Duration
  deriving DecidableEq, Repr

/-- The loop from attempt `attempt` on, with `left` more attempts allowed after it. The write's
result at each call is `write` of the call's index, and the jitter before each pause is `jitter`
of the attempt it follows. -/
def retryFrom (cfg : RetryConfig) (write : Nat → Option WriteError) (jitter : Nat → Duration)
    (attempt : Nat) : Nat → RetryRun
  -- the last attempt returns its result, whatever it is
  | 0 => ⟨write attempt, attempt + 1, []⟩
  | left + 1 =>
    if !isTransient (write attempt) then ⟨write attempt, attempt + 1, []⟩
    else
      let rest := retryFrom cfg write jitter (attempt + 1) left
      { rest with sleeps := backoffDelay cfg attempt (jitter attempt) :: rest.sleeps }

/-- Run a write until it goes through, fails for good, or runs out of retries. -/
def retryOp (cfg : RetryConfig) (write : Nat → Option WriteError) (jitter : Nat → Duration) :
    RetryRun :=
  if cfg.maxRetries < 0 then ⟨none, 0, []⟩
  else retryFrom cfg write jitter 0 cfg.maxRetries.toInt.toNat

end Windowing.Retry
