import Windowing.Duration

set_option autoImplicit false

/-! # The clock behind timer ticks

The clock remembers the last instant it read. A tick reads the time source again and gives
the time elapsed since then, clamped to the range of a duration; time that runs backwards
gives zero and leaves the last instant where it was. Instants are nanoseconds from a fixed
epoch. -/

namespace Windowing

/-- The last instant the clock read, in nanoseconds from the epoch. -/
structure Clock where
  last : Int

namespace Clock

/-- The difference of two instants, clamped to the range of a duration. -/
def between (later earlier : Int) : Int :=
  let d := later - earlier
  if d > 9223372036854775807 then 9223372036854775807
  else if d < -9223372036854775808 then -9223372036854775808
  else d

/-- Read the source at `now`: the elapsed time, and the clock after reading. -/
def tick (c : Clock) (now : Int) : Int × Clock :=
  let d := between now c.last
  if d < 0 then (0, c) else (d, ⟨now⟩)

/-- Ticks for a list of readings, in order. -/
def ticks (c : Clock) : List Int → List (Int × Int)
  | [] => []
  | now :: rest =>
    let (d, c') := c.tick now
    (d, c'.last) :: ticks c' rest

end Clock

/-- The step between timer ticks: a step that is not positive means 100 ms. -/
def timerStep (step : Int) : Int := if step ≤ 0 then 100000000 else step

end Windowing
