set_option autoImplicit false

/-! # Durations

A duration is a signed 64-bit count of nanoseconds. Adding durations wraps around in two's
complement, so a clock that runs past the largest duration becomes negative. -/

namespace Windowing

/-- Nanoseconds, signed, 64 bits, wrapping. -/
abbrev Duration := Int64

namespace Duration

def nanosecond : Duration := 1
def microsecond : Duration := 1000
def millisecond : Duration := 1000000
def second : Duration := 1000000000
def minute : Duration := 60000000000
def hour : Duration := 3600000000000

end Duration

end Windowing
