import FlemishDesk.Number.Binary64

/-!
# Durations

A duration is a number of whole seconds and the nanoseconds of the last, started
second.
-/

namespace FlemishDesk
namespace Number

/-- A length of time. -/
structure Duration where
  /-- The whole seconds. -/
  seconds : Nat
  /-- The nanoseconds beyond the whole seconds. -/
  nanoseconds : Nat
deriving DecidableEq, Repr

namespace Duration

/-- The nanoseconds in a second. -/
def second : Nat := 1000000000

/-- The duration of a number of nanoseconds. -/
def ofNanoseconds (n : Nat) : Duration :=
  ⟨n / second, n % second⟩

/-- The duration of a number of microseconds. -/
def ofMicroseconds (n : Nat) : Duration :=
  ofNanoseconds (n * 1000)

/-- The duration of a number of milliseconds. -/
def ofMilliseconds (n : Nat) : Duration :=
  ofNanoseconds (n * 1000000)

/-- The nanoseconds of a duration. -/
def inNanoseconds (duration : Duration) : Nat :=
  duration.seconds * second + duration.nanoseconds

/-- The whole milliseconds of a duration. -/
def milliseconds (duration : Duration) : Nat :=
  duration.seconds * 1000 + duration.nanoseconds / 1000000

/-- A number of units and a part of one, given with a fixed number of places and
written with as many as it needs. -/
def unitsText (whole places part : Nat) (unit : String) : String :=
  let digits := ((padded places part).reverse.dropWhile (· == '0')).reverse
  let fraction := if digits.isEmpty then "" else "." ++ String.ofList digits
  natText whole ++ fraction ++ unit

/-- A duration in the largest unit of which it has at least one. -/
def text (duration : Duration) : String :=
  let ns := duration.nanoseconds
  if duration.seconds > 0 then unitsText duration.seconds 9 ns "s"
  else if ns ≥ 1000000 then unitsText (ns / 1000000) 6 (ns % 1000000) "ms"
  else if ns ≥ 1000 then unitsText (ns / 1000) 3 (ns % 1000) "µs"
  else unitsText ns 0 0 "ns"

/-- The duration of a double number of seconds, rounded to the nearest
nanosecond, unless its seconds take more than sixty-four bits. -/
def ofSeconds? (value : Binary64.Finite) : Option Duration :=
  let duration := ofNanoseconds (value.timesRounded second)
  if duration.seconds < wordBound then some duration else none

end Duration
end Number
end FlemishDesk
