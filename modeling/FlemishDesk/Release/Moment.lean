import FlemishDesk.Time.Calendar

/-!
# Moments in time

A moment is written as a date, a time of day and an offset from universal time,
as RFC 3339 describes it.  Moments are compared as points in time, whatever their
offsets.  The sixtieth second of a minute is the second before it with a whole
second of nanoseconds added.
-/

namespace FlemishDesk
namespace Release

/-- A point in time: seconds since the start of 1970 in universal time, and the
nanoseconds after them. -/
structure Moment where
  /-- The seconds since the start of 1970. -/
  seconds : Int
  /-- The nanoseconds after the second. -/
  nanoseconds : Nat
deriving DecidableEq, Repr

namespace Moment

open Time

/-- The first moment is earlier than the second. -/
def isBefore (a b : Moment) : Bool :=
  a.seconds < b.seconds || (a.seconds == b.seconds && a.nanoseconds < b.nanoseconds)

/-- Read the mark between the date and the time. -/
def separator? : List Char -> Option (List Char)
  | c :: rest => if c == 'T' || c == 't' || c == ' ' then some rest else none
  | [] => none

/-- Read the fraction of a second in nanoseconds, if there is one.  Digits after
the ninth do not count. -/
def nanoseconds? : List Char -> Option (Nat × List Char)
  | '.' :: rest =>
      let digits := rest.takeWhile Char.isDigit
      if digits.isEmpty then
        none
      else
        let kept := digits.take 9
        some (Number.digitsValue kept * Nat.pow 10 (9 - kept.length),
          rest.dropWhile Char.isDigit)
  | text => some (0, text)

/-- Read the hours and minutes of an offset. -/
def offsetSize? (text : List Char) : Option (Int × List Char) := do
  let (hours, rest) <- fixed? 2 text
  let rest <- mark? ':' rest
  let (minutes, rest) <- fixed? 2 rest
  if hours ≤ 23 && minutes ≤ 59 then
    return (((hours * 60 + minutes) * 60 : Nat), rest)
  else
    none

/-- Read an offset in seconds: the letter Z, or a sign with hours and minutes. -/
def offset? : List Char -> Option (Int × List Char)
  | c :: rest =>
      if c == 'Z' || c == 'z' then some (0, rest)
      else if c == '+' then offsetSize? rest
      else if c == '-' || c == '−' then
        (offsetSize? rest).map fun read => (-read.1, read.2)
      else none
  | [] => none

/-- Read a moment. -/
def parse? (text : List Char) : Option Moment := do
  let (year, rest) <- fixed? 4 text
  let rest <- mark? '-' rest
  let (month, rest) <- fixed? 2 rest
  let rest <- mark? '-' rest
  let (day, rest) <- fixed? 2 rest
  let rest <- separator? rest
  let ((hour, minute, second), rest) <- clock? rest
  let (nanoseconds, rest) <- nanoseconds? rest
  let (offset, rest) <- offset? rest
  let days <- dayNumber? year month day
  if rest.isEmpty && hour ≤ 23 && minute ≤ 59 && second ≤ 60 then
    let isLeapSecond := second == 60
    let timeOfDay := hour * 3600 + minute * 60 + (if isLeapSecond then 59 else second)
    let seconds := ((days : Int) - epochDays) * 86400 + timeOfDay - offset
    return ⟨seconds, nanoseconds + (if isLeapSecond then 1000000000 else 0)⟩
  else
    none

end Moment
end Release
end FlemishDesk
