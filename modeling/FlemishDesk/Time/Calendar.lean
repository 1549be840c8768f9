import FlemishDesk.Number.Integer

/-!
# The calendar

Dates of the Gregorian calendar, counted in days, and the readers that written dates
and times have in common.
-/

namespace FlemishDesk
namespace Time

/-- The year has a leap day. -/
def isLeapYear (year : Nat) : Bool :=
  year % 4 == 0 && (year % 100 != 0 || year % 400 == 0)

/-- The lengths of the months of a year. -/
def monthLengths (year : Nat) : List Nat :=
  [31, if isLeapYear year then 29 else 28, 31, 30, 31, 30, 31, 31, 30, 31, 30, 31]

/-- The days from the start of the year zero to the start of a year. -/
def daysBeforeYear (year : Nat) : Nat :=
  365 * year + (year + 3) / 4 - (year + 99) / 100 + (year + 399) / 400

/-- The days from the start of the year zero to a date, if there is such a date. -/
def dayNumber? (year month day : Nat) : Option Nat :=
  let lengths := monthLengths year
  if 1 ≤ month && month ≤ 12 && 1 ≤ day && day ≤ lengths.getD (month - 1) 0 then
    some (daysBeforeYear year + (lengths.take (month - 1)).foldr (· + ·) 0 + (day - 1))
  else
    none

/-- The days from the start of the year zero to the start of 1970. -/
def epochDays : Nat := 719528

/-- The day of the week of a day, counted from one on Monday.  The first day of the
year zero was a Saturday. -/
def weekday (days : Nat) : Nat :=
  (days + 5) % 7 + 1

/-- Read a number of exactly `count` digits. -/
def fixed? (count : Nat) (text : List Char) : Option (Nat × List Char) :=
  let digits := text.take count
  if digits.length == count && digits.all Char.isDigit then
    some (Number.digitsValue digits, text.drop count)
  else
    none

/-- Read one character. -/
def mark? (c : Char) : List Char -> Option (List Char)
  | d :: rest => if c == d then some rest else none
  | [] => none

/-- Read hours, minutes and seconds with colons between them. -/
def clock? (text : List Char) : Option ((Nat × Nat × Nat) × List Char) := do
  let (hour, rest) <- fixed? 2 text
  let rest <- mark? ':' rest
  let (minute, rest) <- fixed? 2 rest
  let rest <- mark? ':' rest
  let (second, rest) <- fixed? 2 rest
  return ((hour, minute, second), rest)

end Time
end FlemishDesk
