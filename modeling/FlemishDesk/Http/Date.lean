import FlemishDesk.Text.Blank
import FlemishDesk.Time.Calendar

/-!
# Dates in header fields

A date in a header field is a second of universal time.  It is written in one of three
forms: the fixed form, a longer one in which the year has two digits, and the form of a
clock.  The day of the week has to be the right one.
-/

namespace FlemishDesk
namespace Http
namespace Date

open Time

/-- The names of the days of the week. -/
def weekdayNames : List String :=
  ["Monday", "Tuesday", "Wednesday", "Thursday", "Friday", "Saturday", "Sunday"]

/-- The short names of the months. -/
def monthNames : List String :=
  ["Jan", "Feb", "Mar", "Apr", "May", "Jun", "Jul", "Aug", "Sep", "Oct", "Nov", "Dec"]

/-- The short names of the days of the week. -/
def shortWeekdayNames : List String :=
  weekdayNames.map fun name => String.ofList (name.toList.take 3)

/-- Read one of several words between two marks.  The words are counted from one. -/
def word? (words : List String) (before after : String) (text : List Char) :
    Option (Nat × List Char) :=
  let spelled := words.map fun word => (before ++ word ++ after).toList
  match spelled.findIdx? fun word => word.isPrefixOf text with
  | none => none
  | some index => some (index + 1, text.drop (spelled.getD index []).length)

/-- Read a text that has to stand at the end. -/
def closing? (mark : String) (text : List Char) : Option Unit :=
  if text == mark.toList then some () else none

/-- The parts of a written date. -/
structure Written where
  /-- The day of the week, counted from one on Monday. -/
  weekday : Nat
  /-- The day of the month. -/
  day : Nat
  /-- The month. -/
  month : Nat
  /-- The year. -/
  year : Nat
  /-- The hour, the minute and the second. -/
  clock : Nat × Nat × Nat
deriving DecidableEq, Repr

/-- Read the fixed form: `Sun, 06 Nov 1994 08:49:37 GMT`. -/
def fixedForm? (text : List Char) : Option Written := do
  let (weekday, rest) <- word? shortWeekdayNames "" ", " text
  let (day, rest) <- fixed? 2 rest
  let (month, rest) <- word? monthNames " " " " rest
  let (year, rest) <- fixed? 4 rest
  let rest <- mark? ' ' rest
  let (clock, rest) <- clock? rest
  closing? " GMT" rest
  return { weekday, day, month, year, clock }

/-- The year that two digits stand for, which lies between 1970 and 2069. -/
def fullYear (year : Nat) : Nat :=
  if year < 70 then year + 2000 else year + 1900

/-- Read the long form: `Sunday, 06-Nov-94 08:49:37 GMT`.  Any character may stand
between the date and the time. -/
def longForm? (text : List Char) : Option Written := do
  let (weekday, rest) <- word? weekdayNames "" ", " text
  let (day, rest) <- fixed? 2 rest
  let (month, rest) <- word? monthNames "-" "-" rest
  let (year, rest) <- fixed? 2 rest
  let (clock, rest) <- clock? (rest.drop 1)
  closing? " GMT" rest
  return { weekday, day, month, year := fullYear year, clock }

/-- Read the day of the month in two places, the first of which may be a space. -/
def paddedDay? : List Char -> Option (Nat × List Char)
  | ' ' :: rest => fixed? 1 rest
  | text => fixed? 2 text

/-- Read the form of a clock: `Sun Nov  6 08:49:37 1994`. -/
def clockForm? (text : List Char) : Option Written := do
  let (weekday, rest) <- word? shortWeekdayNames "" " " text
  let (month, rest) <- word? monthNames "" " " rest
  let (day, rest) <- paddedDay? rest
  let rest <- mark? ' ' rest
  let (clock, rest) <- clock? rest
  let rest <- mark? ' ' rest
  let (year, rest) <- fixed? 4 rest
  closing? "" rest
  return { weekday, day, month, year, clock }

/-- The seconds from the start of 1970 to a written date, if there is such a date. -/
def Written.seconds? (date : Written) : Option Nat := do
  let (hour, minute, second) := date.clock
  let days <- dayNumber? date.year date.month date.day
  if hour < 24 && minute < 60 && second < 60 && 1970 ≤ date.year &&
      Time.weekday days == date.weekday then
    return (days - epochDays) * 86400 + hour * 3600 + minute * 60 + second
  else none

/-- Read a date in one of the three forms: the seconds from the start of 1970.  There
are only ASCII characters in a date. -/
def read? (text : String) : Option Nat :=
  if text.toList.all fun c => c.toNat < 0x80 then
    let text := Text.trim text.toList
    let written := (fixedForm? text).or ((longForm? text).or (clockForm? text))
    written.bind Written.seconds?
  else none

end Date
end Http
end FlemishDesk
