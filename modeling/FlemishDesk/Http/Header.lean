import FlemishDesk.Text.Blank

/-!
# Header fields

Header fields are named without regard to case.  When a field is repeated, the
first one counts.  A value is readable when it consists of tabs and of the ASCII
characters from the space to the tilde.
-/

namespace FlemishDesk
namespace Http

/-- The header fields of a message, in order. -/
abbrev Headers := List (String × String)

namespace Headers

/-- The name of a field in lowercase ASCII letters. -/
def key (name : String) : List Char :=
  name.toList.map Char.toLower

/-- The value of the first field with a name. -/
def first? (headers : Headers) (name : String) : Option String :=
  (headers.find? fun field => key field.1 == key name).map (·.2)

/-- A character of a readable value. -/
def isReadable (c : Char) : Bool :=
  c == '\t' || (' ' ≤ c && c ≤ '~')

/-- The value of the first field with a name, if it is readable. -/
def readable? (headers : Headers) (name : String) : Option String :=
  (headers.first? name).filter fun value => value.toList.all isReadable

/-- The trimmed value of the first field with a name, if it is readable and not
blank. -/
def filled? (headers : Headers) (name : String) : Option String :=
  ((headers.readable? name).map Text.trimmed).filter fun value => !value.isEmpty

end Headers
end Http
end FlemishDesk
