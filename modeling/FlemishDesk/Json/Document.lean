import FlemishDesk.Number.Integer

/-!
# JSON documents as they are written

A document keeps every distinction that its text makes: how a number is spelled,
which fields an object lists and how often, and whether a string is Unicode text
at all.  What a reader makes of these is decided later, because a value that a
reader skips only has to be well formed.
-/

namespace FlemishDesk
namespace Json

/-- A number as it is spelled. -/
structure Numeral where
  /-- A minus sign stands in front. -/
  negative : Bool
  /-- The digits before the point. -/
  whole : List Char
  /-- The digits after the point, if there is one. -/
  fraction : Option (List Char)
  /-- The sign and the digits of the exponent, if there is one. -/
  exponent : Option (Bool × List Char)
deriving DecidableEq, Repr

/-- A JSON document.  A string is `none` when it is not Unicode text. -/
inductive Document where
  | null
  | bool (value : Bool)
  | number (numeral : Numeral)
  | string (text : Option String)
  | array (items : List Document)
  | object (fields : List (Option String × Document))
deriving Repr

mutual

/-- How deeply arrays and objects are nested. -/
def Document.depth : Document -> Nat
  | .array items => depthOfItems items + 1
  | .object fields => depthOfFields fields + 1
  | _ => 0

/-- The greatest depth among the items of an array. -/
def depthOfItems : List Document -> Nat
  | [] => 0
  | item :: others => max item.depth (depthOfItems others)

/-- The greatest depth among the values of an object. -/
def depthOfFields : List (Option String × Document) -> Nat
  | [] => 0
  | (_, value) :: others => max value.depth (depthOfFields others)

end

end Json
end FlemishDesk
