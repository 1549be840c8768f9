import FlemishDesk.Json.Reader
import FlemishDesk.Number.Binary64

/-!
# JSON values

A value is what a document says.  Integers of at most sixty-four bits stay
integers; every other number is a real number, of which only the spelling is
kept.  A document has no value when a string in it is not Unicode text, when a
number in it is too large for a double, or when it is nested too deeply.
-/

namespace FlemishDesk

/-- A JSON value.  An object lists its fields in order. -/
inductive Json where
  | null
  | bool (value : Bool)
  /-- An integer that is not negative. -/
  | natural (value : Nat)
  /-- A negative integer, given by its magnitude. -/
  | negative (magnitude : Nat)
  /-- Any other number, as it is spelled. -/
  | real (numeral : Json.Numeral)
  | string (text : String)
  | array (items : List Json)
  | object (fields : List (String × Json))
deriving Repr

namespace Json

/-- The greatest number of nested arrays and objects. -/
def maxDepth : Nat := 127

/-- The digits of a number as far as they fit in sixty-four bits, as an integer,
and the power of ten that it has to be multiplied by because of the digits left
out. -/
def leadingDigits (digits : List Char) : Nat × Nat :=
  digits.foldl
    (fun (read : Nat × Nat) c =>
      let next := read.1 * 10 + Number.digitValue c
      if read.2 == 0 && next < Number.wordBound then (next, 0) else (read.1, read.2 + 1))
    (0, 0)

/-- Continue an integer with the digits after the point as far as they fit in
sixty-four bits.  The second component counts the digits that were taken, and
the third tells whether one did not fit. -/
def trailingDigits (significand : Nat) (digits : List Char) : Nat × Nat × Bool :=
  digits.foldl
    (fun (read : Nat × Nat × Bool) c =>
      let next := read.1 * 10 + Number.digitValue c
      if !read.2.2 && next < Number.wordBound then (next, read.2.1 + 1, false)
      else (read.1, read.2.1, true))
    (significand, 0, false)

/-- The number is too large for a double: its leading digits, as a double, times
its power of ten, as a double, is rounded to infinity. -/
def Numeral.isHuge (numeral : Numeral) : Bool :=
  let (significand, dropped) := leadingDigits numeral.whole
  let (significand, taken, _) := trailingDigits significand (numeral.fraction.getD [])
  let exponent : Int := match numeral.exponent with
    | none => 0
    | some (true, digits) => -(Int.ofNat (Number.digitsValue digits))
    | some (false, digits) => Int.ofNat (Number.digitsValue digits)
  let power := Int.ofNat dropped - Int.ofNat taken + exponent
  if significand == 0 || power < 0 then false
  else if power > 308 then true
  else
    Number.Binary64.nearestNat significand *
      Number.Binary64.nearestNat (Nat.pow 10 power.toNat) ≥
      Number.Binary64.overflow

/-- The value of a number.  A number is an integer when it is spelled as one and
fits in sixty-four bits; minus zero is not an integer. -/
def ofNumeral? (numeral : Numeral) : Option Json :=
  let magnitude := Number.digitsValue numeral.whole
  if numeral.fraction.isNone && numeral.exponent.isNone && !numeral.negative &&
      magnitude < Number.wordBound then
    some (.natural magnitude)
  else if numeral.fraction.isNone && numeral.exponent.isNone && numeral.negative &&
      0 < magnitude && magnitude ≤ Number.signedBound then
    some (.negative magnitude)
  else if numeral.isHuge then
    none
  else
    some (.real numeral)

mutual

/-- The value of a document, without a bound on its depth. -/
def ofDocument? : Document -> Option Json
  | .null => some .null
  | .bool value => some (.bool value)
  | .number numeral => ofNumeral? numeral
  | .string text => text.map .string
  | .array items => (itemsOf? items).map .array
  | .object fields => (fieldsOf? fields).map .object

/-- The values of the items of an array. -/
def itemsOf? : List Document -> Option (List Json)
  | [] => some []
  | item :: others =>
      match ofDocument? item, itemsOf? others with
      | some value, some values => some (value :: values)
      | _, _ => none

/-- The values of the fields of an object. -/
def fieldsOf? : List (Option String × Document) -> Option (List (String × Json))
  | [] => some []
  | (name, document) :: others =>
      match name, ofDocument? document, fieldsOf? others with
      | some name, some value, some values => some ((name, value) :: values)
      | _, _, _ => none

end

/-- The value of a document that is not nested too deeply. -/
def ofDocumentWithin? (document : Document) : Option Json :=
  if document.depth ≤ maxDepth then ofDocument? document else none

/-- Read a value from a text. -/
def read? (text : String) : Option Json :=
  (parseText? text).bind ofDocumentWithin?

/-- Read a value from bytes. -/
def readBytes? (content : List UInt8) : Option Json :=
  (parseBytes? content).bind ofDocumentWithin?

/-- The last value that an object lists under a name. -/
def lastField? (name : String) (fields : List (String × Json)) : Option Json :=
  (fields.reverse.find? (·.1 == name)).map (·.2)

/-- The value of a field of an object; the last one counts when a field is listed
more than once. -/
def field? (name : String) : Json -> Option Json
  | .object fields => lastField? name fields
  | _ => none

/-- The text of a string. -/
def string? : Json -> Option String
  | .string text => some text
  | _ => none

theorem eq_string_of_string?
    {value : Json}
    {text : String}
    (isText : value.string? = some text) :
    value = .string text := by
  cases value with
  | string other =>
      cases isText
      rfl
  | null | bool _ | natural _ | negative _ | real _ | array _ | object _ => cases isText

/-- The value of a boolean. -/
def bool? : Json -> Option Bool
  | .bool value => some value
  | _ => none

/-- The items of an array. -/
def array? : Json -> Option (List Json)
  | .array items => some items
  | _ => none

end Json
end FlemishDesk
