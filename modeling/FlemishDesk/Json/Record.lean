import FlemishDesk.Json.Value

/-!
# Reading records

A record has named fields in a fixed order.  It is written as an object, of which
fields with other names are skipped, or as an array of its fields.  A field that
an object lists twice makes the record invalid.  A skipped value only has to be
well formed, so records are read from documents rather than from values.
-/

namespace FlemishDesk
namespace Json

/-- The documents listed under a name. -/
def entriesNamed (name : String) (fields : List (Option String × Document)) :
    List Document :=
  (fields.filter (·.1 == some name)).map (·.2)

/-- The fields of a record, in order; a field that is not given is `none`.  Written
as an array, a record has at least `least` fields. -/
def record? (names : List String) (least : Nat) :
    Document -> Option (List (Option Document))
  | .object fields =>
      if fields.any (·.1.isNone) ||
        names.any (fun name => (entriesNamed name fields).length > 1)
      then none
      else some (names.map fun name => (entriesNamed name fields).head?)
  | .array items =>
      if items.length < least || items.length > names.length then
        none
      else
        some (items.map some ++ List.replicate (names.length - items.length) none)
  | _ => none

/-- A field that has to be given. -/
def required? {α : Type} (read : Document -> Option α) (field : Option Document) :
    Option α :=
  field.bind read

/-- A field that may be missing or null. -/
def optional? {α : Type} (read : Document -> Option α) :
    Option Document -> Option (Option α)
  | none => some none
  | some .null => some none
  | some document => (read document).map some

namespace Document

/-- The text of a string that is Unicode text. -/
def text? : Document -> Option String
  | .string text => text
  | _ => none

/-- The value of a boolean. -/
def bool? : Document -> Option Bool
  | .bool value => some value
  | _ => none

end Document

/-- Keep only the last of the fields with one name. -/
def keepLast {α : Type} : List (String × α) -> List (String × α)
  | [] => []
  | field :: others =>
      if others.any (·.1 == field.1) then keepLast others else field :: keepLast others

/-- The spelling of an integer. -/
def integerNumeral (negative : Bool) (magnitude : Nat) : Numeral :=
  ⟨negative, Number.decimal magnitude, none, none⟩

mutual

/-- The document of a value, in which an object lists every field once. -/
def toDocument : Json -> Document
  | .null => .null
  | .bool value => .bool value
  | .natural value => .number (integerNumeral false value)
  | .negative magnitude => .number (integerNumeral true magnitude)
  | .real numeral => .number numeral
  | .string text => .string (some text)
  | .array items => .array (itemDocuments items)
  | .object fields =>
      .object ((keepLast (fieldDocuments fields)).map fun field =>
        (some field.1, field.2))

/-- The documents of the items of an array. -/
def itemDocuments : List Json -> List Document
  | [] => []
  | item :: others => toDocument item :: itemDocuments others

/-- The documents of the fields of an object. -/
def fieldDocuments : List (String × Json) -> List (String × Document)
  | [] => []
  | (name, value) :: others => (name, toDocument value) :: fieldDocuments others

end

end Json
end FlemishDesk
