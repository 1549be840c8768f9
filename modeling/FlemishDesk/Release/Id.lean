import FlemishDesk.Json.Record

/-!
# Identifiers of releases

A release is identified by a number of sixty-four bits or by a text.  Two
identifiers are the same when their texts are, so that a number and its decimal
text identify one release.
-/

namespace FlemishDesk
namespace Release

/-- The identifier of a release. -/
inductive Id where
  | number (value : UInt64)
  | text (value : String)
deriving DecidableEq, Repr

namespace Id

/-- The text of an identifier. -/
def shown : Id -> String
  | .number value => Number.natText value.toNat
  | .text value => value

/-- Two identifiers have the same text. -/
def sameAs (a b : Id) : Bool :=
  a.shown == b.shown

/-- The identifier is the empty text. -/
def isBlank : Id -> Bool
  | .number _ => false
  | .text value => value.isEmpty

/-- The JSON form of an identifier. -/
def toJson : Id -> Json
  | .number value => .natural value.toNat
  | .text value => .string value

/-- The identifier that a value stands for. -/
def ofJson? : Json -> Option Id
  | .natural value => some (.number (UInt64.ofNat value))
  | .string value => some (.text value)
  | _ => none

/-- Read an identifier: a number of sixty-four bits that is not negative, or a
text. -/
def ofDocument? : Json.Document -> Option Id
  | .number numeral => (Json.ofNumeral? numeral).bind ofJson?
  | .string (some value) => some (.text value)
  | _ => none

end Id
end Release
end FlemishDesk
