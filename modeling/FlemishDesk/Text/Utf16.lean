/-!
# Text in units of sixteen bits

A text may also be written in units of two bytes, in either order.  Reading is lenient:
a unit that is half of a pair without the other half, and a byte that is left over at
the end, are shown as the replacement character.
-/

namespace FlemishDesk
namespace Text
namespace Utf16

/-- The order of the two bytes of a unit. -/
inductive Order where
  /-- The more significant byte comes first. -/
  | big
  /-- The less significant byte comes first. -/
  | little
deriving DecidableEq, Repr

/-- The unit of two bytes. -/
def Order.unit (order : Order) (first second : UInt8) : Nat :=
  match order with
  | .big => first.toNat * 256 + second.toNat
  | .little => second.toNat * 256 + first.toNat

/-- What is shown in place of what cannot be read. -/
def replacement : Char := '�'

/-- The unit is the first half of a pair. -/
def isHigh (unit : Nat) : Bool :=
  0xD800 ≤ unit && unit < 0xDC00

/-- The unit is the second half of a pair. -/
def isLow (unit : Nat) : Bool :=
  0xDC00 ≤ unit && unit < 0xE000

/-- The character of a pair. -/
def pair (high low : Nat) : Char :=
  Char.ofNat (0x10000 + (high - 0xD800) * 0x400 + (low - 0xDC00))

/-- Read bytes after the first half of a pair, if one is waiting for the other half. -/
def readAfter (order : Order) : Option Nat -> List UInt8 -> List Char
  | none, [] => []
  | none, [_] => [replacement]
  | some _, [] => [replacement]
  | some _, [_] => [replacement]
  | waiting, first :: second :: rest =>
      let unit := order.unit first second
      match waiting with
      | some high =>
          if isLow unit then pair high unit :: readAfter order none rest
          else if isHigh unit then replacement :: readAfter order (some unit) rest
          else replacement :: Char.ofNat unit :: readAfter order none rest
      | none =>
          if isHigh unit then readAfter order (some unit) rest
          else if isLow unit then replacement :: readAfter order none rest
          else Char.ofNat unit :: readAfter order none rest

/-- The text of bytes. -/
def lenient (order : Order) (bytes : List UInt8) : String :=
  String.ofList (readAfter order none bytes)

end Utf16
end Text
end FlemishDesk
