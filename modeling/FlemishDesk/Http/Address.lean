import FlemishDesk.Number.Integer
import FlemishDesk.Text.Cut
import FlemishDesk.Text.Percent

/-!
# Internet addresses

An address has four bytes or eight groups of sixteen bits.  The text form of the
latter leaves out the longest run of at least two zero groups, the first one on a
tie, and writes the last four bytes of an embedded short address with dots.
-/

namespace FlemishDesk
namespace Http

/-- An internet address. -/
inductive Address where
  /-- An address of four bytes. -/
  | short (a b c d : UInt8)
  /-- An address of eight groups. -/
  | long (groups : Vector UInt16 8)
deriving DecidableEq, Repr

namespace Address

/-- Four bytes with dots between them. -/
def dotted (a b c d : Nat) : List Char :=
  Number.decimal a ++ '.' :: Number.decimal b ++ '.' :: Number.decimal c ++
    '.' :: Number.decimal d

/-- A group in lowercase hexadecimal digits. -/
def hex (group : Nat) : List Char :=
  Nat.toDigits 16 group

/-- Groups with colons between them. -/
def groupsText (groups : List Nat) : List Char :=
  Text.joinWith [':'] (groups.map hex)

/-- The number of zeros at the start. -/
def leadingZeros (groups : List Nat) : Nat :=
  (groups.takeWhile (· == 0)).length

/-- The position and the length of the first longest run of zeros in groups that
start at a position. -/
def longestZeros (position : Nat) : List Nat -> Nat × Nat
  | [] => (position, 0)
  | group :: others =>
      let here := leadingZeros (group :: others)
      let later := longestZeros (position + 1) others
      if here ≥ later.2 then (position, here) else later

/-- The text of eight groups. -/
def longText (groups : List Nat) : List Char :=
  match groups with
  | [0, 0, 0, 0, 0, 0xFFFF, high, low] =>
      "::ffff:".toList ++ dotted (high / 256) (high % 256) (low / 256) (low % 256)
  | _ =>
      let (start, length) := longestZeros 0 groups
      if length > 1 then
        groupsText (groups.take start) ++ "::".toList ++
          groupsText (groups.drop (start + length))
      else
        groupsText groups

/-- The text of an address. -/
def text : Address -> String
  | .short a b c d => String.ofList (dotted a.toNat b.toNat c.toNat d.toNat)
  | .long groups => String.ofList (longText (groups.toList.map UInt16.toNat))

/-- Read a byte: at most three digits, and no zero in front of another digit. -/
def byte? (text : List Char) : Option UInt8 :=
  match text with
  | '0' :: _ :: _ => none
  | _ =>
      if text.length > 3 then none
      else ((Number.digits? text).filter (· < 256)).map UInt8.ofNat

/-- Read four bytes with dots between them. -/
def short? (text : List Char) : Option (UInt8 × UInt8 × UInt8 × UInt8) :=
  match (Text.splitOn ['.'] text).map byte? with
  | [some a, some b, some c, some d] => some (a, b, c, d)
  | _ => none

/-- Read a group: one to four hexadecimal digits. -/
def group? (text : List Char) : Option Nat :=
  if text.isEmpty || text.length > 4 then none
  else text.foldl (fun value c => do
    let value <- value
    let digit <- Text.Percent.hexValue? c
    return value * 16 + digit) (some 0)

/-- Read groups with colons between them; the last may be a short address. -/
def groups? (text : List Char) : Option (List Nat) :=
  if text.isEmpty then
    some []
  else
    let pieces := Text.splitOn [':'] text
    let last := pieces.getLast?.getD []
    match short? last with
    | some (a, b, c, d) => do
        let front <- pieces.dropLast.mapM group?
        return front ++ [a.toNat * 256 + b.toNat, c.toNat * 256 + d.toNat]
    | none => pieces.mapM group?

/-- Eight groups as an address. -/
def ofGroups? (groups : List Nat) : Option Address :=
  if sized : groups.length = 8 then
    some (.long ⟨(groups.map UInt16.ofNat).toArray, by simp [sized]⟩)
  else
    none

/-- Read an address of eight groups, of which a run of zeros may be left out. -/
def long? (text : List Char) : Option Address :=
  match Text.cut? "::".toList text with
  | none => (groups? text).bind ofGroups?
  | some (before, after) => do
      let front <- groups? before
      let back <- groups? after
      if front.length + back.length ≤ 7 then
        ofGroups? (front ++ List.replicate (8 - front.length - back.length) 0 ++ back)
      else
        none

/-- Read the address of a socket: an address and a port.  A long address stands in
brackets and may name a scope, which is not kept. -/
def ofSocket? (text : String) : Option Address :=
  match text.toList with
  | '[' :: rest => do
      let (inside, port) <- Text.cut? "]:".toList rest
      let _ <- (Number.digits? port).filter (· < 65536)
      match Text.cut? ['%'] inside with
      | some (address, scope) =>
          let _ <- (Number.digits? scope).filter (· < Nat.pow 2 32)
          long? address
      | none => long? inside
  | characters => do
      let (address, port) <- Text.cut? [':'] characters
      let _ <- (Number.digits? port).filter (· < 65536)
      let (a, b, c, d) <- short? address
      return .short a b c d

end Address
end Http
end FlemishDesk
