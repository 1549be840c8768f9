import FlemishDesk.Text.Utf8

/-!
# Percent-encoding

Encoding keeps the ASCII letters and digits and the four marks `-`, `_`, `.` and
`~`, and writes every other byte of the UTF-8 encoding as a percent sign and two
uppercase hexadecimal digits.  Decoding reads such triplets back into bytes; a
percent sign that no two hexadecimal digits follow stands for itself.
-/

namespace FlemishDesk
namespace Text
namespace Percent

/-- The byte is kept as it is. -/
def isKept (byte : UInt8) : Bool :=
  let c := Char.ofNat byte.toNat
  c.isAlphanum || c == '-' || c == '_' || c == '.' || c == '~'

/-- The uppercase hexadecimal digit of a number below sixteen. -/
def hexDigit (n : Nat) : Char :=
  if n < 10 then Char.ofNat (0x30 + n) else Char.ofNat (0x41 + (n - 10))

/-- The value of a hexadecimal digit of either case. -/
def hexValue? (c : Char) : Option Nat :=
  if '0' ≤ c && c ≤ '9' then some (c.toNat - 0x30)
  else if 'A' ≤ c && c ≤ 'F' then some (c.toNat - 0x41 + 10)
  else if 'a' ≤ c && c ≤ 'f' then some (c.toNat - 0x61 + 10)
  else none

/-- The written form of one byte. -/
def encodeByte (byte : UInt8) : List Char :=
  if isKept byte then
    [Char.ofNat byte.toNat]
  else
    ['%', hexDigit (byte.toNat / 16), hexDigit (byte.toNat % 16)]

/-- The percent-encoded form of a text. -/
def encode (text : String) : String :=
  String.ofList ((Utf8.bytes text).flatMap encodeByte)

/-- The bytes that a percent-encoded text stands for. -/
def decode : List Char -> List UInt8
  | '%' :: high :: low :: rest =>
      match hexValue? high, hexValue? low with
      | some h, some l => UInt8.ofNat (h * 16 + l) :: decode rest
      | _, _ => 0x25 :: decode (high :: low :: rest)
  | c :: rest => Utf8.encodeChar c ++ decode rest
  | [] => []

end Percent
end Text
end FlemishDesk
