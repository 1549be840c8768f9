/-!
# Written integers

An integer is written as decimal digits, with an optional sign in front.  A
reader takes the bounds of the type the number is meant for; a number outside
the bounds is not read, and neither is a sign without digits.
-/

namespace FlemishDesk
namespace Number

/-- The value of a decimal digit. -/
def digitValue (c : Char) : Nat :=
  c.toNat - 0x30

/-- The number that a sequence of decimal digits stands for. -/
def digitsValue (digits : List Char) : Nat :=
  digits.foldl (fun value c => value * 10 + digitValue c) 0

/-- The number that a nonempty text of decimal digits stands for. -/
def digits? (text : List Char) : Option Nat :=
  if text.isEmpty || !text.all Char.isDigit then none else some (digitsValue text)

/-- One more than the greatest number of sixty-four bits. -/
def wordBound : Nat := Nat.pow 2 64

/-- The greatest magnitude of a signed number of sixty-four bits. -/
def signedBound : Nat := Nat.pow 2 63

/-- Read a number below `bound`.  A plus sign is allowed, a minus sign is not. -/
def unsigned? (bound : Nat) (text : List Char) : Option Nat :=
  let digits := match text with
    | '+' :: rest => rest
    | _ => text
  (digits? digits).filter (· < bound)

/-- Read a signed number of sixty-four bits. -/
def signed? (text : List Char) : Option Int :=
  let value : Option Int := match text with
    | '+' :: rest => (digits? rest).map Int.ofNat
    | '-' :: rest => (digits? rest).map fun n => -(Int.ofNat n)
    | _ => (digits? text).map Int.ofNat
  value.filter fun n => -(Int.ofNat signedBound) ≤ n && n < Int.ofNat signedBound

/-- The decimal digits of a number, most significant first. -/
def decimal (n : Nat) : List Char :=
  Nat.toDigits 10 n

/-- The decimal text of a natural number. -/
def natText (n : Nat) : String :=
  String.ofList (decimal n)

/-- The decimal text of an integer. -/
def intText : Int -> String
  | .ofNat n => natText n
  | .negSucc n => "-" ++ natText (n + 1)

/-- The decimal digits of a number, with zeros in front up to a width. -/
def padded (width n : Nat) : List Char :=
  let digits := decimal n
  List.replicate (width - digits.length) '0' ++ digits

end Number
end FlemishDesk
