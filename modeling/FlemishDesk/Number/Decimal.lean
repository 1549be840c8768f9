import FlemishDesk.Number.Binary64

/-!
# Written decimal fractions

A decimal fraction is written as digits with an optional point and an optional
exponent, with a sign in front.  At least one digit stands before or after the
point.  The words for infinity and for a value that is no number are read too.
-/

namespace FlemishDesk
namespace Number

/-- What a written real number stands for. -/
inductive Decimal where
  /-- The digits, taken as an integer, times a power of ten. -/
  | fraction (negative : Bool) (digits : List Char) (exponent : Int)
  /-- Infinity, or a value that is no number. -/
  | notFinite
deriving DecidableEq, Repr

namespace Decimal

/-- Read an exponent: an optional sign and at least one digit. -/
def exponent? (text : List Char) : Option Int :=
  match text with
  | '+' :: rest => (digits? rest).map Int.ofNat
  | '-' :: rest => (digits? rest).map fun n => -(Int.ofNat n)
  | _ => (digits? text).map Int.ofNat

/-- Read a decimal fraction that has no sign. -/
def magnitude? (negative : Bool) (text : List Char) : Option Decimal :=
  let whole := text.takeWhile Char.isDigit
  let rest := text.dropWhile Char.isDigit
  let (part, rest) := match rest with
    | '.' :: more => (more.takeWhile Char.isDigit, more.dropWhile Char.isDigit)
    | _ => ([], rest)
  let moved := -(Int.ofNat part.length)
  if whole.isEmpty && part.isEmpty then
    none
  else
    match rest with
    | [] => some (.fraction negative (whole ++ part) moved)
    | c :: more =>
        if c == 'e' || c == 'E' then
          (exponent? more).map fun e => .fraction negative (whole ++ part) (moved + e)
        else
          none

/-- Read a real number. -/
def parse? (text : List Char) : Option Decimal :=
  let (negative, body) := match text with
    | '+' :: rest => (false, rest)
    | '-' :: rest => (true, rest)
    | _ => (false, text)
  let word := String.ofList (body.map Char.toLower)
  if word == "inf" || word == "infinity" || word == "nan" then
    some .notFinite
  else
    magnitude? negative body

/-- The digits without leading zeros. -/
def significant (digits : List Char) : List Char :=
  digits.dropWhile (· == '0')

/-- How many digits stand before the point when the number is written out: a
nonzero number lies below ten to this power, and not below ten to the one
before. -/
def order (digits : List Char) (exponent : Int) : Int :=
  Int.ofNat (significant digits).length + exponent

/-- The numerator of the number as a quotient of two integers. -/
def numerator (digits : List Char) (exponent : Int) : Nat :=
  digitsValue digits * Nat.pow 10 exponent.toNat

/-- The denominator of the number as a quotient of two integers. -/
def denominator (exponent : Int) : Nat :=
  Nat.pow 10 (-exponent).toNat

/-- The nearest double is finite. -/
def isFinite : Decimal -> Bool
  | .notFinite => false
  | .fraction _ digits exponent =>
      if (significant digits).isEmpty || order digits exponent ≤ 308 then true
      else if order digits exponent > 309 then false
      else numerator digits exponent < Binary64.overflow * denominator exponent

/-- The nearest double of a number of at least one. -/
def atLeastOne? : Decimal -> Option Binary64.Finite
  | .notFinite => none
  | .fraction negative digits exponent =>
      if negative || (significant digits).isEmpty || order digits exponent ≤ 0 ||
          order digits exponent > 309 then
        none
      else if numerator digits exponent < denominator exponent then
        none
      else
        Binary64.nearest? (numerator digits exponent) (denominator exponent)

end Decimal
end Number
end FlemishDesk
