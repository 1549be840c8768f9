import FlemishDesk.Number.Integer

/-!
# Double precision numbers

A double has fifty-three significant bits.  Only what the program observes of
doubles is kept: the nearest double of a written number, exactly as an integer
times a power of two, and the condition under which a product is too large to
be one.  Everything is computed in natural numbers.
-/

namespace FlemishDesk
namespace Number
namespace Binary64

/-- The quotient of two numbers, rounded to the nearest; a tie goes to the even
neighbour. -/
def roundedQuotient (numerator denominator : Nat) : Nat :=
  let quotient := numerator / denominator
  let twice := 2 * (numerator % denominator)
  if twice > denominator || (twice == denominator && quotient % 2 == 1) then
    quotient + 1
  else
    quotient

/-- The least number that is rounded to infinity. -/
def overflow : Nat := (Nat.pow 2 54 - 1) * Nat.pow 2 970

/-- The nearest double of a natural number, without a bound on its size. -/
def nearestNat (n : Nat) : Nat :=
  let bits := Nat.log2 n + 1
  if bits ≤ 53 then n
  else roundedQuotient n (Nat.pow 2 (bits - 53)) * Nat.pow 2 (bits - 53)

/-- A positive double: `significand * 2 ^ (scale - 52)`. -/
structure Finite where
  /-- The integer of at most fifty-four bits. -/
  significand : Nat
  /-- The binary exponent, moved up by fifty-two. -/
  scale : Nat
deriving DecidableEq, Repr

/-- The nearest double of a quotient of at least one, unless it is infinite. -/
def nearest? (numerator denominator : Nat) : Option Finite :=
  if numerator ≥ overflow * denominator then
    none
  else
    let scale := Nat.log2 (numerator / denominator)
    some ⟨roundedQuotient (numerator * Nat.pow 2 52) (denominator * Nat.pow 2 scale),
      scale⟩

/-- The double times a natural number, rounded to the nearest integer; a tie goes
to the even neighbour. -/
def Finite.timesRounded (value : Finite) (factor : Nat) : Nat :=
  roundedQuotient (value.significand * Nat.pow 2 value.scale * factor) (Nat.pow 2 52)

end Binary64
end Number
end FlemishDesk
