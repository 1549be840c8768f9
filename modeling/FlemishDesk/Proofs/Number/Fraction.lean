import FlemishDesk.Proofs.Number.Numeral
import FlemishDesk.Proofs.Number.Rounding
import Mathlib

/-!
# The values of written fractions

A written fraction stands for a rational number.  The comparisons that the readers make,
on the number of digits before the point and on a quotient of two integers, are
comparisons of that number.
-/

namespace FlemishDesk
namespace Number
namespace Decimal

/-- The number that the digits, taken as an integer, and the power of ten make. -/
def magnitude (digits : List Char) (exponent : Int) : ℚ :=
  digitsValue digits * 10 ^ exponent

/-- The number that a fraction stands for. -/
def value (negative : Bool) (digits : List Char) (exponent : Int) : ℚ :=
  if negative then -magnitude digits exponent else magnitude digits exponent

theorem magnitude_nonneg (digits : List Char) (exponent : Int) :
    0 ≤ magnitude digits exponent := by
  unfold magnitude
  positivity

/-! ## Quotients -/

theorem denominator_pos (exponent : Int) : 0 < denominator exponent :=
  Nat.pow_pos (by decide)

theorem numerator_eq (digits : List Char) (exponent : Int) :
    (numerator digits exponent : ℚ) = magnitude digits exponent *
      denominator exponent := by
  unfold numerator denominator magnitude
  simp only [Nat.pow_eq]
  cases exponent with
  | ofNat n => simp
  | negSucc n =>
      have power : (10 : ℚ) ^ (n + 1) ≠ 0 := by positivity
      have opposite : (-Int.negSucc n).toNat = n + 1 := rfl
      rw [Int.toNat_negSucc, opposite, zpow_negSucc]
      push_cast
      field_simp

theorem mul_denominator_le_iff
    (digits : List Char)
    (exponent : Int)
    (n : Nat) :
    n * denominator exponent ≤ numerator digits exponent <->
      (n : ℚ) ≤ magnitude digits exponent := by
  have positive : (0 : ℚ) <
      denominator exponent := by exact_mod_cast denominator_pos exponent
  rw [← Nat.cast_le (α := ℚ), numerator_eq, Nat.cast_mul, mul_le_mul_iff_left₀ positive]

/-! ## Digits before the point -/

theorem digitsValue_significant (digits : List Char) :
    digitsValue (significant digits) = digitsValue digits := by
  induction digits with
  | nil => rfl
  | cons c rest inductionHypothesis =>
      rw [significant, List.dropWhile_cons]
      split
      · next zero =>
          rw [beq_iff_eq.mp zero]
          exact inductionHypothesis
      · rfl

theorem le_foldl_digitValue (digits : List Char) (start : Nat) :
    start * 10 ^ digits.length ≤
      digits.foldl (fun value c => value * 10 + digitValue c) start := by
  induction digits generalizing start with
  | nil => simp
  | cons c rest inductionHypothesis =>
      rw [List.foldl_cons, List.length_cons, pow_succ', ← mul_assoc]
      refine le_trans ?_ (inductionHypothesis _)
      gcongr
      exact Nat.le_add_right _ _

theorem one_le_digitValue
    {c : Char}
    (isDigit : c.isDigit = true)
    (notZero : c ≠ '0') :
    1 ≤ digitValue c := by
  obtain ⟨lower, -⟩ := Char.isDigit_iff_toNat.mp isDigit
  have zero : '0'.toNat = 48 := rfl
  have other : c.toNat ≠ 48 := by
    intro same
    apply notZero
    rw [← Char.ofNat_toNat c, same]
  unfold digitValue
  omega

/-- Digits that do not start with a zero stand for at least the power of ten of their
length. -/
theorem le_digitsValue_significant
    {digits : List Char}
    (allDigits : ∀ c ∈ digits, c.isDigit = true)
    (nonzero : significant digits ≠ []) :
    10 ^ ((significant digits).length - 1) ≤ digitsValue digits := by
  rw [← digitsValue_significant]
  cases leading : significant digits with
  | nil => exact absurd leading nonzero
  | cons c rest =>
      have isDigit : c.isDigit = true := by
        apply allDigits
        exact (List.dropWhile_sublist _).subset (leading ▸ List.mem_cons_self)
      have notZero : (c == '0') = false := by
        have head := List.head?_dropWhile_not (· == '0') digits
        rw [← significant, leading] at head
        exact head
      have positive := one_le_digitValue isDigit (beq_eq_false_iff_ne.mp notZero)
      calc
        10 ^ ((c :: rest).length - 1) ≤ digitValue c * 10 ^ rest.length :=
          Nat.le_mul_of_pos_left _ positive
        _ ≤ rest.foldl (fun value c => value * 10 + digitValue c) (digitValue c) :=
          le_foldl_digitValue rest (digitValue c)
        _ =
          digitsValue (c :: rest) := by rw [digitsValue, List.foldl_cons, Nat.zero_mul,
          Nat.zero_add]

/-- A number lies below the power of ten with as many digits as stand before its
point. -/
theorem magnitude_lt
    {digits : List Char}
    (allDigits : ∀ c ∈ digits, c.isDigit = true)
    (exponent : Int) :
    magnitude digits exponent < 10 ^ order digits exponent := by
  have significantDigits : (significant digits).all Char.isDigit = true := by
    rw [List.all_eq_true]
    intro c present
    exact allDigits c ((List.dropWhile_sublist _).subset present)
  have below : (digitsValue digits : ℚ) < 10 ^ (significant digits).length := by
    rw [← digitsValue_significant]
    exact_mod_cast digitsValue_lt significantDigits
  rw [magnitude, order, zpow_add₀ (by norm_num), Int.ofNat_eq_natCast, zpow_natCast]
  gcongr

/-- A number other than zero lies at or above the power of ten with one digit less. -/
theorem le_magnitude
    {digits : List Char}
    (allDigits : ∀ c ∈ digits, c.isDigit = true)
    (nonzero : significant digits ≠ [])
    (exponent : Int) :
    10 ^ (order digits exponent - 1) ≤ magnitude digits exponent := by
  have above : (10 : ℚ) ^ ((significant digits).length - 1) ≤ digitsValue digits := by
    exact_mod_cast le_digitsValue_significant allDigits nonzero
  have places : order digits exponent - 1 = ((significant digits).length - 1 : Nat) +
      exponent := by
    have positive := List.length_pos_of_ne_nil nonzero
    rw [order, Int.ofNat_eq_natCast]
    omega
  rw [magnitude, places, zpow_add₀ (by norm_num), zpow_natCast]
  gcongr

theorem magnitude_of_significant_eq_nil
    {digits : List Char}
    (zero : significant digits = [])
    (exponent : Int) :
    magnitude digits exponent = 0 := by
  have nothing : digitsValue digits = 0 := by rw [← digitsValue_significant, zero]; rfl
  rw [magnitude, nothing, Nat.cast_zero, zero_mul]

/-! ## Finite doubles -/

-- The exponent is a variable here, so that no power is ever written out.
theorem cast_eq_of_eq_mul_pow
    {n exponent : Nat}
    (same : n = (Nat.pow 2 54 - 1) * Nat.pow 2 exponent) :
    (n : ℚ) = 2 ^ (54 + exponent) - 2 ^ exponent := by
  simp only [Nat.pow_eq] at same
  rw [same, Nat.cast_mul, Nat.cast_sub Nat.one_le_two_pow, pow_add]
  push_cast
  ring

theorem cast_overflow : (Binary64.overflow : ℚ) = 2 ^ 1024 - 2 ^ 970 := by
  have places : 54 + 970 = 1024 := rfl
  rw [cast_eq_of_eq_mul_pow Binary64.overflow.eq_def, places]

theorem cast_pow_ten (n : Nat) : ((Nat.pow 10 n : Nat) : ℚ) = 10 ^ (n : Int) := by
  rw [zpow_natCast, Nat.pow_eq, Nat.cast_pow, Nat.cast_ofNat]

theorem pow_ten_le_cast_iff (n bound : Nat) :
    (10 : ℚ) ^ (n : Int) ≤ bound <-> Nat.pow 10 n ≤ bound := by
  rw [← cast_pow_ten, Nat.cast_le]

theorem cast_le_pow_ten_iff (n bound : Nat) :
    (bound : ℚ) ≤ 10 ^ (n : Int) <-> bound ≤ Nat.pow 10 n := by
  rw [← cast_pow_ten, Nat.cast_le]

/-- The least number that is rounded to infinity lies between two powers of ten. -/
theorem overflow_bounds :
    (10 : ℚ) ^ ((308 : Nat) : Int) ≤ Binary64.overflow ∧
      Binary64.overflow ≤ (10 : ℚ) ^ ((309 : Nat) : Int) := by
  rw [pow_ten_le_cast_iff, cast_le_pow_ten_iff]
  decide +kernel

/-- The nearest double is finite exactly when the number lies below the least that is
rounded to infinity. -/
theorem isFinite_fraction_iff
    {digits : List Char}
    (allDigits : ∀ c ∈ digits, c.isDigit = true)
    (negative : Bool)
    (exponent : Int) :
    isFinite (.fraction negative digits exponent) = true <->
      magnitude digits exponent < Binary64.overflow := by
  have ten : (1 : ℚ) ≤ 10 := by norm_num
  obtain ⟨low, high⟩ := overflow_bounds
  rw [isFinite]
  split
  · next early =>
      simp only [Bool.or_eq_true, List.isEmpty_iff, decide_eq_true_eq] at early
      refine iff_of_true rfl ?_
      rcases early with zero | small
      · rw [magnitude_of_significant_eq_nil zero]
        exact lt_of_lt_of_le (by positivity) low
      · calc
          magnitude digits exponent < 10 ^ order digits exponent :=
            magnitude_lt allDigits exponent
          _ ≤ 10 ^ ((308 : Nat) : Int) := zpow_le_zpow_right₀ ten small
          _ ≤ Binary64.overflow := low
  · next late =>
      simp only [Bool.or_eq_true, List.isEmpty_iff, decide_eq_true_eq, not_or] at late
      split
      · next large =>
          refine iff_of_false Bool.false_ne_true (not_lt.mpr ?_)
          calc
            (Binary64.overflow : ℚ) ≤ 10 ^ ((309 : Nat) : Int) := high
            _ ≤ 10 ^ (order digits exponent - 1) := zpow_le_zpow_right₀ ten (by omega)
            _ ≤ magnitude digits exponent := le_magnitude allDigits late.1 exponent
      · rw [decide_eq_true_eq, ← not_le, ← not_le, mul_denominator_le_iff]

/-! ## Numbers of at least one -/

theorem one_le_value_iff
    (negative : Bool)
    (digits : List Char)
    (exponent : Int) :
    1 ≤ value negative digits exponent <->
      negative = false ∧ 1 ≤ magnitude digits exponent := by
  have nonnegative := magnitude_nonneg digits exponent
  cases negative with
  | false => simp [value]
  | true =>
      refine iff_of_false ?_ (by simp)
      rw [value, if_pos rfl, not_le]
      linarith

theorem one_le_magnitude_iff (digits : List Char) (exponent : Int) :
    1 ≤ magnitude digits exponent <->
      denominator exponent ≤ numerator digits exponent := by
  rw [← Nat.cast_one, ← mul_denominator_le_iff, Nat.one_mul]

/-- A number below one has no double of at least one. -/
theorem atLeastOne?_of_lt_one
    {negative : Bool}
    {digits : List Char}
    {exponent : Int}
    (small : value negative digits exponent < 1) :
    atLeastOne? (.fraction negative digits exponent) = none := by
  rw [atLeastOne?]
  split
  · rfl
  · next several =>
      simp only [Bool.or_eq_true, not_or, Bool.not_eq_true] at several
      obtain ⟨⟨⟨positive, -⟩, -⟩, -⟩ := several
      have quotient : numerator digits exponent < denominator exponent := by
        rw [← not_le, ← one_le_magnitude_iff]
        exact fun large =>
          absurd ((one_le_value_iff _ _ _).mpr ⟨positive, large⟩) (not_le.mpr small)
      rw [if_pos quotient]

/-- A number of at least one that is not too large has the double that is nearest to
it. -/
theorem atLeastOne?_of_one_le
    {negative : Bool}
    {digits : List Char}
    {exponent : Int}
    (allDigits : ∀ c ∈ digits, c.isDigit = true)
    (large : 1 ≤ value negative digits exponent)
    (finite : magnitude digits exponent < Binary64.overflow) :
    atLeastOne? (.fraction negative digits exponent) =
      Binary64.nearest? (numerator digits exponent) (denominator exponent) := by
  have ten : (1 : ℚ) < 10 := by norm_num
  obtain ⟨rfl, one⟩ := (one_le_value_iff _ _ _).mp large
  have nonzero : significant digits ≠ [] := by
    intro zero
    rw [magnitude_of_significant_eq_nil zero] at one
    exact absurd one (by norm_num)
  have before : 0 < order digits exponent := by
    rw [← zpow_lt_zpow_iff_right₀ ten, zpow_zero]
    exact lt_of_le_of_lt one (magnitude_lt allDigits exponent)
  have digitsAtMost : order digits exponent - 1 < (309 : Nat) := by
    rw [← zpow_lt_zpow_iff_right₀ ten]
    calc
      (10 : ℚ) ^ (order digits exponent - 1) ≤ magnitude digits exponent :=
        le_magnitude allDigits nonzero exponent
      _ < Binary64.overflow := finite
      _ ≤ 10 ^ ((309 : Nat) : Int) := overflow_bounds.2
  have shortcuts :
      ¬ ((false || (significant digits).isEmpty || decide (order digits exponent ≤ 0) ||
      decide (order digits exponent > 309)) = true) := by
    simp only [Bool.false_or, Bool.or_eq_true, List.isEmpty_iff, decide_eq_true_eq,
      nonzero, false_or]
    omega
  rw [atLeastOne?, if_neg shortcuts,
    if_neg (not_lt.mpr ((one_le_magnitude_iff _ _).mp one))]

section Finite

variable {negative : Bool} {digits : List Char} {exponent : Int}
variable (allDigits : ∀ c ∈ digits, c.isDigit = true)
variable (finite : magnitude digits exponent < Binary64.overflow)

include allDigits finite

theorem atLeastOne?_eq_none_iff :
    atLeastOne? (.fraction negative digits exponent) = none <->
      value negative digits exponent < 1 := by
  refine ⟨fun missing => ?_, atLeastOne?_of_lt_one⟩
  by_contra large
  rw [atLeastOne?_of_one_le allDigits (not_lt.mp large) finite,
    Binary64.nearest?] at missing
  split at missing
  · next tooLarge =>
      exact absurd ((mul_denominator_le_iff _ _ _).mp tooLarge) (not_le.mpr finite)
  · exact Option.some_ne_none _ missing

theorem rounds_of_atLeastOne?
    {double : Binary64.Finite}
    (found : atLeastOne? (.fraction negative digits exponent) = some double) :
    1 ≤ value negative digits exponent ∧
      Binary64.Rounds (numerator digits exponent) (denominator exponent) double := by
  have large : 1 ≤ value negative digits exponent := by
    rw [← not_lt, ← atLeastOne?_eq_none_iff allDigits finite, found]
    exact Option.some_ne_none double
  have one := (one_le_magnitude_iff _ _).mp ((one_le_value_iff _ _ _).mp large).2
  rw [atLeastOne?_of_one_le allDigits large finite] at found
  exact ⟨large, Binary64.rounds_of_nearest? (denominator_pos exponent) one found⟩

end Finite

end Decimal
end Number
end FlemishDesk
