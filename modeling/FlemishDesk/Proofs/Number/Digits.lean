import FlemishDesk.Number.Integer

/-!
# Reading back decimal digits

The decimal digits of a number stand for the number, and they start with a zero only
when the number is zero.  No other digits do both, so that a number has one decimal
text.  A number of some digits is below a power of ten.
-/

namespace FlemishDesk
namespace Number

theorem digitValue_lt {c : Char} (isDigit : c.isDigit = true) : digitValue c < 10 := by
  obtain ⟨_, upper⟩ := Char.isDigit_iff_toNat.mp isDigit
  have nine : '9'.toNat = 57 := rfl
  unfold digitValue
  omega

theorem foldl_digitValue_lt
    {digits : List Char}
    (allDigits : ∀ c ∈ digits, c.isDigit = true)
    {value bound : Nat}
    (small : value < bound) :
    digits.foldl (fun value c => value * 10 + digitValue c) value <
      bound * Nat.pow 10 digits.length := by
  induction digits generalizing value bound with
  | nil => simpa using small
  | cons c digits inductionHypothesis =>
      have digit := digitValue_lt (allDigits c List.mem_cons_self)
      have next : value * 10 + digitValue c < bound * 10 := by omega
      have below := inductionHypothesis
        (fun d member => allDigits d (List.mem_cons_of_mem c member))
        next
      have power : Nat.pow 10 (digits.length + 1) = 10 * Nat.pow 10 digits.length :=
        Nat.mul_comm _ _
      rw [List.foldl_cons, List.length_cons, power, ← Nat.mul_assoc]
      exact below

/-- A number of some digits is below the power of ten that has one digit more. -/
theorem digitsValue_lt
    {digits : List Char}
    (allDigits : digits.all Char.isDigit = true) :
    digitsValue digits < Nat.pow 10 digits.length := by
  have below := foldl_digitValue_lt (List.all_eq_true.mp allDigits) Nat.zero_lt_one
  rw [Nat.one_mul] at below
  exact below

/-- The decimal digits of a number stand for it. -/
@[simp] theorem digitsValue_decimal (n : Nat) : digitsValue (decimal n) = n := by
  have sameFold : digitsValue (decimal n) =
      Nat.ofDigitChars 10 (Nat.toDigits 10 n) 0 := by
    simp only [digitsValue, decimal, digitValue, Nat.ofDigitChars_eq_foldl, Nat.mul_comm]
    rfl
  rw [sameFold, Nat.ofDigitChars_ten_toDigits]

theorem isDigit_of_mem_decimal
    {n : Nat}
    {c : Char}
    (present : c ∈ decimal n) :
    c.isDigit = true :=
  Nat.isDigit_of_mem_toDigits (by decide) (by decide) present

theorem not_mem_decimal
    {c : Char}
    (notDigit : c.isDigit = false)
    (n : Nat) :
    c ∉ decimal n :=
  fun present => Bool.false_ne_true (notDigit.symm.trans (isDigit_of_mem_decimal present))

theorem toList_natText (n : Nat) : (natText n).toList = decimal n := by
  rw [natText, String.toList_ofList]

theorem not_mem_natText
    {c : Char}
    (notDigit : c.isDigit = false)
    (n : Nat) :
    c ∉ (natText n).toList := by
  rw [toList_natText]
  exact not_mem_decimal notDigit n

theorem decimal_ne_nil (n : Nat) : decimal n ≠ [] :=
  Nat.toDigits_ne_nil

/-- The digits of a positive number do not start with a zero. -/
theorem head?_decimal_of_pos
    (n : Nat)
    (positive : 0 < n) :
    (decimal n).head? ≠ some '0' := by
  induction n using Nat.strongRecOn with
  | ind n inductionHypothesis =>
      rw [decimal, Nat.toDigits_eq_if (by decide)]
      split
      · next small =>
          have digits : ∀ digit < 10, 0 < digit ->
              [Nat.digitChar digit].head? ≠ some '0' := by
            decide
          exact digits n small positive
      · have leading := inductionHypothesis (n / 10) (by omega) (by omega)
        rw [decimal] at leading
        cases digits : Nat.toDigits 10 (n / 10) with
        | nil => exact absurd digits Nat.toDigits_ne_nil
        | cons first others =>
            rw [digits] at leading
            simpa using leading

/-- Digits that start with a zero are that zero. -/
theorem eq_nil_of_decimal_eq_zero_cons
    {n : Nat}
    {others : List Char}
    (starts : decimal n = '0' :: others) :
    others = [] := by
  rcases Nat.eq_zero_or_pos n with zero | positive
  · rw [zero, decimal, Nat.toDigits_zero] at starts
    exact (List.cons.inj starts).2.symm
  · exact absurd (by rw [starts]; rfl) (head?_decimal_of_pos n positive)

/-! ## The one decimal text of a number -/

/-- The text writes a number in decimal digits, without a zero in front of another
digit. -/
structure IsDecimalOf (n : Nat) (text : List Char) : Prop where
  nonempty : text ≠ []
  digits : ∀ c ∈ text, c.isDigit = true
  noLeadingZero : ∀ others, text = '0' :: others -> others = []
  value : digitsValue text = n

theorem isDecimalOf_decimal (n : Nat) : IsDecimalOf n (decimal n) where
  nonempty := decimal_ne_nil n
  digits _ present := isDigit_of_mem_decimal present
  noLeadingZero _ starts := eq_nil_of_decimal_eq_zero_cons starts
  value := digitsValue_decimal n

theorem digitsValue_concat (digits : List Char) (c : Char) :
    digitsValue (digits ++ [c]) = digitsValue digits * 10 + digitValue c := by
  rw [digitsValue, List.foldl_append]
  rfl

theorem digitChar_digitValue
    {c : Char}
    (isDigit : c.isDigit = true) :
    Nat.digitChar (digitValue c) = c := by
  obtain ⟨lower, _⟩ := Char.isDigit_iff_toNat.mp isDigit
  have zero : '0'.toNat = 48 := rfl
  apply Char.toNat_inj.mp
  rw [Nat.toNat_digitChar_of_lt_ten (digitValue_lt isDigit), digitValue]
  omega

/-- The digits in front of the last one write a number themselves. -/
theorem IsDecimalOf.dropLast
    {n : Nat}
    {front : List Char}
    {last : Char}
    (decimal : IsDecimalOf n (front ++ [last]))
    (nonempty : front ≠ []) :
    IsDecimalOf (digitsValue front) front where
  nonempty := nonempty
  digits c present := decimal.digits c (List.mem_append_left [last] present)
  noLeadingZero others starts := by
    have gone :=
      decimal.noLeadingZero (others ++ [last]) (by rw [starts, List.cons_append])
    exact absurd gone (by simp)
  value := rfl

/-- Digits without a zero in front of another digit are the digits of the number that
they stand for. -/
theorem IsDecimalOf.eq_decimal
    {n : Nat}
    {text : List Char}
    (isDecimal : IsDecimalOf n text) :
    text = decimal n := by
  rcases List.eq_nil_or_concat text with empty | ⟨front, last, split⟩
  · exact absurd empty isDecimal.nonempty
  rw [List.concat_eq_append] at split
  have lastDigit : last.isDigit = true := isDecimal.digits last (by simp [split])
  have small := digitValue_lt lastDigit
  have value : digitsValue front * 10 + digitValue last = n := by
    rw [← digitsValue_concat, ← split]
    exact isDecimal.value
  rw [decimal, Nat.toDigits_eq_if (by decide)]
  by_cases single : front = []
  · subst single
    have zero : digitsValue [] = 0 := rfl
    have same : digitValue last = n := by omega
    rw [if_pos (by omega), ← same, digitChar_digitValue lastDigit]
    exact split
  · have frontDecimal := (split ▸ isDecimal).dropLast single
    have frontDigits := frontDecimal.eq_decimal
    have positive : digitsValue front ≠ 0 := by
      intro zero
      rw [zero, decimal, Nat.toDigits_zero] at frontDigits
      have gone := isDecimal.noLeadingZero [last] (by rw [split, frontDigits]; rfl)
      exact absurd gone (by simp)
    have quotient : n / 10 = digitsValue front := by omega
    have remainder : n % 10 = digitValue last := by omega
    rw [if_neg (by omega), quotient, remainder, digitChar_digitValue lastDigit, ← decimal,
      ← frontDigits]
    exact split
termination_by text.length
decreasing_by simp [split]

/-- A number has one decimal text. -/
theorem isDecimalOf_iff
    {n : Nat}
    {text : List Char} :
    IsDecimalOf n text <-> text = decimal n := by
  refine ⟨IsDecimalOf.eq_decimal, ?_⟩
  rintro rfl
  exact isDecimalOf_decimal n

theorem decimal_injective
    {n m : Nat}
    (same : decimal n = decimal m) :
    n = m := by
  rw [← digitsValue_decimal n, same, digitsValue_decimal]

end Number
end FlemishDesk
