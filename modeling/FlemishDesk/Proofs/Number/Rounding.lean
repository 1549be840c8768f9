import FlemishDesk.Number.Duration
import Mathlib.Tactic.Ring

/-!
# Rounded seconds

A quotient is rounded past a number exactly when it lies beyond the middle between that
number and the next, or on the middle in front of an even number.  The nearest double of
a number of seconds is turned into a duration unless the double takes more than
sixty-four bits, which happens from the middle between the last two doubles below that
bound on.
-/

namespace FlemishDesk
namespace Number
namespace Binary64

/-- A quotient is rounded past `k` when it lies beyond the middle behind `k`; on the
middle the even neighbour wins. -/
theorem lt_roundedQuotient_iff
    {numerator denominator : Nat}
    (positive : 0 < denominator)
    (k : Nat) :
    k < roundedQuotient numerator denominator <->
      (2 * k + 1) * denominator < 2 * numerator ∨
        (2 * k + 1) * denominator = 2 * numerator ∧ k % 2 = 1 := by
  have division := Nat.div_add_mod' numerator denominator
  have remainder := Nat.mod_lt numerator positive
  have middle : (2 * k + 1) * denominator = 2 * (k * denominator) + denominator := by ring
  simp only [roundedQuotient, Bool.or_eq_true, Bool.and_eq_true, decide_eq_true_eq,
    beq_iff_eq, gt_iff_lt]
  rw [middle]
  rcases Nat.lt_trichotomy k (numerator / denominator) with below | rfl | above
  · have step := Nat.mul_le_mul_right denominator (Nat.succ_le_of_lt below)
    rw [Nat.succ_mul] at step
    split <;> omega
  · split <;> omega
  · have step := Nat.mul_le_mul_right denominator (Nat.succ_le_of_lt above)
    rw [Nat.succ_mul] at step
    split <;> omega

theorem le_roundedQuotient
    {numerator denominator k : Nat}
    (positive : 0 < denominator)
    (least : k * denominator ≤ numerator) :
    k ≤ roundedQuotient numerator denominator := by
  cases k with
  | zero => exact Nat.zero_le _
  | succ k =>
      refine (lt_roundedQuotient_iff positive k).mpr (.inl ?_)
      have expanded :
          (2 * k + 1) * denominator + denominator = 2 * ((k + 1) * denominator) := by
        ring
      omega

theorem roundedQuotient_le
    {numerator denominator k : Nat}
    (positive : 0 < denominator)
    (greatest : numerator ≤ k * denominator) :
    roundedQuotient numerator denominator ≤ k := by
  refine Nat.le_of_not_lt ?_
  rw [lt_roundedQuotient_iff positive]
  have expanded :
      (2 * k + 1) * denominator = 2 * (k * denominator) + denominator := by ring
  omega

/-! ## Nearest doubles -/

/-- The power of two in the quotient, times the denominator. -/
theorem log2_quotient_bounds
    {numerator denominator : Nat}
    (positive : 0 < denominator)
    (one : denominator ≤ numerator) :
    denominator * Nat.pow 2 (Nat.log2 (numerator / denominator)) ≤ numerator ∧
      numerator < 2 * (denominator * Nat.pow 2 (Nat.log2 (numerator / denominator))) := by
  have nonzero : numerator / denominator ≠ 0 := (Nat.div_pos one positive).ne'
  have low := Nat.log2_self_le nonzero
  have high := Nat.lt_log2_self (n := numerator / denominator)
  rw [Nat.pow_eq]
  generalize Nat.log2 (numerator / denominator) = scale at low high ⊢
  rw [Nat.le_div_iff_mul_le positive] at low
  rw [Nat.div_lt_iff_lt_mul positive, Nat.pow_succ] at high
  constructor
  · rwa [Nat.mul_comm]
  · calc
      numerator < 2 ^ scale * 2 * denominator := high
      _ = 2 * (denominator * 2 ^ scale) := by ring

/-- What the nearest double of a quotient of at least one is: the quotient lies between
a power of two and the next, and is rounded to fifty-two places below it. -/
structure Rounds (numerator denominator : Nat) (value : Finite) : Prop where
  low : denominator * 2 ^ value.scale ≤ numerator
  high : numerator < 2 * (denominator * 2 ^ value.scale)
  significand : value.significand =
    roundedQuotient (numerator * 2 ^ 52) (denominator * 2 ^ value.scale)

section Rounds

variable {numerator denominator : Nat} {value : Finite}

theorem rounds_of_nearest?
    (positive : 0 < denominator)
    (one : denominator ≤ numerator)
    (nearest : nearest? numerator denominator = some value) :
    Rounds numerator denominator value := by
  obtain ⟨low, high⟩ := log2_quotient_bounds positive one
  unfold nearest? at nearest
  split at nearest
  · exact absurd nearest.symm (Option.some_ne_none value)
  · rw [← Option.some.inj nearest]
    exact ⟨low, high, rfl⟩

theorem Rounds.unit_pos
    (positive : 0 < denominator)
    (value : Finite) :
    0 < denominator * 2 ^ value.scale :=
  Nat.mul_pos positive (Nat.two_pow_pos _)

/-- The nearest double has fifty-three bits, or is the next power of two. -/
theorem Rounds.significand_bounds
    (rounds : Rounds numerator denominator value)
    (positive : 0 < denominator) :
    2 ^ 52 ≤ value.significand ∧ value.significand ≤ 2 ^ 53 := by
  have low := rounds.low
  have high := rounds.high
  have unit := Rounds.unit_pos positive value
  rw [rounds.significand]
  constructor
  · exact le_roundedQuotient unit (by omega)
  · exact roundedQuotient_le unit (by omega)

/-- A double of at least some number of seconds lasts at least as long. -/
theorem le_seconds
    {seconds : Nat}
    (least : seconds * 2 ^ 52 ≤ value.significand * 2 ^ value.scale) :
    seconds ≤ value.timesRounded Duration.second / Duration.second := by
  have factor : 0 < Duration.second := by decide
  rw [Nat.le_div_iff_mul_le factor]
  apply le_roundedQuotient (by decide)
  have scaled := Nat.mul_le_mul_right Duration.second least
  rwa [Nat.mul_right_comm] at scaled

/-- A double of at most some number of seconds lasts at most as long. -/
theorem seconds_le
    {seconds : Nat}
    (greatest : value.significand * 2 ^ value.scale ≤ seconds * 2 ^ 52) :
    value.timesRounded Duration.second / Duration.second ≤ seconds := by
  have factor : 0 < Duration.second := by decide
  apply Nat.div_le_of_le_mul
  rw [Nat.mul_comm]
  apply roundedQuotient_le (by decide)
  have scaled := Nat.mul_le_mul_right Duration.second greatest
  rwa [Nat.mul_right_comm seconds] at scaled

/-- From the middle between the last double below sixty-four bits and the next one on,
the seconds take more than sixty-four bits. -/
theorem Rounds.wordBound_le_iff
    (rounds : Rounds numerator denominator value)
    (positive : 0 < denominator) :
    wordBound ≤ value.timesRounded Duration.second / Duration.second <->
      (wordBound - 1024) * denominator ≤ numerator := by
  have bound : wordBound = 2 ^ 64 := rfl
  obtain ⟨least, greatest⟩ := rounds.significand_bounds positive
  have low := rounds.low
  have high := rounds.high
  rw [bound]
  rcases Nat.lt_trichotomy value.scale 63 with small | equal | large
  · have power : 2 ^ value.scale ≤ 2 ^ 62 := Nat.pow_le_pow_right (by decide) (by omega)
    have product : value.significand * 2 ^ value.scale ≤ 2 ^ 53 * 2 ^ 62 :=
      Nat.mul_le_mul greatest power
    have unit : denominator * 2 ^ value.scale ≤ denominator * 2 ^ 62 :=
      Nat.mul_le_mul_left denominator power
    have short : value.timesRounded Duration.second / Duration.second ≤ 2 ^ 63 :=
      seconds_le (by omega)
    omega
  · -- Here the seconds are a multiple of `2 ^ 11`, and the question is whether the
    -- significand was rounded up to the next power of two.
    have seconds : value.timesRounded Duration.second / Duration.second =
        value.significand * 2 ^ 11 := by
      apply Nat.le_antisymm
      · exact seconds_le (by rw [equal]; omega)
      · exact le_seconds (by rw [equal]; omega)
    have roundedUp : 2 ^ 53 - 1 < value.significand <->
        (2 * (2 ^ 53 - 1) + 1) * (denominator * 2 ^ value.scale) <
          2 * (numerator * 2 ^ 52) ∨ (2 * (2 ^ 53 - 1) + 1) *
          (denominator * 2 ^ value.scale) = 2 * (numerator * 2 ^ 52) ∧
            (2 ^ 53 - 1) % 2 = 1 := by
      rw [rounds.significand]
      exact lt_roundedQuotient_iff (Rounds.unit_pos positive value) _
    rw [equal] at roundedUp
    rw [seconds]
    omega
  · have power : 2 ^ 64 ≤ 2 ^ value.scale := Nat.pow_le_pow_right (by decide) (by omega)
    have product : 2 ^ 64 * 2 ^ 52 ≤ value.significand * 2 ^ value.scale := by
      rw [Nat.mul_comm]
      exact Nat.mul_le_mul least power
    have unit : denominator * 2 ^ 64 ≤ denominator * 2 ^ value.scale :=
      Nat.mul_le_mul_left denominator power
    have long := le_seconds product
    omega

/-- The nearest double of a quotient is too long for a duration exactly from the middle
between the last double below sixty-four bits and the next one on. -/
theorem Rounds.ofSeconds?_eq_none_iff
    (rounds : Rounds numerator denominator value)
    (positive : 0 < denominator) :
    Duration.ofSeconds? value = none <->
      (wordBound - 1024) * denominator ≤ numerator := by
  rw [← rounds.wordBound_le_iff positive]
  dsimp only [Duration.ofSeconds?]
  split
  · next fits => exact iff_of_false (Option.some_ne_none _) (Nat.not_le.mpr fits)
  · next long => exact iff_of_true rfl (Nat.not_lt.mp long)

/-- The nearest double of a quotient of at least one lasts at least a second. -/
theorem Rounds.one_le_seconds
    (rounds : Rounds numerator denominator value)
    (positive : 0 < denominator)
    {duration : Duration}
    (made : Duration.ofSeconds? value = some duration) :
    1 ≤ duration.seconds := by
  dsimp only [Duration.ofSeconds?] at made
  split at made
  · rw [← Option.some.inj made]
    apply le_seconds
    rw [Nat.mul_comm]
    exact Nat.mul_le_mul (rounds.significand_bounds positive).1 Nat.one_le_two_pow
  · exact absurd made.symm (Option.some_ne_none duration)

end Rounds

end Binary64
end Number
end FlemishDesk
