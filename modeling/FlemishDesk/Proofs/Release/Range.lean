import FlemishDesk.Proofs.Number.Digits
import FlemishDesk.Release.Moment

/-!
# The range of moments that can be read

A year has four digits, and an offset is less than a day.  So a moment that was read
lies between two bounds, and its seconds take at most twelve characters.
-/

namespace FlemishDesk

namespace Number

theorem length_intText_le
    {value : Int}
    (lower : -100000000000 < value)
    (upper : value < 1000000000000) :
    (intText value).length ≤ 12 := by
  cases value with
  | ofNat n =>
      have small : n < 1000000000000 := Int.ofNat_lt.mp upper
      rw [intText, natText, String.length_ofList, decimal,
        Nat.length_toDigits_le_iff (by decide) (by decide)]
      exact small
  | negSucc n =>
      have small : n + 1 < 100000000000 := by omega
      have digits : (decimal (n + 1)).length ≤ 11 := by
        rw [decimal, Nat.length_toDigits_le_iff (by decide) (by decide)]
        exact small
      have sign : "-".length = 1 := by decide
      rw [intText, natText, String.length_append, sign, String.length_ofList]
      omega

end Number

namespace Time

theorem fixed?_lt
    {count value : Nat}
    {text rest : List Char}
    (read : fixed? count text = some (value, rest)) :
    value < Nat.pow 10 count := by
  unfold fixed? at read
  dsimp only at read
  split at read
  · next isNumber =>
      obtain ⟨long, digits⟩ := Bool.and_eq_true_iff.mp isNumber
      obtain ⟨rfl, _⟩ := Prod.mk.inj (Option.some.inj read)
      have below := Number.digitsValue_lt digits
      rw [beq_iff_eq.mp long] at below
      exact below
  · nomatch read

theorem foldr_add_le
    {lengths : List Nat}
    (short : ∀ length ∈ lengths, length ≤ 31) :
    lengths.foldr (· + ·) 0 ≤ 31 * lengths.length := by
  induction lengths with
  | nil => exact Nat.le_refl 0
  | cons length lengths inductionHypothesis =>
      have first := short length List.mem_cons_self
      have others := inductionHypothesis fun other member =>
        short other (List.mem_cons_of_mem length member)
      rw [List.foldr_cons, List.length_cons]
      omega

theorem dayNumber?_lt
    {year month day days : Nat}
    (yearSmall : year < 10000)
    (read : dayNumber? year month day = some days) :
    days < 4000000 := by
  have short : ∀ length ∈ monthLengths year, length ≤ 31 := by
    unfold monthLengths
    split <;> decide
  unfold dayNumber? at read
  dsimp only at read
  split at read
  · next valid =>
      simp only [Bool.and_eq_true, decide_eq_true_eq] at valid
      have inMonth : (monthLengths year).getD (month - 1) 0 ≤ 31 := by
        rw [List.getD_eq_getElem?_getD]
        cases entry : (monthLengths year)[month - 1]? with
        | none => decide
        | some length => exact short length (List.mem_of_getElem? entry)
      have before := foldr_add_le fun length member =>
        short length (List.mem_of_mem_take (i := month - 1) member)
      have months : ((monthLengths year).take (month - 1)).length ≤ 11 := by
        rw [List.length_take]
        omega
      have years : daysBeforeYear year < 3660000 := by
        unfold daysBeforeYear
        omega
      obtain rfl := Option.some.inj read
      omega
  · nomatch read

end Time

namespace Release
namespace Moment

theorem offsetSize?_bounds
    {text rest : List Char}
    {size : Int}
    (read : offsetSize? text = some (size, rest)) :
    0 ≤ size ∧ size < 86400 := by
  unfold offsetSize? at read
  simp only [Option.bind_eq_bind, Option.bind_eq_some_iff] at read
  obtain ⟨⟨hours, _⟩, _, _, _, ⟨minutes, _⟩, _, within⟩ := read
  split at within
  · next small =>
      simp only [Bool.and_eq_true, decide_eq_true_eq] at small
      obtain ⟨rfl, _⟩ := Prod.mk.inj (Option.some.inj within)
      omega
  · nomatch within

theorem offset?_bounds
    {text rest : List Char}
    {offset : Int}
    (read : offset? text = some (offset, rest)) :
    -86400 < offset ∧ offset < 86400 := by
  unfold offset? at read
  split at read
  · split at read
    · cases read
      decide
    · split at read
      · have bounds := offsetSize?_bounds read
        omega
      · split at read
        · obtain ⟨⟨size, rest⟩, found, equal⟩ := Option.map_eq_some_iff.mp read
          have bounds := offsetSize?_bounds found
          cases equal
          dsimp only
          omega
        · nomatch read
  · nomatch read

theorem seconds_of_parse?
    {text : List Char}
    {moment : Moment}
    (read : parse? text = some moment) :
    -100000000000 < moment.seconds ∧ moment.seconds < 1000000000000 := by
  unfold parse? at read
  simp only [Option.bind_eq_bind, Option.bind_eq_some_iff] at read
  obtain ⟨⟨year, _⟩, yearRead, _, _, ⟨month, _⟩, _, _, _, ⟨day, _⟩, _, _, _,
    ⟨⟨hour, minute, second⟩, _⟩, _, ⟨nanoseconds, _⟩, _, ⟨offset, _⟩, offsetRead, days,
    dated, within⟩ := read
  have yearSmall : year < 10000 := Time.fixed?_lt yearRead
  have daysSmall := Time.dayNumber?_lt yearSmall dated
  have offsetSmall := offset?_bounds offsetRead
  split at within
  · next small =>
      simp only [Bool.and_eq_true, decide_eq_true_eq] at small
      obtain ⟨⟨⟨_, hourSmall⟩, minuteSmall⟩, secondSmall⟩ := small
      have ofMinute : (if second == 60 then 59 else second) ≤ 60 := by
        split <;> omega
      have epoch : Time.epochDays = 719528 := rfl
      obtain rfl := Option.some.inj within
      dsimp only
      omega
  · nomatch within

end Moment
end Release
end FlemishDesk
