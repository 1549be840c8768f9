import FlemishDesk.Proofs.Text.Lowercase
import FlemishDesk.Text.Cut

/-!
# What lowercasing sees of the surroundings

The lowercase form of a capital sigma depends on the nearest characters on both sides
that are not case-ignorable, and on these only by whether they are cased.  A blank is
neither cased nor case-ignorable, so nothing is seen across it, and pieces that are
joined by blanks are lowercased one by one.  The two cases of a Latin letter are both
cased, so writing any letters of a text small leaves its lowercase form as it is.
-/

namespace FlemishDesk
namespace Text

/-! ## Intervals -/

theorem inRanges_of_within
    {inner outer : List (Nat × Nat)}
    (within : (inner.all fun range => outer.any fun wide =>
      wide.1 ≤ range.1 && range.2 ≤ wide.2) = true)
    {code : Nat}
    (inside : inRanges inner code = true) :
    inRanges outer code = true := by
  obtain ⟨range, present, holds⟩ := List.any_eq_true.mp inside
  obtain ⟨wide, widePresent, wider⟩ :=
    List.any_eq_true.mp (List.all_eq_true.mp within range present)
  refine List.any_eq_true.mpr ⟨wide, widePresent, ?_⟩
  simp only [Bool.and_eq_true, decide_eq_true_eq] at holds wider ⊢
  omega

theorem not_inRanges_of_apart
    {inner outer : List (Nat × Nat)}
    (apart : (inner.all fun range => outer.all fun other =>
      other.2 < range.1 || range.2 < other.1) = true)
    {code : Nat}
    (inside : inRanges inner code = true) :
    inRanges outer code = false := by
  obtain ⟨range, present, holds⟩ := List.any_eq_true.mp inside
  refine List.any_eq_false.mpr fun other otherPresent held => ?_
  have beside :=
    List.all_eq_true.mp (List.all_eq_true.mp apart range present) other otherPresent
  simp only [Bool.and_eq_true, decide_eq_true_eq] at holds held
  simp only [Bool.or_eq_true, decide_eq_true_eq] at beside
  omega

/-! ## The nearest character that counts -/

theorem startsCased_cons (c : Char) (text : List Char) :
    startsCased (c :: text) =
      if isCaseIgnorable c then startsCased text else isCased c := by
  cases ignorable : isCaseIgnorable c <;> simp [startsCased, ignorable]

/-- Nothing is seen across a character that is neither cased nor case-ignorable. -/
theorem startsCased_append_cons
    {c : Char}
    (uncased : isCased c = false)
    (counts : isCaseIgnorable c = false)
    (text rest : List Char) :
    startsCased (text ++ c :: rest) = startsCased text := by
  induction text with
  | nil => rw [List.nil_append, startsCased_cons, counts, uncased]; rfl
  | cons d text inductionHypothesis =>
      rw [List.cons_append, startsCased_cons, startsCased_cons, inductionHypothesis]

section Barrier

variable {c : Char}
  (uncased : isCased c = false)
  (counts : isCaseIgnorable c = false)

include uncased counts

/-- What stands in front of the barrier does not matter behind it. -/
theorem lowerAfter_behind (near far text : List Char) :
    lowerAfter (near ++ c :: far) text = lowerAfter near text := by
  induction text generalizing near with
  | nil => rfl
  | cons d text inductionHypothesis =>
      have rest : lowerAfter (d :: (near ++ c :: far)) text =
          lowerAfter (d :: near) text :=
        inductionHypothesis (d :: near)
      rw [lowerAfter, lowerAfter, rest, sigmaEndsWord, sigmaEndsWord,
        startsCased_append_cons uncased counts]

/-- What stands behind the barrier does not matter in front of it. -/
theorem lowerAfter_append_barrier (before left right : List Char) :
    lowerAfter before (left ++ c :: right) =
      lowerAfter before left ++ lowerAfter (left.reverse ++ before) (c :: right) := by
  induction left generalizing before with
  | nil => rfl
  | cons d left inductionHypothesis =>
      rw [List.cons_append, lowerAfter, lowerAfter, inductionHypothesis (d :: before),
        sigmaEndsWord, sigmaEndsWord, startsCased_append_cons uncased counts,
        List.reverse_cons, List.append_assoc, List.append_assoc, List.singleton_append]

end Barrier

theorem not_isCased_space : isCased ' ' = false := by
  decide

theorem not_isCaseIgnorable_space : isCaseIgnorable ' ' = false := by
  decide +kernel

/-- The two sides of a space are lowercased one by one. -/
theorem lower_append_space (left right : List Char) :
    lower (left ++ ' ' :: right) = lower left ++ ' ' :: lower right := by
  have space : lowerSingle ' ' = ' ' := by
    rw [lowerSingle_of_latin (by decide)]
    rfl
  have behind : lowerAfter (' ' :: left.reverse) right = lower right :=
    lowerAfter_behind not_isCased_space not_isCaseIgnorable_space [] left.reverse right
  rw [lower, lowerAfter_append_barrier not_isCased_space not_isCaseIgnorable_space,
    List.append_nil, lowerAfter_cons_of_latin (by decide), space, behind]
  rfl

/-- Pieces that are joined by spaces are lowercased one by one. -/
theorem lower_joinWith_space (pieces : List (List Char)) :
    lower (joinWith [' '] pieces) = joinWith [' '] (pieces.map lower) := by
  induction pieces with
  | nil => rfl
  | cons piece others inductionHypothesis =>
      cases others with
      | nil => rfl
      | cons next others =>
          rw [joinWith_cons_cons, List.append_assoc, List.singleton_append,
            lower_append_space, inductionHypothesis, List.map_cons, List.map_cons,
            List.map_cons, joinWith_cons_cons, List.append_assoc, List.singleton_append]

/-! ## Letters with two cases -/

/-- The letters of Latin-1 that have two cases in Latin-1. -/
def latinLetterRanges : List (Nat × Nat) :=
  [(0x41, 0x5A), (0x61, 0x7A), (0xC0, 0xD6), (0xD8, 0xDE), (0xE0, 0xF6), (0xF8, 0xFE)]

/-- A letter of Latin-1 that has two cases in Latin-1. -/
def isLatinLetter (c : Char) : Bool :=
  inRanges latinLetterRanges c.toNat

/-- The small letter of a Latin capital; any other character stands for itself. -/
def smallForm (c : Char) : Char :=
  if isLatinCapital c then Char.ofNat (c.toNat + 32) else c

theorem isCased_of_isLatinLetter {c : Char} (letter : isLatinLetter c = true) :
    isCased c = true :=
  inRanges_of_within (by decide) letter

theorem not_isCaseIgnorable_of_isLatinLetter
    {c : Char}
    (letter : isLatinLetter c = true) :
    isCaseIgnorable c = false :=
  not_inRanges_of_apart (by decide +kernel) letter

theorem not_isBlank_of_isLatinLetter {c : Char} (letter : isLatinLetter c = true) :
    isBlank c = false :=
  not_inRanges_of_apart (by decide) letter

theorem toNat_smallForm_of_capital {c : Char} (capital : isLatinCapital c = true) :
    (smallForm c).toNat = c.toNat + 32 := by
  have bounds := (isLatinCapital_iff c).mp capital
  have valid : (c.toNat + 32).isValidChar := .inl (by omega)
  rw [smallForm, if_pos capital, Char.ofNat, dif_pos valid]
  rfl

theorem isLatinLetter_of_capital {c : Char} (capital : isLatinCapital c = true) :
    isLatinLetter c = true :=
  inRanges_of_within (by decide) capital

theorem isLatinLetter_smallForm_of_capital
    {c : Char}
    (capital : isLatinCapital c = true) :
    isLatinLetter (smallForm c) = true := by
  have bounds := (isLatinCapital_iff c).mp capital
  simp only [isLatinLetter, toNat_smallForm_of_capital capital, inRanges,
    latinLetterRanges, List.any_cons, List.any_nil, Bool.or_false, Bool.or_eq_true,
    Bool.and_eq_true, decide_eq_true_eq]
  omega

/-- What holds of all Latin letters, or of none, does not depend on their case. -/
theorem apply_smallForm
    {property : Char -> Bool}
    {value : Bool}
    (common : ∀ c, isLatinLetter c = true -> property c = value)
    (c : Char) :
    property (smallForm c) = property c := by
  cases capital : isLatinCapital c with
  | false => rw [smallForm, capital]; rfl
  | true =>
      rw [common c (isLatinLetter_of_capital capital),
        common (smallForm c) (isLatinLetter_smallForm_of_capital capital)]

theorem isCased_smallForm (c : Char) : isCased (smallForm c) = isCased c :=
  apply_smallForm (fun _ => isCased_of_isLatinLetter) c

theorem isCaseIgnorable_smallForm (c : Char) :
    isCaseIgnorable (smallForm c) = isCaseIgnorable c :=
  apply_smallForm (fun _ => not_isCaseIgnorable_of_isLatinLetter) c

theorem isBlank_smallForm (c : Char) : isBlank (smallForm c) = isBlank c :=
  apply_smallForm (fun _ => not_isBlank_of_isLatinLetter) c

/-- A character that is no Latin letter is written small only by itself. -/
theorem smallForm_eq_iff
    {mark : Char}
    (noLetter : isLatinLetter mark = false)
    (c : Char) :
    mark = smallForm c <-> mark = c := by
  cases capital : isLatinCapital c with
  | false => rw [smallForm, capital]; rfl
  | true =>
      refine iff_of_false ?_ ?_
      · rintro rfl
        exact absurd (isLatinLetter_smallForm_of_capital capital) (by simp [noLetter])
      · rintro rfl
        exact absurd (isLatinLetter_of_capital capital) (by simp [noLetter])

theorem lowerSingle_smallForm_of_capital {c : Char} (capital : isLatinCapital c = true) :
    lowerSingle (smallForm c) = lowerSingle c := by
  have bounds := (isLatinCapital_iff c).mp capital
  have behind := toNat_smallForm_of_capital capital
  have notCapital : ¬ isLatinCapital (smallForm c) = true := by
    rw [isLatinCapital_iff, behind]
    omega
  rw [lowerSingle_of_latin (by omega), if_neg notCapital, lowerSingle_of_latin (by omega),
    if_pos capital, smallForm, if_pos capital]

theorem startsCased_map_smallForm (text : List Char) :
    startsCased (text.map smallForm) = startsCased text := by
  induction text with
  | nil => rfl
  | cons c text inductionHypothesis =>
      rw [List.map_cons, startsCased_cons, startsCased_cons, isCaseIgnorable_smallForm,
        isCased_smallForm, inductionHypothesis]

theorem lowerAfter_map_smallForm (before text : List Char) :
    lowerAfter (before.map smallForm) (text.map smallForm) = lowerAfter before text := by
  induction text generalizing before with
  | nil => rfl
  | cons c text inductionHypothesis =>
      have rest : lowerAfter (smallForm c :: before.map smallForm) (text.map smallForm) =
          lowerAfter (c :: before) text := inductionHypothesis (c :: before)
      cases capital : isLatinCapital c with
      | true =>
          have bounds := (isLatinCapital_iff c).mp capital
          have behind := toNat_smallForm_of_capital capital
          rw [List.map_cons, lowerAfter_cons_of_latin (by omega),
            lowerAfter_cons_of_latin (by omega), lowerSingle_smallForm_of_capital capital,
            rest]
      | false =>
          have same : smallForm c = c := by rw [smallForm, capital]; rfl
          rw [same] at rest
          rw [List.map_cons, same, lowerAfter, lowerAfter, rest, sigmaEndsWord,
            sigmaEndsWord, startsCased_map_smallForm, startsCased_map_smallForm]

/-- Writing the letters of a text small does not change its lowercase form. -/
theorem lower_map_smallForm (text : List Char) :
    lower (text.map smallForm) = lower text :=
  lowerAfter_map_smallForm [] text

end Text
end FlemishDesk
