import FlemishDesk.Text.Lowercase
import Mathlib.Data.List.Forall2

/-!
# Lowercase forms of Latin letters

Lowercasing looks at the surroundings of a capital sigma only, and it changes the number
of characters only at a capital I with a dot.  So the lowercase form of a phrase of
Latin letters stands unbroken in the lowercase form of any text around it, in whatever
case its letters are.
-/

namespace FlemishDesk
namespace Text

/-- The capitals from A to Z and the accented capitals of Latin-1. -/
def latinCapitalRanges : List (Nat × Nat) :=
  [(0x41, 0x5A), (0xC0, 0xD6), (0xD8, 0xDE)]

/-- A capital from A to Z, or an accented capital of Latin-1. -/
def isLatinCapital (c : Char) : Bool :=
  inRanges latinCapitalRanges c.toNat

/-- The character is the letter or its capital. -/
def CaseOf (letter c : Char) : Prop :=
  c = letter ∨ isLatinCapital c = true ∧ letter.toNat = c.toNat + 32

instance : DecidableRel CaseOf := fun letter c =>
  inferInstanceAs
    (Decidable (c = letter ∨ isLatinCapital c = true ∧ letter.toNat = c.toNat + 32))

/-- The text is the phrase, with any of its letters in capitals. -/
def CaseVariant (phrase text : List Char) : Prop :=
  List.Forall₂ CaseOf phrase text

instance : DecidableRel CaseVariant := fun phrase text =>
  inferInstanceAs (Decidable (List.Forall₂ CaseOf phrase text))

/-- A small character of Latin-1: it has no lowercase form besides itself. -/
def isLatinSmall (c : Char) : Bool :=
  c.toNat < 0x100 && !isLatinCapital c

/-! ## Single characters -/

theorem isLatinCapital_iff (c : Char) :
    isLatinCapital c = true <->
      (0x41 ≤ c.toNat ∧ c.toNat ≤ 0x5A) ∨ (0xC0 ≤ c.toNat ∧ c.toNat ≤ 0xD6) ∨
        (0xD8 ≤ c.toNat ∧ c.toNat ≤ 0xDE) := by
  simp [isLatinCapital, inRanges, latinCapitalRanges]

/-- All but the first three runs lie behind Latin-1. -/
theorem find?_lowercaseRuns_of_latin
    {code : Nat}
    (latin : code < 0x100) :
    lowercaseRuns.find? (·.holds code) = (lowercaseRuns.take 3).find? (·.holds code) := by
  have behind :
      (lowercaseRuns.drop 3).all (fun run => 0x100 ≤ run.first) = true := by decide
  have unheld : (lowercaseRuns.drop 3).find? (·.holds code) = none := by
    rw [List.find?_eq_none]
    intro run present holds
    have first := List.all_eq_true.mp behind run present
    simp only [decide_eq_true_eq] at first
    simp only [CaseRun.holds, Bool.and_eq_true, decide_eq_true_eq] at holds
    omega
  rw [← List.take_append_drop 3 lowercaseRuns, List.find?_append, unheld, Option.or_none]
  rfl

/-- In Latin-1 the lowercase form of a capital lies thirty-two places behind it, and any
other character is its own lowercase form. -/
theorem lowerSingle_of_latin
    {c : Char}
    (latin : c.toNat < 0x100) :
    lowerSingle c = if isLatinCapital c then Char.ofNat (c.toNat + 32) else c := by
  have first : lowercaseRuns.take 3 =
      [⟨0x41, 0x5A, 1, 32⟩, ⟨0xC0, 0xD6, 1, 32⟩, ⟨0xD8, 0xDE, 1, 32⟩] := rfl
  unfold lowerSingle
  rw [find?_lowercaseRuns_of_latin latin, first]
  split
  · next run found =>
      have member := List.mem_of_find?_eq_some found
      have holds := List.find?_some found
      simp only [List.mem_cons, List.not_mem_nil, or_false] at member
      simp only [CaseRun.holds, Bool.and_eq_true, decide_eq_true_eq] at holds
      have capital : isLatinCapital c = true := by
        rw [isLatinCapital_iff]
        rcases member with rfl | rfl | rfl <;> simp only at holds <;> omega
      have shift : run.shift = 32 := by
        rcases member with rfl | rfl | rfl <;> rfl
      rw [if_pos capital, shift]
      rfl
  · next missing =>
      have small : ¬ isLatinCapital c = true := by
        rw [isLatinCapital_iff]
        simp only [List.find?_eq_none, List.mem_cons, List.not_mem_nil, or_false,
          forall_eq_or_imp, forall_eq, CaseRun.holds, Nat.mod_one, beq_self_eq_true,
          and_true, Bool.and_eq_true, decide_eq_true_eq] at missing
        omega
      rw [if_neg small]

/-- Both cases of a small letter have it as their lowercase form. -/
theorem lowerSingle_of_caseOf
    {letter c : Char}
    (small : isLatinSmall letter = true)
    (caseOf : CaseOf letter c) :
    lowerSingle c = letter := by
  simp only [isLatinSmall, Bool.and_eq_true, decide_eq_true_eq,
    Bool.not_eq_true'] at small
  rcases caseOf with rfl | ⟨capital, behind⟩
  · rw [lowerSingle_of_latin small.1, small.2, if_neg (by simp)]
  · have latin : c.toNat < 0x100 := by
      have bounds := (isLatinCapital_iff c).mp capital
      omega
    rw [lowerSingle_of_latin latin, capital, if_pos rfl, ← behind, Char.ofNat_toNat]

/-- Both cases of a small letter lie in Latin-1. -/
theorem latin_of_caseOf
    {letter c : Char}
    (small : isLatinSmall letter = true)
    (caseOf : CaseOf letter c) :
    c.toNat < 0x100 := by
  simp only [isLatinSmall, Bool.and_eq_true, decide_eq_true_eq] at small
  rcases caseOf with rfl | ⟨_, behind⟩ <;> omega

/-- A capital is not blank. -/
theorem not_isBlank_of_caseOf
    {letter c : Char}
    (notBlank : isBlank letter = false)
    (caseOf : CaseOf letter c) :
    isBlank c = false := by
  rcases caseOf with rfl | ⟨capital, _⟩
  · exact notBlank
  · have bounds := (isLatinCapital_iff c).mp capital
    simp [isBlank, inRanges, blankRanges]
    omega

/-- No character of Latin-1 depends on its surroundings or has a longer lowercase
form. -/
theorem lowerAfter_cons_of_latin
    {c : Char}
    (latin : c.toNat < 0x100)
    (before rest : List Char) :
    lowerAfter before (c :: rest) = lowerSingle c :: lowerAfter (c :: before) rest := by
  have notSigma : c ≠ capitalSigma := by
    rintro rfl
    exact absurd latin (by decide)
  have notDotted : c ≠ dottedCapitalI := by
    rintro rfl
    exact absurd latin (by decide)
  rw [lowerAfter, lowerChar, if_neg notSigma, if_neg notDotted]
  rfl

/-! ## Phrases inside a text -/

/-- The lowercase form of a text ends with that of its end, which knows what stands
before. -/
theorem exists_lowerAfter_append
    (before text rest : List Char) :
    ∃ lowered, lowerAfter before (text ++ rest) =
      lowered ++ lowerAfter (text.reverse ++ before) rest := by
  induction text generalizing before with
  | nil => exact ⟨[], rfl⟩
  | cons c text inductionHypothesis =>
      obtain ⟨lowered, same⟩ := inductionHypothesis (c :: before)
      rw [List.cons_append, lowerAfter, same, List.reverse_cons, List.append_assoc,
        List.singleton_append, ← List.append_assoc]
      exact ⟨_, rfl⟩

/-- A variant of a phrase in small letters starts a lowercase form with the phrase. -/
theorem lowerAfter_append_of_caseVariant
    {phrase text : List Char}
    (small : ∀ letter ∈ phrase, isLatinSmall letter = true)
    (variant : CaseVariant phrase text)
    (before rest : List Char) :
    lowerAfter before (text ++ rest) = phrase ++
      lowerAfter (text.reverse ++ before) rest := by
  induction variant generalizing before with
  | nil => rfl
  | @cons letter c phrase text caseOf _ inductionHypothesis =>
      obtain ⟨smallLetter, smallRest⟩ := List.forall_mem_cons.mp small
      rw [List.cons_append, lowerAfter_cons_of_latin (latin_of_caseOf smallLetter caseOf),
        lowerSingle_of_caseOf smallLetter caseOf, inductionHypothesis smallRest,
        List.reverse_cons, List.append_assoc, List.singleton_append, List.cons_append]

/-- A text in small letters is its own lowercase form. -/
theorem lower_of_isLatinSmall
    {text : List Char}
    (small : ∀ letter ∈ text, isLatinSmall letter = true) :
    lower text = text := by
  have variant : CaseVariant text text := List.forall₂_same.mpr fun _ _ => .inl rfl
  have lowered := lowerAfter_append_of_caseVariant small variant [] []
  rwa [List.append_nil, lowerAfter_nil, List.append_nil] at lowered

/-- A phrase in small letters stands in the lowercase form of every text that holds one
of its variants, whatever surrounds it. -/
theorem infix_lower_of_caseVariant
    {phrase text : List Char}
    (small : ∀ letter ∈ phrase, isLatinSmall letter = true)
    (variant : CaseVariant phrase text)
    (before after : List Char) :
    phrase <:+: lower (before ++ text ++ after) := by
  obtain ⟨lowered, same⟩ := exists_lowerAfter_append [] before (text ++ after)
  rw [lower, List.append_assoc, same, lowerAfter_append_of_caseVariant small variant,
    ← List.append_assoc]
  exact List.infix_append _ _ _

end Text
end FlemishDesk
