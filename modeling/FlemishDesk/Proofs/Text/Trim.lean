import FlemishDesk.Text.Blank
import Mathlib.Data.List.TakeWhile

/-!
# Trimmed texts

A text has one core: what is left between the blank characters at its ends and neither
begins nor ends with one.  Trimming finds it.  Since only the ends matter, a text that
is cut at a character which is not blank has the same core whether it is trimmed before
the cut or not.
-/

namespace FlemishDesk
namespace Text

/-- A text is blank characters around its core, which neither begins nor ends with
one. -/
structure Trims (text core : List Char) : Prop where
  surrounded : ∃ front back, text = front ++ core ++ back ∧
    (∀ c ∈ front, isBlank c = true) ∧ ∀ c ∈ back, isBlank c = true
  begins : ∀ c ∈ core.head?, isBlank c = false
  ends : ∀ c ∈ core.getLast?, isBlank c = false

variable {text core : List Char}

theorem dropWhile_isBlank_of_head
    (begins : ∀ c ∈ text.head?, isBlank c = false) :
    text.dropWhile isBlank = text := by
  cases text with
  | nil => rfl
  | cons c rest => exact List.dropWhile_cons_of_neg (by simp [begins c rfl])

/-- Blank characters at the end are dropped. -/
theorem trimEnd_append
    {back : List Char}
    (blank : ∀ c ∈ back, isBlank c = true)
    (ends : ∀ c ∈ core.getLast?, isBlank c = false) :
    trimEnd (core ++ back) = core := by
  rw [trimEnd, List.reverse_append,
    List.dropWhile_append_of_pos fun c present => blank c (List.mem_reverse.mp present),
    dropWhile_isBlank_of_head (by rwa [List.head?_reverse]), List.reverse_reverse]

/-- Trimming finds the core. -/
theorem Trims.trim_eq
    (trims : Trims text core) :
    trim text = core := by
  obtain ⟨⟨front, back, rfl, blankFront, blankBack⟩, begins, ends⟩ := trims
  rw [trim, trimStart, List.append_assoc, List.dropWhile_append_of_pos blankFront]
  cases core with
  | nil =>
      rw [List.nil_append, List.dropWhile_eq_nil_iff.mpr blankBack]
      rfl
  | cons c core =>
      rw [dropWhile_isBlank_of_head (by simpa using begins),
        trimEnd_append blankBack ends]

theorem not_isBlank_head_dropWhile (text : List Char) :
    ∀ c ∈ (text.dropWhile isBlank).head?, isBlank c = false := by
  intro c isHead
  have stops := List.head?_dropWhile_not isBlank text
  rwa [isHead] at stops

theorem exists_eq_append_trimEnd (text : List Char) :
    ∃ back, text = trimEnd text ++ back ∧ ∀ c ∈ back, isBlank c = true := by
  refine ⟨(text.reverse.takeWhile isBlank).reverse, ?_, fun c present => ?_⟩
  · rw [trimEnd, ← List.reverse_append, List.takeWhile_append_dropWhile,
      List.reverse_reverse]
  · exact List.all_eq_true.mp List.all_takeWhile c (List.mem_reverse.mp present)

theorem trims_trim (text : List Char) : Trims text (trim text) where
  surrounded := by
    obtain ⟨back, split, blank⟩ := exists_eq_append_trimEnd (trimStart text)
    refine ⟨text.takeWhile isBlank, back, ?_, List.all_eq_true.mp List.all_takeWhile,
      blank⟩
    rw [List.append_assoc, trim, ← split, trimStart, List.takeWhile_append_dropWhile]
  begins c isHead := by
    obtain ⟨back, split, _⟩ := exists_eq_append_trimEnd (trimStart text)
    refine not_isBlank_head_dropWhile text c ?_
    rw [← trimStart, split, Option.mem_def, List.head?_append, ← trim, isHead,
      Option.some_or]
  ends c isLast := by
    refine not_isBlank_head_dropWhile (trimStart text).reverse c ?_
    rwa [trim, trimEnd, List.getLast?_reverse] at isLast

/-- A text has one core. -/
theorem trims_iff : Trims text core <-> trim text = core := by
  refine ⟨Trims.trim_eq, ?_⟩
  rintro rfl
  exact trims_trim text

theorem trim_eq_nil_iff : trim text = [] <-> ∀ c ∈ text, isBlank c = true := by
  rw [← trims_iff]
  constructor
  · rintro ⟨⟨front, back, rfl, blankFront, blankBack⟩, _, _⟩ c present
    rw [List.append_nil] at present
    exact (List.mem_append.mp present).elim (blankFront c) (blankBack c)
  · intro blank
    exact ⟨⟨text, [], by simp, blank, by simp⟩, by simp, by simp⟩

/-- More blank characters around a text leave its core as it is. -/
theorem Trims.surround
    (trims : Trims text core)
    {front back : List Char}
    (blankFront : ∀ c ∈ front, isBlank c = true)
    (blankBack : ∀ c ∈ back, isBlank c = true) :
    Trims (front ++ text ++ back) core := by
  obtain ⟨⟨start, ending, rfl, blankStart, blankEnding⟩, begins, ends⟩ := trims
  refine ⟨⟨front ++ start, ending ++ back, by simp, ?_, ?_⟩, begins, ends⟩
  · exact List.forall_mem_append.mpr ⟨blankFront, blankStart⟩
  · exact List.forall_mem_append.mpr ⟨blankEnding, blankBack⟩

/-- What stands before a cut has the same core whether the text was trimmed or not,
provided that no blank character is cut away. -/
theorem trim_takeWhile_trim
    {stays : Char -> Bool}
    (blankStays : ∀ c, isBlank c = true -> stays c = true)
    (text : List Char) :
    trim ((trim text).takeWhile stays) = trim (text.takeWhile stays) := by
  obtain ⟨⟨front, back, split, blankFront, blankBack⟩, _, _⟩ := trims_trim text
  generalize trim text = core at split
  have kept : ∃ ending, text.takeWhile stays = front ++ core.takeWhile stays ++ ending ∧
      ∀ c ∈ ending, isBlank c = true := by
    rw [split, List.append_assoc, List.takeWhile_append_of_pos fun c present =>
      blankStays c (blankFront c present), List.takeWhile_append]
    split
    · next whole =>
        have uncut : core.takeWhile stays = core :=
          (List.takeWhile_prefix stays).eq_of_length whole
        have all : back.takeWhile stays = back :=
          List.takeWhile_eq_self_iff.mpr fun c present =>
            blankStays c (blankBack c present)
        exact ⟨back, by rw [all, uncut, List.append_assoc], blankBack⟩
    · exact ⟨[], by simp, by simp⟩
  obtain ⟨ending, whole, blankEnding⟩ := kept
  rw [whole]
  exact ((trims_trim _).surround blankFront blankEnding).trim_eq.symm

end Text
end FlemishDesk
