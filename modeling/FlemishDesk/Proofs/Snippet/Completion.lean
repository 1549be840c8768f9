import FlemishDesk.Snippet.Program
import FlemishDesk.Proofs.Text.Word

/-!
# Complete programs

A program is complete when it declares a language and has the words that open and close
it.  Neither step of the preparation undoes what the other has found or made: a line
that is put in front ends outside words, so the words of a frame still stand whole
behind it.  So every snippet becomes a complete program, and the complete programs are
the texts that the two steps leave as they are.
-/

namespace FlemishDesk
namespace Snippet

/-- The text starts with the mark of a declaration, blank characters in front not
counted. -/
def Declared (text : List Char) : Prop :=
  ∃ blanks rest, text = blanks ++ codingMark.toList ++ rest ∧
    ∀ c ∈ blanks, Text.isBlank c = true

/-- Somewhere `plan` and `doe` stand as words, with nothing but a gap between them. -/
def Opened (text : List Char) : Prop :=
  ∃ gap, gap ≠ [] ∧ (∀ c ∈ gap, Text.isGap c = true) ∧
    Text.StandsWhole ("plan".toList ++ gap ++ "doe".toList) text

/-- Somewhere `gedaan` stands as a word. -/
def Closed (text : List Char) : Prop :=
  Text.StandsWhole "gedaan".toList text

/-- The text declares a language and has the words that open and close a program. -/
structure Complete (text : List Char) : Prop where
  declared : Declared text
  opened : Opened text
  closed : Closed text

/-! ## What the steps look for -/

theorem declaresCoding_iff (text : List Char) :
    declaresCoding text = true <-> Declared text := by
  rw [declaresCoding, List.isPrefixOf_iff_prefix, Text.trimStart]
  constructor
  · rintro ⟨rest, isRest⟩
    refine ⟨text.takeWhile Text.isBlank, rest, ?_, List.all_eq_true.mp List.all_takeWhile⟩
    rw [List.append_assoc, isRest, List.takeWhile_append_dropWhile]
  · rintro ⟨blanks, rest, rfl, areBlank⟩
    rw [List.append_assoc, List.dropWhile_append_of_pos areBlank]
    exact ⟨rest, rfl⟩

theorem drop_plan (rest : List Char) : ("plan".toList ++ rest).drop 4 = rest := rfl

theorem startsPlan_iff (text : List Char) :
    startsPlan text = true <->
      ∃ gap after, gap ≠ [] ∧ (∀ c ∈ gap, Text.isGap c = true) ∧
        text = "plan".toList ++ gap ++ "doe".toList ++ after ∧
          Text.StartsOutside after := by
  simp only [startsPlan, Bool.and_eq_true, decide_eq_true_eq, List.isPrefixOf_iff_prefix,
    Text.startsOutsideWord_iff]
  constructor
  · rintro ⟨⟨rest, rfl⟩, ⟨shorter, after, isAfter⟩, starts⟩
    rw [drop_plan] at shorter isAfter starts
    have parts : rest.takeWhile Text.isGap ++ rest.dropWhile Text.isGap = rest :=
      List.takeWhile_append_dropWhile
    refine ⟨rest.takeWhile Text.isGap, after, ?_, List.all_eq_true.mp List.all_takeWhile,
      ?_, ?_⟩
    · intro empty
      rw [empty, List.nil_append] at parts
      rw [parts] at shorter
      exact Nat.lt_irrefl _ shorter
    · rw [List.append_assoc, List.append_assoc, isAfter, parts]
    · rw [← isAfter] at starts
      exact starts
  · rintro ⟨gap, after, nonempty, areGaps, rfl, starts⟩
    -- The gap ends before `doe`, which starts with no gap character.
    have beyond : (gap ++ ("doe".toList ++ after)).dropWhile Text.isGap =
        "doe".toList ++ after := by
      rw [List.dropWhile_append_of_pos areGaps]
      rfl
    have longer : 0 < gap.length := List.length_pos_iff.mpr nonempty
    rw [List.append_assoc, List.append_assoc, drop_plan, beyond]
    refine ⟨List.prefix_append _ _, ⟨?_, List.prefix_append _ _⟩, starts⟩
    simp only [List.length_append]
    omega

theorem opensPlan_iff (text : List Char) : opensPlan text = true <-> Opened text := by
  simp only [opensPlan, Text.anyWordStart_false_iff, startsPlan_iff]
  constructor
  · rintro ⟨before, _, rfl, _, ⟨gap, after, nonempty, areGaps, rfl, starts⟩, ends⟩
    exact ⟨gap, nonempty, areGaps, before, after, (List.append_assoc ..).symm, ends,
      starts⟩
  · rintro ⟨gap, nonempty, areGaps, before, after, rfl, ends, starts⟩
    exact ⟨before, _, List.append_assoc .., List.cons_ne_nil _ _,
      ⟨gap, after, nonempty, areGaps, rfl, starts⟩, ends⟩

theorem closesPlan_iff (text : List Char) : closesPlan text = true <-> Closed text :=
  Text.hasWholeWord_iff (by decide) text

theorem isFramed_iff (text : List Char) :
    isFramed text = true <-> Opened text ∧ Closed text := by
  rw [isFramed, Bool.and_eq_true, opensPlan_iff, closesPlan_iff]

/-! ## What the steps make -/

theorem opened_frame (text : List Char) : Opened (frame text) := by
  unfold frame
  generalize Text.joinWith ['\n'] ((Text.lines text).map indentLine) = body
  have isGap : ∀ c ∈ [' '], Text.isGap c = true := List.all_eq_true.mp rfl
  refine ⟨[' '], List.cons_ne_nil _ _, isGap, [], '\n' ::
    (body ++ "\n\ngedaan\n".toList), rfl, Text.endsOutside_nil, ?_⟩
  exact (Text.startsOutsideWord_iff _).mp rfl

theorem closed_frame (text : List Char) : Closed (frame text) := by
  unfold frame
  generalize Text.joinWith ['\n'] ((Text.lines text).map indentLine) = body
  have ending : "\n\ngedaan\n".toList = ['\n'] ++ ['\n'] ++ "gedaan".toList ++ ['\n'] :=
    rfl
  refine ⟨"plan doe\n".toList ++ body ++ ['\n'] ++ ['\n'], ['\n'], ?_,
    Text.endsOutside_concat rfl _, (Text.startsOutsideWord_iff _).mp rfl⟩
  rw [ending]
  simp only [List.append_assoc]

/-- What is found in a text is found behind a line in front of it. -/
theorem standsWhole_ensureCoding
    {mark text : List Char}
    (stands : Text.StandsWhole mark text) :
    Text.StandsWhole mark (ensureCoding text) := by
  unfold ensureCoding
  split
  · exact stands
  · have lineEnds : Text.EndsOutside (codingLine.toList ++ ['\n']) :=
      Text.endsOutside_concat (by decide) _
    have behind := stands.append_left lineEnds
    rwa [List.append_assoc] at behind

theorem declared_ensureCoding (text : List Char) : Declared (ensureCoding text) := by
  unfold ensureCoding
  split
  · next found => exact (declaresCoding_iff text).mp found
  · exact ⟨[], " vlaamsplats\n".toList ++ text, rfl, by simp⟩

theorem framed_ensureFrame (text : List Char) :
    Opened (ensureFrame text) ∧ Closed (ensureFrame text) := by
  unfold ensureFrame
  split
  · next found => exact (isFramed_iff text).mp found
  · exact ⟨opened_frame text, closed_frame text⟩

/-- The two steps make every text complete. -/
theorem complete_ensure (text : List Char) :
    Complete (ensureCoding (ensureFrame text)) := by
  obtain ⟨⟨gap, nonempty, areGaps, opens⟩, closes⟩ := framed_ensureFrame text
  exact
    { declared := declared_ensureCoding _
      opened := ⟨gap, nonempty, areGaps, standsWhole_ensureCoding opens⟩
      closed := standsWhole_ensureCoding closes }

theorem Complete.ensureFrame_eq {text : List Char} (complete : Complete text) :
    ensureFrame text = text :=
  if_pos ((isFramed_iff text).mpr ⟨complete.opened, complete.closed⟩)

theorem Complete.ensureCoding_eq {text : List Char} (complete : Complete text) :
    ensureCoding text = text :=
  if_pos ((declaresCoding_iff text).mpr complete.declared)

/-- The complete programs are the texts that the two steps leave as they are. -/
theorem ensure_eq_self_iff (text : List Char) :
    ensureCoding (ensureFrame text) = text <-> Complete text := by
  constructor
  · intro fixed
    rw [← fixed]
    exact complete_ensure text
  · intro complete
    rw [complete.ensureFrame_eq, complete.ensureCoding_eq]

/-- The program of a snippet is complete, and each of the two steps leaves it as it is;
so taking the two steps again changes nothing, whatever the text.  They change nothing
in the first place exactly when the text is complete. -/
theorem program_complete_and_stable (snippet : String) :
    Complete (program snippet).toList ∧
      ensureFrame (program snippet).toList = (program snippet).toList ∧
      ensureCoding (program snippet).toList = (program snippet).toList ∧
      (∀ text, ensureCoding (ensureFrame (ensureCoding (ensureFrame text))) =
        ensureCoding (ensureFrame text)) ∧
      ∀ text, ensureCoding (ensureFrame text) = text <-> Complete text := by
  have complete : Complete (program snippet).toList := by
    rw [program, String.toList_ofList]
    exact complete_ensure _
  refine ⟨complete, complete.ensureFrame_eq, complete.ensureCoding_eq, fun text => ?_,
    ensure_eq_self_iff⟩
  exact (ensure_eq_self_iff _).mpr (complete_ensure text)

end Snippet
end FlemishDesk
