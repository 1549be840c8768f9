import FlemishDesk.Proofs.Snippet.Declaration
import Mathlib.Data.List.DropRight

/-!
# The lines inside a frame

A frame shows every line of a text on a line of its own and in the same order, behind
two spaces; of a blank line it shows nothing.  Since no line holds a line feed, the
lines can be read back from the program, with the blank ones emptied.  So two texts that
need a frame become the same program exactly when they have the same lines, whatever
blank characters their blank lines consist of.
-/

namespace FlemishDesk
namespace Snippet

variable {line : List Char} {lines others : List (List Char)}

/-- All characters of the line are blank. -/
def Blank (line : List Char) : Prop :=
  ∀ c ∈ line, Text.isBlank c = true

instance : DecidablePred Blank := fun _ =>
  decidable_of_iff _ List.all_eq_true

/-- How a line is shown inside a frame. -/
inductive Indents : List Char -> List Char -> Prop where
  | blank {line : List Char} (blank : Blank line) : Indents line []
  | visible {line : List Char} (visible : ¬ Blank line) :
      Indents line ([' ', ' '] ++ line)

/-- The program shows the lines of the text, one by one, between the words of a
frame. -/
def Encloses (program text : List Char) : Prop :=
  ∃ body, program = "plan doe\n".toList ++ body ++ "\n\ngedaan\n".toList ∧
    List.Forall₂ Indents (Text.lines text) (Text.lines body)

/-- The lines are equal, or both are blank. -/
def SameLine (line other : List Char) : Prop :=
  line = other ∨ (Blank line ∧ Blank other)

instance : DecidableRel SameLine := fun line other =>
  inferInstanceAs (Decidable (line = other ∨ (Blank line ∧ Blank other)))

/-- The line, or the empty line if it is blank. -/
def emptied (line : List Char) : List Char :=
  if Blank line then [] else line

/-- The lines of a program but for the first and the last three, each without its
indentation. -/
def enclosedLines (program : List Char) : List (List Char) :=
  ((Text.lines program).tail.rdrop 3).map (List.drop 2)

/-! ## One line -/

theorem indentLine_of_blank (blank : Blank line) : indentLine line = [] :=
  if_pos (List.all_eq_true.mpr blank)

theorem indentLine_of_not_blank (visible : ¬ Blank line) :
    indentLine line = [' ', ' '] ++ line :=
  if_neg (mt List.all_eq_true.mp visible)

theorem emptied_of_blank (blank : Blank line) : emptied line = [] :=
  if_pos blank

theorem emptied_of_not_blank (visible : ¬ Blank line) : emptied line = line :=
  if_neg visible

theorem blank_emptied_iff (line : List Char) : Blank (emptied line) <-> Blank line := by
  by_cases blank : Blank line
  · rw [emptied_of_blank blank]
    exact iff_of_true (fun _ absent => absurd absent List.not_mem_nil) blank
  · rw [emptied_of_not_blank blank]

/-- A line is shown in one way. -/
theorem indents_iff (line shown : List Char) :
    Indents line shown <-> indentLine line = shown := by
  constructor
  · rintro (blank | visible)
    · exact indentLine_of_blank blank
    · exact indentLine_of_not_blank visible
  · rintro rfl
    by_cases blank : Blank line
    · rw [indentLine_of_blank blank]
      exact .blank blank
    · rw [indentLine_of_not_blank blank]
      exact .visible blank

theorem drop_indentLine (line : List Char) : (indentLine line).drop 2 = emptied line := by
  by_cases blank : Blank line
  · rw [indentLine_of_blank blank, emptied_of_blank blank, List.drop_nil]
  · rw [indentLine_of_not_blank blank, emptied_of_not_blank blank]
    rfl

/-- What a frame shows of a line depends on the emptied line only. -/
theorem indentLine_emptied (line : List Char) :
    indentLine (emptied line) = indentLine line := by
  by_cases blank : Blank line
  · rw [indentLine_of_blank blank,
      indentLine_of_blank ((blank_emptied_iff line).mpr blank)]
  · rw [emptied_of_not_blank blank]

theorem sameLine_iff (line other : List Char) :
    SameLine line other <-> emptied line = emptied other := by
  constructor
  · rintro (rfl | ⟨blank, otherBlank⟩)
    · rfl
    · rw [emptied_of_blank blank, emptied_of_blank otherBlank]
  · intro same
    by_cases blank : Blank line
    · refine .inr ⟨blank, (blank_emptied_iff other).mp ?_⟩
      rwa [← same, blank_emptied_iff]
    · have otherVisible : ¬ Blank other := by
        rwa [← blank_emptied_iff other, ← same, blank_emptied_iff]
      rw [emptied_of_not_blank blank, emptied_of_not_blank otherVisible] at same
      exact .inl same

theorem forall₂_sameLine_iff :
    List.Forall₂ SameLine lines others <-> lines.map emptied = others.map emptied := by
  rw [← List.forall₂_eq_eq_eq, List.forall₂_map_left_iff, List.forall₂_map_right_iff]
  constructor
  · exact fun same => same.imp fun line other => (sameLine_iff line other).mp
  · exact fun equal => equal.imp fun line other => (sameLine_iff line other).mpr

/-! ## All lines -/

/-- A text has one program that encloses it, and that is its frame. -/
theorem encloses_iff (program text : List Char) :
    Encloses program text <-> frame text = program := by
  constructor
  · rintro ⟨body, rfl, indented⟩
    unfold frame
    rw [(Text.forall₂_iff_map_eq indents_iff).mp indented, Text.joinWith_lines]
  · rintro rfl
    refine ⟨_, rfl, ?_⟩
    rw [lines_joinWith_indentLine]
    exact (Text.forall₂_iff_map_eq indents_iff).mpr rfl

/-- The lines are read back from a frame, with the blank ones emptied. -/
theorem enclosedLines_frame (text : List Char) :
    enclosedLines (frame text) = (Text.lines text).map emptied := by
  have inside : (Text.lines (frame text)).tail.rdrop 3 =
      (Text.lines text).map indentLine := by
    rw [lines_frame, List.cons_append, List.tail_cons, List.rdrop, List.length_append]
    -- The three lines of the ending are those that are dropped.
    exact List.take_left' rfl
  rw [enclosedLines, inside, List.map_map]
  exact List.map_congr_left fun line _ => drop_indentLine line

theorem frame_eq_frame_iff (text other : List Char) :
    frame text = frame other <->
      List.Forall₂ SameLine (Text.lines text) (Text.lines other) := by
  have indented (text : List Char) :
      (Text.lines text).map indentLine =
        ((Text.lines text).map emptied).map indentLine := by
    rw [List.map_map]
    exact List.map_congr_left fun line _ => (indentLine_emptied line).symm
  rw [forall₂_sameLine_iff]
  constructor
  · intro same
    rw [← enclosedLines_frame, same, enclosedLines_frame]
  · intro same
    unfold frame
    rw [indented text, same, ← indented other]

/-- A text that needs a frame gets the one program that encloses its lines, from which
they are read back with the blank ones emptied.  Two such texts get the same program
exactly when they have the same lines but for the characters of blank lines.  The same
holds of the whole preparation, where the line ends do not count either. -/
theorem ensureFrame_keeps_lines
    (text : List Char)
    (unframed : ¬ Framed text) :
    (∀ program, Encloses program text <-> ensureFrame text = program) ∧
      enclosedLines (ensureFrame text) = (Text.lines text).map emptied ∧
      ∀ other, ¬ Framed other ->
        (ensureFrame text = ensureFrame other <->
          List.Forall₂ SameLine (Text.lines text) (Text.lines other)) ∧
        (prepare text = prepare other <->
          List.Forall₂ SameLine (bareLines text) (bareLines other)) := by
  rw [ensureFrame_of_not_framed unframed]
  refine ⟨fun program => encloses_iff program text, enclosedLines_frame text, ?_⟩
  intro other otherUnframed
  rw [ensureFrame_of_not_framed otherUnframed]
  refine ⟨frame_eq_frame_iff text other, ?_⟩
  rw [prepare_of_not_framed unframed, prepare_of_not_framed otherUnframed,
    List.append_cancel_left_eq, List.cons.injEq, frame_eq_frame_iff,
      lines_normalizeNewlines,
    lines_normalizeNewlines]
  exact and_iff_right rfl

/-- A text with the closing word only, and with a line of an ideographic space. -/
def halfFramed : List Char := "gedaan\r\n\u3000 \n klap\n".toList

/-- A tab in the last line, which is blank, changes no program.  The carriage return of
another line is kept by the frame, and only the whole preparation leaves it out. -/
theorem ensureFrame_keeps_lines_halfFramed :
    ¬ Framed halfFramed ∧
      Encloses "plan doe\n  gedaan\r\n\n   klap\n\n\ngedaan\n".toList halfFramed ∧
      ensureFrame halfFramed = ensureFrame "gedaan\r\n\n klap\n\t".toList ∧
      ensureFrame halfFramed ≠ ensureFrame "gedaan\n\n klap\n".toList ∧
      prepare halfFramed = prepare "gedaan\n\n klap\n".toList := by
  have unframed : ¬ Framed halfFramed := mt (isFramed_iff _).mpr (by decide +kernel)
  have tabUnframed : ¬ Framed "gedaan\r\n\n klap\n\t".toList :=
    mt (isFramed_iff _).mpr (by decide +kernel)
  have feedUnframed : ¬ Framed "gedaan\n\n klap\n".toList :=
    mt (isFramed_iff _).mpr (by decide +kernel)
  obtain ⟨encloses, _, same⟩ := ensureFrame_keeps_lines halfFramed unframed
  refine ⟨unframed, (encloses _).mpr (by decide +kernel), ?_, ?_, ?_⟩
  · exact (same _ tabUnframed).1.mpr (by decide +kernel)
  · exact mt (same _ feedUnframed).1.mp (by decide +kernel)
  · exact (same _ feedUnframed).2.mpr (by decide +kernel)

end Snippet
end FlemishDesk
