import FlemishDesk.Proofs.Snippet.LineEnds
import Mathlib.Data.List.TakeWhile

/-!
# Declarations of programs

A snippet may declare its language itself.  Whether a declaration is there is asked
after the frame has been put around the snippet, and a frame starts with other words.
So the declaration of a snippet is respected exactly when the snippet needs no frame;
otherwise it is moved inside the frame and another one is put in front.
-/

namespace FlemishDesk
namespace Snippet

variable {text line mark : List Char}

/-- The lines that declare a language, without the blank characters in front. -/
def declarations (lines : List (List Char)) : List (List Char) :=
  (lines.map Text.trimStart).filter codingMark.toList.isPrefixOf

/-- The program has the declarations of the text and no others, and its first words are
the line in which the text declares its language. -/
structure Respects (program text : List Char) : Prop where
  same : declarations (Text.lines program) = declarations (bareLines text)
  leads : ∃ own,
    (bareLines (Text.trimStart text)).head? = some own ∧
    codingMark.toList <+: own ∧
    (Text.lines (Text.trimStart program)).head? = some own

/-! ## Declarations line by line -/

theorem trimStart_indentLine (line : List Char) :
    Text.trimStart (indentLine line) = Text.trimStart line := by
  unfold indentLine
  split
  · next blank =>
      have nothing : Text.trimStart line = [] :=
        List.dropWhile_eq_nil_iff.mpr (List.all_eq_true.mp blank)
      rw [nothing, Text.trimStart_nil]
  · rfl

theorem declarations_append (first second : List (List Char)) :
    declarations (first ++ second) = declarations first ++ declarations second := by
  rw [declarations, List.map_append, List.filter_append]
  rfl

theorem declarations_map_indentLine (lines : List (List Char)) :
    declarations (lines.map indentLine) = declarations lines := by
  have same : Text.trimStart ∘ indentLine = Text.trimStart := by
    funext line
    exact trimStart_indentLine line
  rw [declarations, List.map_map, same, declarations]

/-- A frame declares nothing by itself. -/
theorem declarations_frame (text : List Char) :
    declarations (Text.lines (frame text)) = declarations (Text.lines text) := by
  have opening : declarations ["plan doe".toList] = [] := by decide
  have ending : declarations [[], "gedaan".toList, []] = [] := by decide
  rw [lines_frame, ← List.singleton_append, declarations_append, declarations_append,
    opening, ending, declarations_map_indentLine, List.nil_append, List.append_nil]

/-- A text in front of which a mark is put starts its first line with the mark. -/
theorem head?_lines_append
    (unbroken : '\n' ∉ mark)
    (text : List Char) :
    ∃ line, (Text.lines (mark ++ text)).head? = some (mark ++ line) := by
  cases text using Text.line_induction with
  | last _ lineUnbroken =>
      refine ⟨text, ?_⟩
      rw [Text.lines_of_not_mem (by simp [unbroken, lineUnbroken]), List.head?_cons]
  | line line rest lineUnbroken _ =>
      refine ⟨line, ?_⟩
      rw [← List.append_assoc, Text.lines_cons (by simp [unbroken, lineUnbroken]),
        List.head?_cons]

/-! ## Programs of snippets that declare their language -/

theorem bareLines_trimStart (text : List Char) :
    bareLines (Text.trimStart text) =
      Text.lines (Text.trimStart (normalizeNewlines text)) := by
  rw [Text.trimStart, Text.trimStart, dropWhile_normalizeNewlines (by decide) (by decide),
    lines_normalizeNewlines]

/-- The line in which a text declares its language. -/
theorem exists_own_line (declared : Declared text) :
    ∃ own, (bareLines (Text.trimStart text)).head? = some own ∧
      codingMark.toList <+: own := by
  obtain ⟨rest, begins⟩ := List.isPrefixOf_iff_prefix.mp
    ((declaresCoding_iff _).mpr ((declared_normalizeNewlines_iff text).mpr declared))
  have unbroken : '\n' ∉ codingMark.toList := by decide
  obtain ⟨line, first⟩ := head?_lines_append unbroken rest
  rw [bareLines_trimStart, ← begins]
  exact ⟨_, first, List.prefix_append _ _⟩

theorem prepare_of_framed
    (declared : Declared text)
    (framed : Framed text) :
    prepare text = normalizeNewlines text := by
  have found :=
    (declaresCoding_iff _).mpr ((declared_normalizeNewlines_iff text).mpr declared)
  rw [prepare, ensureFrame_of_framed ((framed_normalizeNewlines_iff text).mpr framed),
    ensureCoding, if_pos found]

theorem declaresCoding_frame (text : List Char) :
    declaresCoding (frame text) = false := by
  unfold frame
  rfl

theorem prepare_of_not_framed (unframed : ¬ Framed text) :
    prepare text = codingLine.toList ++ '\n' :: frame (normalizeNewlines text) := by
  have missing := mt (framed_normalizeNewlines_iff text).mp unframed
  rw [prepare, ensureFrame_of_not_framed missing, ensureCoding, declaresCoding_frame]
  rfl

theorem respects_prepare_of_framed
    (declared : Declared text)
    (framed : Framed text) :
    Respects (prepare text) text where
  same := by rw [prepare_of_framed declared framed, lines_normalizeNewlines]
  leads := by
    obtain ⟨own, first, marked⟩ := exists_own_line declared
    refine ⟨own, first, marked, ?_⟩
    rw [prepare_of_framed declared framed, ← bareLines_trimStart, first]

/-- In front of a frame stands a declaration of its own. -/
theorem declarations_prepare_of_not_framed (unframed : ¬ Framed text) :
    declarations (Text.lines (prepare text)) =
      codingLine.toList :: declarations (bareLines text) := by
  have front : declarations [codingLine.toList] = [codingLine.toList] := by decide
  rw [prepare_of_not_framed unframed, Text.lines_cons (by decide),
    ← List.singleton_append, declarations_append, front, declarations_frame,
    lines_normalizeNewlines, List.singleton_append]

theorem head?_lines_prepare_of_not_framed (unframed : ¬ Framed text) :
    (Text.lines (Text.trimStart (prepare text))).head? = some codingLine.toList := by
  rw [prepare_of_not_framed unframed]
  generalize frame (normalizeNewlines text) = rest
  have notBlank : Text.trimStart (codingLine.toList ++ '\n' :: rest) =
      codingLine.toList ++ '\n' :: rest := rfl
  rw [notBlank, Text.lines_cons (by decide), List.head?_cons]

/-- The declaration of a snippet is respected exactly when the snippet has a frame
already.  Otherwise the program starts with another declaration, in front of those of
the snippet. -/
theorem program_respects_declaration_iff_framed
    (snippet : String)
    (declared : Declared snippet.toList) :
    (Respects (program snippet).toList snippet.toList <-> Framed snippet.toList) ∧
      (¬ Framed snippet.toList ->
        declarations (Text.lines (program snippet).toList) =
            codingLine.toList :: declarations (bareLines snippet.toList) ∧
          (Text.lines (Text.trimStart (program snippet).toList)).head? =
            some codingLine.toList) := by
  rw [program, String.toList_ofList]
  refine ⟨⟨?_, respects_prepare_of_framed declared⟩, ?_⟩
  · intro respects
    by_contra unframed
    have added := declarations_prepare_of_not_framed unframed
    rw [respects.same] at added
    exact List.cons_ne_self _ _ added.symm
  · intro unframed
    exact ⟨declarations_prepare_of_not_framed unframed,
      head?_lines_prepare_of_not_framed unframed⟩

/-- A snippet with a frame and with a declaration, whose lines end with carriage
returns. -/
def framedSnippet : String := "\r\n # coding: utf-8\r\nplan doe\r\ngedaan\r\n"

/-- The snippet with a frame keeps its declaration as the only one. -/
theorem program_respects_declaration_iff_framed_kept :
    Declared framedSnippet.toList ∧
      Respects (program framedSnippet).toList framedSnippet.toList := by
  have declared := (declaresCoding_iff framedSnippet.toList).mp (by decide +kernel)
  have framed := (isFramed_iff framedSnippet.toList).mp (by decide +kernel)
  exact ⟨declared,
    (program_respects_declaration_iff_framed framedSnippet declared).1.mpr framed⟩

/-- Without a frame the same declaration is not respected: a second one is put in front
of it. -/
theorem not_respects_declaration_unframed :
    Declared "# coding: utf-8\nklap".toList ∧
      ¬ Respects (program "# coding: utf-8\nklap").toList
        "# coding: utf-8\nklap".toList := by
  refine ⟨(declaresCoding_iff _).mp (by decide +kernel), ?_⟩
  intro respects
  have same := respects.same
  revert same
  decide +kernel

end Snippet
end FlemishDesk
