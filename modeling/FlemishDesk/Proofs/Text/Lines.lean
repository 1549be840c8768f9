import FlemishDesk.Proofs.Text.Splitting

/-!
# The lines of a text

A text is its first line alone, or its first line, a line feed and the rest.  The lines
of a text hold no line feed, and lines without one that are joined with line feeds are
the lines of the whole.
-/

namespace FlemishDesk
namespace Text

theorem lines_of_not_mem {line : List Char} (unbroken : '\n' ∉ line) :
    lines line = [line] :=
  splitOn_of_not_mem unbroken

/-- The lines on the two sides of a line feed are those of the whole. -/
theorem lines_append_cons (text rest : List Char) :
    lines (text ++ '\n' :: rest) = lines text ++ lines rest :=
  splitOn_append_cons '\n' text rest

theorem lines_cons
    {line : List Char}
    (unbroken : '\n' ∉ line)
    (rest : List Char) :
    lines (line ++ '\n' :: rest) = line :: lines rest :=
  splitOn_append_cons_of_not_mem unbroken rest

theorem lines_ne_nil (text : List Char) : lines text ≠ [] :=
  (splits_splitOn (List.cons_ne_nil _ _) text).ne_nil

theorem newline_not_mem_of_mem_lines
    {text line : List Char}
    (present : line ∈ lines text) :
    '\n' ∉ line := by
  intro broken
  obtain ⟨before, after, rfl⟩ := List.append_of_mem broken
  exact (piece_of_splitOn (List.cons_ne_nil _ _) present).2 ⟨before, after, by simp⟩

/-- A text is a line, or a line in front of a line feed and a text. -/
@[elab_as_elim]
theorem line_induction
    {motive : List Char -> Prop}
    (last : ∀ line, '\n' ∉ line -> motive line)
    (line : ∀ line rest, '\n' ∉ line -> motive rest -> motive (line ++ '\n' :: rest))
    (text : List Char) :
    motive text := by
  by_cases broken : '\n' ∈ text
  · obtain ⟨first, rest, rfl, unbroken⟩ := List.eq_append_cons_of_mem broken
    exact line first rest unbroken (line_induction last line rest)
  · exact last text broken
termination_by text.length

/-- Lines that are joined are the lines of the whole. -/
theorem lines_joinWith
    {pieces : List (List Char)}
    (nonempty : pieces ≠ [])
    (unbroken : ∀ piece ∈ pieces, '\n' ∉ piece) :
    lines (joinWith ['\n'] pieces) = pieces :=
  splitOn_joinWith nonempty unbroken

theorem joinWith_lines (text : List Char) : joinWith ['\n'] (lines text) = text :=
  (splits_splitOn (List.cons_ne_nil _ _) text).joinWith_eq

end Text
end FlemishDesk
