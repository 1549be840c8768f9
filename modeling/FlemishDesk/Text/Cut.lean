/-!
# Cutting a text at a mark

`cut?` finds the leftmost occurrence of a mark and returns what stands before
and after it.  Splitting, searching and replacing are all read off it, so that
they agree on which occurrences count: the leftmost ones that do not overlap.
-/

namespace FlemishDesk
namespace Text

/-- The text before and after the leftmost occurrence of `mark`. -/
def cut? (mark : List Char) : List Char -> Option (List Char × List Char)
  | [] => if mark.isEmpty then some ([], []) else none
  | c :: rest =>
      if mark.isPrefixOf (c :: rest) then
        some ([], (c :: rest).drop mark.length)
      else
        (cut? mark rest).map fun parts => (c :: parts.1, parts.2)

/-- What follows an occurrence of a nonempty mark is shorter than the text. -/
theorem length_of_cut?
    {mark text before after : List Char}
    (nonempty : mark ≠ [])
    (found : cut? mark text = some (before, after)) :
    after.length < text.length := by
  induction text generalizing before after with
  | nil =>
      simp only [cut?, List.isEmpty_iff, nonempty, if_false] at found
      exact absurd found (by simp)
  | cons c rest inductionHypothesis =>
      rw [cut?] at found
      split at found
      · simp only [Option.some.injEq, Prod.mk.injEq] at found
        rw [← found.2, List.length_drop]
        have positive : 0 < mark.length := List.length_pos_iff.mpr nonempty
        simp only [List.length_cons]
        omega
      · obtain ⟨⟨first, last⟩, partsFound, equal⟩ := Option.map_eq_some_iff.mp found
        simp only [Prod.mk.injEq] at equal
        have shorter := inductionHypothesis partsFound
        rw [← equal.2]
        simp only [List.length_cons]
        omega

/-- The pieces of a text between the leftmost occurrences of a mark that do not
overlap.  An empty mark occurs nowhere. -/
def splitOn (mark text : List Char) : List (List Char) :=
  if nonempty : mark = [] then
    [text]
  else
    match found : cut? mark text with
    | none => [text]
    | some (before, after) =>
        have _ := length_of_cut? nonempty found
        before :: splitOn mark after
termination_by text.length

/-- Join pieces with a separator between neighbours. -/
def joinWith (separator : List Char) : List (List Char) -> List Char
  | [] => []
  | [piece] => piece
  | piece :: next :: others => piece ++ separator ++ joinWith separator (next :: others)

/-- Put `replacement` in the place of every occurrence of `mark`. -/
def replaceAll (mark replacement text : List Char) : List Char :=
  joinWith replacement (splitOn mark text)

/-- The mark occurs somewhere in the text. -/
def occursIn (mark text : List Char) : Bool :=
  (cut? mark text).isSome

/-- The pieces of a text between line feeds. -/
def lines (text : List Char) : List (List Char) :=
  splitOn ['\n'] text

/-- The mark occurs somewhere in the text. -/
def contains (text mark : String) : Bool :=
  occursIn mark.toList text.toList

/-- Put `replacement` in the place of every occurrence of `mark`. -/
def replaced (mark replacement text : String) : String :=
  String.ofList (replaceAll mark.toList replacement.toList text.toList)

/-- Join texts with a separator between neighbours. -/
def join (separator : String) : List String -> String
  | [] => ""
  | [piece] => piece
  | piece :: next :: others => piece ++ separator ++ join separator (next :: others)

@[simp]
theorem joinWith_singleton (separator piece : List Char) :
    joinWith separator [piece] = piece := rfl

@[simp]
theorem joinWith_cons_cons
    (separator piece next : List Char)
    (others : List (List Char)) :
    joinWith separator (piece :: next :: others) =
      piece ++ separator ++ joinWith separator (next :: others) := rfl

end Text
end FlemishDesk
