import FlemishDesk.Announcement.Compose
import FlemishDesk.Proofs.Text.Occurrence

/-!
# The layout of an announcement

An announcement is its header, what is left of its body, and the links.  The header of a
release is one line after another, and a blank line.
-/

namespace FlemishDesk
namespace Announcement

/-- Lines, each with a line feed behind it. -/
def lineChars (lines : List String) : List Char :=
  lines.flatMap fun line => line.toList ++ ['\n']

@[simp]
theorem lineChars_nil : lineChars [] = [] := rfl

theorem lineChars_cons (line : String) (lines : List String) :
    lineChars (line :: lines) = line.toList ++ '\n' :: lineChars lines := by
  simp [lineChars]

theorem lineChars_append (first second : List String) :
    lineChars (first ++ second) = lineChars first ++ lineChars second := by
  simp [lineChars]

theorem toList_join_append
    (lines : List String)
    (nonempty : lines ≠ []) :
    (Text.join "\n" lines).toList ++ ['\n'] = lineChars lines := by
  induction lines with
  | nil => exact absurd rfl nonempty
  | cons line lines inductionHypothesis =>
      cases lines with
      | nil => simp [Text.join, lineChars]
      | cons next others =>
          rw [lineChars_cons, ← inductionHypothesis (by simp), Text.join]
          simp

/-- The page of a release, without blanks at its ends. -/
def pageUrl (release : Release) : String :=
  Text.trimmed (release.htmlUrl.getD "")

theorem urlLines_eq (release : Release) :
    urlLines release =
      if (pageUrl release).isEmpty then [] else [bracketed (pageUrl release)] := rfl

/-- A release that gives nothing but its page. -/
def pageOnly (url : String) : Release :=
  ⟨.number 1, none, none, some url, none, none, none, none⟩

theorem headerLines_ne_nil (release : Release) (mentionEveryone : Bool) :
    headerLines release mentionEveryone ≠ [] := by
  simp [headerLines]

theorem toList_header (release : Release) (mentionEveryone : Bool) :
    (header release mentionEveryone).toList =
      lineChars (headerLines release mentionEveryone) ++ ['\n'] := by
  rw [← toList_join_append _ (headerLines_ne_nil release mentionEveryone), header]
  simp

theorem toList_assemble (header body : String) :
    (assemble header body).toList =
      header.toList ++
        Text.shorten (bodyBudget header linksLine) truncationSuffix.toList body.toList ++
        '\n' :: '\n' :: linksLine.toList := by
  simp [assemble, Text.shortened]

/-! ## The links -/

theorem length_bracketed (link : String) : (bracketed link).length = link.length + 2 := by
  have opening : "<".length = 1 := by decide
  have closing : ">".length = 1 := by decide
  rw [bracketed, String.length_append, String.length_append, opening, closing]
  omega

theorem fixedLinks_spelled :
    fixedLinks.map String.length = [92, 71, 48, 41, 53, 24] ∧
      ∀ link ∈ fixedLinks, '@' ∉ link.toList := by
  decide +kernel

theorem length_linksLine : linksLine.length = 356 := by
  have lengths := fixedLinks_spelled.1
  simp only [fixedLinks, List.map_cons, List.map_nil, List.cons.injEq,
    and_true] at lengths
  obtain ⟨marketplace, openStore, source, scriptPackage, interpreterPackage,
    documentation⟩ :=
    lengths
  have separator : " | ".length = 3 := by decide
  simp only [linksLine, fixedLinks, List.map_cons, List.map_nil, Text.join,
    String.length_append, length_bracketed, marketplace, openStore, source, scriptPackage,
    interpreterPackage, documentation, separator]

theorem at_not_mem_linksLine : '@' ∉ linksLine.toList := by
  intro present
  rcases Text.mem_toList_join present with inSeparator | ⟨piece, member, inPiece⟩
  · revert inSeparator
    decide
  · obtain ⟨link, fixed, rfl⟩ := List.mem_map.mp member
    rw [bracketed, String.toList_append, String.toList_append, List.mem_append,
      List.mem_append] at inPiece
    rcases inPiece with (inOpening | inLink) | inClosing
    · revert inOpening
      decide
    · exact fixedLinks_spelled.2 link fixed inLink
    · revert inClosing
      decide

end Announcement
end FlemishDesk
