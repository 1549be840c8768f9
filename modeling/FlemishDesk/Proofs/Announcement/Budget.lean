import FlemishDesk.Proofs.Announcement.Size

/-!
# The budget of a body

Header and links are written in full, and the body gets what they leave of a message.  A
body that fits is shown whole.  A longer one fills its room to the last character: its
beginning and the suffix that marks the cut, or only the beginning of the suffix when
there is no room for more.  An announcement by hand has a short header, so that it is
never too long, and has no room left whenever its body was cut.
-/

namespace FlemishDesk
namespace Announcement

/-! ## What is shown of a body -/

/-- What is shown of a body when there is room for so many characters. -/
structure Shown (room : Nat) (body shown : String) : Prop where
  whole : body.length ≤ room -> shown = body
  full : room < body.length -> shown.length = room
  marked : room < body.length -> 12 < room ->
    shown = String.ofList (body.toList.take (room - 12)) ++ truncationSuffix
  onlyMark : room < body.length -> room ≤ 12 ->
    shown = String.ofList (truncationSuffix.toList.take room)

theorem length_truncationSuffix : truncationSuffix.toList.length = 12 := by
  decide

theorem shown_shortened (room : Nat) (body : String) :
    Shown room body (Text.shortened room truncationSuffix body) := by
  constructor
  · intro fits
    rw [Text.shortened, Text.shorten_of_length_le (by rwa [String.length_toList]),
      String.ofList_toList]
  · intro long
    rw [Text.shortened, String.length_ofList,
      Text.length_shorten_of_lt (by rwa [String.length_toList])]
  · intro long roomy
    rw [Text.shortened, Text.shorten, length_truncationSuffix, String.length_toList,
      if_neg (Nat.not_le.mpr long), if_neg (Nat.not_le.mpr roomy), String.ofList_append,
      String.ofList_toList]
  · intro long tight
    rw [Text.shortened, Text.shorten, length_truncationSuffix, String.length_toList,
      if_neg (Nat.not_le.mpr long), if_pos tight]

theorem bodyBudget_eq (header footer : String) :
    bodyBudget header footer = 2000 - header.length - 2 - footer.length := by
  rw [bodyBudget, maxMessageChars]
  omega

/-- A message that has room for a body is full when the body was cut. -/
theorem length_of_shown_ne
    {header body shown : String}
    (short : header.length ≤ 1642)
    (isShown : Shown (2000 - header.length - 2 - linksLine.length) body shown)
    (cut : shown ≠ body) :
    (header ++ shown ++ "\n\n" ++ linksLine).length = 2000 := by
  have long : 2000 - header.length - 2 - linksLine.length < body.length :=
    Nat.lt_of_not_le fun fits => cut (isShown.whole fits)
  have blankLine : "\n\n".length = 2 := by decide
  have filled := isShown.full long
  -- With a short header no subtraction is cut off at zero.
  rw [length_linksLine] at filled
  rw [String.length_append, String.length_append, String.length_append, filled, blankLine,
    length_linksLine]
  omega

/-! ## Announcements by hand -/

theorem length_manualHeader_le (mentionEveryone : Bool) :
    (manualHeader mentionEveryone).length ≤ 1642 := by
  cases mentionEveryone <;> decide

theorem manualBody_cases (text : String) :
    Text.trimmed (neutralized text) = "" ∧ manualBody text = " " ∨
      Text.trimmed (neutralized text) ≠ "" ∧
        manualBody text = Text.trimmed (neutralized text) := by
  rw [manualBody, orElse]
  by_cases nothing : Text.trimmed (neutralized text) = ""
  · exact .inl ⟨nothing, if_pos (String.isEmpty_iff.mpr nothing)⟩
  · exact .inr ⟨nothing, if_neg fun empty => nothing (String.isEmpty_iff.mp empty)⟩

/-- Header and links of a message are written in full, and its body is shown in the room
that they leave.  An announcement by hand has at most two thousand characters, just as
many when its body was cut, and shows its whole text, or a space for a blank one, when
this fits. -/
theorem assemble_fills_room :
    (∀ header body : String, ∃ shown,
      assemble header body = header ++ shown ++ "\n\n" ++ linksLine ∧
        Shown (2000 - header.length - 2 - linksLine.length) body shown) ∧
    ∀ (text : String) (mentionEveryone : Bool), ∃ header body shown,
      header = (if mentionEveryone then "@everyone\n\n" else "") ∧
      (Text.trimmed (neutralized text) = "" ∧ body = " " ∨
        Text.trimmed (neutralized text) ≠ "" ∧ body = Text.trimmed (neutralized text)) ∧
      manual text mentionEveryone = header ++ shown ++ "\n\n" ++ linksLine ∧
      (manual text mentionEveryone).length ≤ 2000 ∧
      (shown ≠ body -> (manual text mentionEveryone).length = 2000) ∧
      (header.length + body.length + 2 + linksLine.length ≤ 2000 -> shown = body) := by
  have assembled (header body : String) : ∃ shown,
      assemble header body = header ++ shown ++ "\n\n" ++ linksLine ∧
        Shown (2000 - header.length - 2 - linksLine.length) body shown := by
    rw [← bodyBudget_eq]
    exact ⟨_, rfl, shown_shortened _ body⟩
  refine ⟨assembled, fun text mentionEveryone => ?_⟩
  obtain ⟨shown, spelled, isShown⟩ :=
    assembled (manualHeader mentionEveryone) (manualBody text)
  have short := length_manualHeader_le mentionEveryone
  refine ⟨manualHeader mentionEveryone, manualBody text, shown, ?_, manualBody_cases text,
    spelled, ?_, ?_, ?_⟩
  · cases mentionEveryone <;> rfl
  · exact (length_assemble_le_iff _ _).mpr short
  · intro cut
    rw [manual, spelled]
    exact length_of_shown_ne short isShown cut
  · intro fits
    apply isShown.whole
    omega

/-- A text of so many letters. -/
def letters (count : Nat) : String :=
  String.ofList (List.replicate count 'a')

theorem length_letters (count : Nat) : (letters count).length = count := by
  rw [letters, String.length_ofList, List.length_replicate]

/-- Headers that leave room for just the suffix, and for one character more. -/
theorem assemble_fills_room_suffix :
    assemble (letters 1630) (letters 13) =
        letters 1630 ++ "… (ingekort)" ++ "\n\n" ++ linksLine ∧
      assemble (letters 1629) (letters 14) =
        letters 1629 ++ "a… (ingekort)" ++ "\n\n" ++ linksLine := by
  obtain ⟨tight, spelledTight, isTight⟩ :=
    assemble_fills_room.1 (letters 1630) (letters 13)
  obtain ⟨roomy, spelledRoomy, isRoomy⟩ :=
    assemble_fills_room.1 (letters 1629) (letters 14)
  rw [length_letters, length_linksLine] at isTight isRoomy
  have onlySuffix : tight = "… (ingekort)" :=
    isTight.onlyMark (by rw [length_letters]; decide) (by decide)
  have oneMore : roomy = "a… (ingekort)" :=
    isRoomy.marked (by rw [length_letters]; decide) (by decide)
  rw [spelledTight, spelledRoomy, onlySuffix, oneMore]
  exact ⟨rfl, rfl⟩

end Announcement
end FlemishDesk
