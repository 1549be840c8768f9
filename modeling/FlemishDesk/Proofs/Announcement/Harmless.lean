import FlemishDesk.Proofs.Announcement.Payload
import FlemishDesk.Proofs.Text.Splitting

/-!
# Harmless texts

Making a text harmless breaks every mention in it and changes nothing else: a text
without mentions stays as it is, and what is put into any other text cannot be seen.  A
harmless text has no mention to break, so that doing it twice is doing it once.  An
announcement by hand calls everyone at its very start, if it is to do so, and nobody
anywhere else, wherever its body is cut.
-/

namespace FlemishDesk
namespace Announcement

/-- The characters that can be seen. -/
def isVisible (c : Char) : Bool :=
  c != invisibleSpace

/-- The text without its invisible spaces. -/
def visible (text : String) : String :=
  String.ofList (text.toList.filter isVisible)

/-! ## Texts that are made harmless -/

theorem neutralize_of_not_infix
    {text : List Char}
    (free : ∀ mark ∈ mentions, ¬ mark <:+: text) :
    neutralize text = text := by
  have everyoneFree : ¬ everyone.toList <:+: text := free _ (by simp [mentions])
  have hereFree : ¬ here.toList <:+: text := free _ (by simp [mentions])
  rw [neutralize, Text.replaceAll_of_not_infix isMention_everyone.ne_nil everyoneFree,
    Text.replaceAll_of_not_infix isMention_here.ne_nil hereFree]

theorem neutralize_eq_self_iff (text : List Char) :
    neutralize text = text <-> ∀ mark ∈ mentions, ¬ mark <:+: text := by
  refine ⟨fun same mark present => ?_, neutralize_of_not_infix⟩
  rw [← same]
  exact not_infix_neutralize present text

/-- What makes a text harmless cannot be seen. -/
theorem filter_neutralize (text : List Char) :
    (neutralize text).filter isVisible = text.filter isVisible := by
  rw [neutralize, Text.filter_replaceAll isMention_here.ne_nil (by decide),
    Text.filter_replaceAll isMention_everyone.ne_nil (by decide)]

theorem toList_neutralized (text : String) :
    (neutralized text).toList = neutralize text.toList :=
  String.toList_ofList

theorem neutralized_eq_self_iff (text : String) :
    neutralized text = text <->
      Text.contains text everyone = false ∧ Text.contains text here = false := by
  rw [contains_eq_false_iff, contains_eq_false_iff, ← String.toList_inj,
    toList_neutralized, neutralize_eq_self_iff]
  simp [mentions]

theorem contains_neutralized
    {mention : String}
    (present : mention.toList ∈ mentions)
    (text : String) :
    Text.contains (neutralized text) mention = false := by
  rw [contains_eq_false_iff, toList_neutralized]
  exact not_infix_neutralize present text.toList

/-! ## Announcements by hand -/

theorem callsOnly_manual (text : String) (mentionEveryone : Bool) :
    CallsOnly mentionEveryone (manual text mentionEveryone) :=
  callsOnly_of_not_infix (toList_manual text mentionEveryone)
    (not_infix_behindCall (by simp [mentions]) text mentionEveryone)
    (not_infix_behindCall (by simp [mentions]) text mentionEveryone)

/-- A text that is made harmless has no mention, stays the same when this is done again,
is the text itself exactly when that has no mention, and looks like it in any case.  An
announcement by hand calls nobody who is just online; it calls everyone only when it is
to do so, and then only at its very start. -/
theorem neutralized_calls_nobody (text : String) :
    Text.contains (neutralized text) everyone = false ∧
    Text.contains (neutralized text) here = false ∧
    neutralized (neutralized text) = neutralized text ∧
    (neutralized text = text <->
      Text.contains text everyone = false ∧ Text.contains text here = false) ∧
    visible (neutralized text) = visible text ∧
    ∀ mentionEveryone,
      Text.contains (manual text mentionEveryone) here = false ∧
      ∀ before,
        (∃ after, (manual text mentionEveryone).toList =
          before ++ everyone.toList ++ after) <->
          mentionEveryone = true ∧ before = [] := by
  have everyoneFree : Text.contains (neutralized text) everyone = false :=
    contains_neutralized (by simp [mentions]) text
  have hereFree : Text.contains (neutralized text) here = false :=
    contains_neutralized (by simp [mentions]) text
  refine ⟨everyoneFree, hereFree, ?_, neutralized_eq_self_iff text, ?_, ?_⟩
  · exact (neutralized_eq_self_iff (neutralized text)).mpr ⟨everyoneFree, hereFree⟩
  · rw [visible, visible, toList_neutralized, filter_neutralize]
  · intro mentionEveryone
    have calls := callsOnly_manual text mentionEveryone
    refine ⟨calls.notHere, fun before => ⟨?_, ?_⟩⟩
    · rintro ⟨after, whole⟩
      obtain ⟨flagged, atStart, _⟩ := calls.inFirstLine before after whole
      exact ⟨flagged, atStart⟩
    · rintro ⟨flagged, rfl⟩
      obtain ⟨rest, begins⟩ := calls.firstLine flagged
      exact ⟨'\n' :: rest, by simp [← begins]⟩

end Announcement
end FlemishDesk
