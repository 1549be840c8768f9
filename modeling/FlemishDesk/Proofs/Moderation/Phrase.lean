import FlemishDesk.Chat.Outcome
import FlemishDesk.Proofs.Text.Lowercase
import FlemishDesk.Proofs.Text.Occurrence

/-!
# Phrases that never reach the model

A conversation whose last words of the user hold a listed phrase is refused, wherever
the phrase stands and in whatever case it is written.  No surrounding text hides it, and
no earlier check lets the conversation pass: the model is not asked.
-/

namespace FlemishDesk

namespace Chat

/-- The last words of the user are those of a message behind which the user says
nothing. -/
theorem lastUserText?_append_cons
    {message : Message}
    (said : message.isUserText = true)
    (earlier : List Message)
    {later : List Message}
    (silent : ∀ other ∈ later, other.isUserText = false) :
    lastUserText? (earlier ++ message :: later) = some message.content := by
  have unsaid : later.reverse.find? Message.isUserText = none := by
    rw [List.find?_eq_none]
    intro other present
    rw [silent other (List.mem_reverse.mp present)]
    exact Bool.false_ne_true
  rw [lastUserText?, List.reverse_append, List.reverse_cons, List.find?_append,
    List.find?_append, unsaid, Option.none_or, List.find?_cons_of_pos said]
  rfl

theorem length_content_le_totalLength
    {message : Message}
    {messages : List Message}
    (present : message ∈ messages) :
    message.content.length ≤ totalLength messages := by
  induction messages with
  | nil => cases present
  | cons first others inductionHypothesis =>
      rw [totalLength, List.foldr_cons]
      rcases List.mem_cons.mp present with rfl | among
      · exact Nat.le_add_right _ _
      · exact Nat.le_trans (inductionHypothesis among) (Nat.le_add_left _ _)

end Chat

namespace Moderation

/-- The phrases of both lists. -/
def listedPhrases : List String :=
  injectionPhrases ++ languageRequestPhrases

/-- A phrase starts with a letter and is written in small letters. -/
theorem letters_of_mem_listedPhrases
    {phrase : String}
    (listed : phrase ∈ listedPhrases) :
    (∀ letter ∈ phrase.toList, Text.isLatinSmall letter = true) ∧
      ∃ first others, phrase.toList = first :: others ∧ Text.isBlank first = false := by
  have letters : listedPhrases.all (fun phrase => phrase.toList.all Text.isLatinSmall &&
      phrase.toList.head?.any fun first => !Text.isBlank first) = true := by
    decide +kernel
  have here := List.all_eq_true.mp letters phrase listed
  simp only [Bool.and_eq_true, List.all_eq_true] at here
  refine ⟨here.1, ?_⟩
  cases spelled : phrase.toList with
  | nil => simp [spelled] at here
  | cons first others => exact ⟨first, others, rfl, by simpa [spelled] using here.2⟩

/-- A phrase that stands in the lowercase form of a text is found, or another one of its
list is. -/
theorem isSome_firstPhrase?
    {phrases : List String}
    {phrase text : String}
    (listed : phrase ∈ phrases)
    (occurs : phrase.toList <:+: Text.lower text.toList) :
    (firstPhrase? phrases text).isSome = true := by
  rw [firstPhrase?, List.find?_isSome]
  exact ⟨phrase, listed, (Text.occursIn_iff_infix _ _).mpr occurs⟩

/-- A text with a variant of a phrase in it says something. -/
theorem not_blank_of_caseVariant
    {phrase variant : String}
    (listed : phrase ∈ listedPhrases)
    (varies : Text.CaseVariant phrase.toList variant.toList)
    (before after : String) :
    Text.blank (before ++ variant ++ after) = false := by
  obtain ⟨first, others, spelled, notBlank⟩ := (letters_of_mem_listedPhrases listed).2
  rw [spelled] at varies
  cases spelledVariant : variant.toList with
  | nil =>
      rw [spelledVariant] at varies
      cases varies
  | cons c rest =>
      rw [spelledVariant] at varies
      obtain ⟨caseOf, _⟩ := List.forall₂_cons.mp varies
      simp [Text.blank, spelledVariant, Text.not_isBlank_of_caseOf notBlank caseOf]

/-- What the gate says to a conversation with a variant of a phrase in the last words of
the user. -/
theorem moderateInput_of_caseVariant
    {phrase variant : String}
    (listed : phrase ∈ listedPhrases)
    (varies : Text.CaseVariant phrase.toList variant.toList)
    {budget : Nat}
    {earlier later : List Chat.Message}
    {before after : String}
    (within : Chat.totalLength
      (earlier ++ .ofUser (before ++ variant ++ after) :: later) ≤ budget)
    (silent : ∀ message ∈ later, message.isUserText = false) :
    moderateInput (earlier ++ .ofUser (before ++ variant ++ after) :: later) budget =
        .injectionRefused ∨
      phrase ∉ injectionPhrases ∧
        moderateInput (earlier ++ .ofUser (before ++ variant ++ after) :: later) budget =
          .forbiddenLanguageRefused := by
  have said : (Chat.Message.ofUser (before ++ variant ++ after)).isUserText = true := by
    simp [Chat.Message.isUserText, Chat.Message.ofUser,
      not_blank_of_caseVariant listed varies before after]
  have present : Chat.Message.ofUser (before ++ variant ++ after) ∈
      earlier ++ .ofUser (before ++ variant ++ after) :: later := by
    simp
  have short : (before ++ variant ++ after).length ≤ budget :=
    Nat.le_trans (Chat.length_content_le_totalLength present) within
  have occurs : phrase.toList <:+: Text.lower (before ++ variant ++ after).toList := by
    rw [String.toList_append, String.toList_append]
    exact Text.infix_lower_of_caseVariant (letters_of_mem_listedPhrases listed).1 varies _
      _
  rw [moderateInput, if_neg (Nat.not_lt.mpr within),
    Chat.lastUserText?_append_cons said earlier silent]
  dsimp only [Chat.Message.ofUser, moderateText]
  rw [if_neg (Nat.not_lt.mpr short)]
  split
  · exact .inl rfl
  · next uninjected =>
      have notInjection : phrase ∉ injectionPhrases := fun injection =>
        uninjected (isSome_firstPhrase? injection occurs)
      have request := (List.mem_append.mp listed).resolve_left notInjection
      rw [languageRequest?, isSome_firstPhrase? request occurs, if_pos rfl]
      exact .inr ⟨notInjection, rfl⟩

/-- A conversation within the budget is refused when the last words of the user hold a
phrase of one of the lists, with any text around it and any of its letters in capitals.
The model is not asked: whatever it is, it stays in its state and has no influence on
the verdict. -/
theorem converse_refused_of_caseVariant
    (budget : Nat)
    (earlier later : List Chat.Message)
    (before variant after phrase : String)
    (within : Chat.totalLength
      (earlier ++ .ofUser (before ++ variant ++ after) :: later) ≤ budget)
    (silent : ∀ message ∈ later, message.role = .user ->
      Text.blank message.content = true)
    (listed : phrase ∈ injectionPhrases ∨ phrase ∈ languageRequestPhrases)
    (varies : Text.CaseVariant phrase.toList variant.toList) :
    ∃ verdict : Verdict,
      (phrase ∈ injectionPhrases -> verdict = .injectionRefused) ∧
      (verdict = .injectionRefused ∨ verdict = .forbiddenLanguageRefused) ∧
      ∀ (σ : Type) (model : Chat.Model σ) (state : σ),
        Chat.converse model budget
            (earlier ++ .ofUser (before ++ variant ++ after) :: later) state =
          (.refused verdict, state) := by
  have unsaid : ∀ message ∈ later, message.isUserText = false := by
    intro message present
    cases role : message.role with
    | user => simp [Chat.Message.isUserText, role, silent message present role]
    | assistant | system => simp [Chat.Message.isUserText, role]
  have refuses {verdict : Verdict} (refused : verdict ≠ .allowed)
      (judged :
        moderateInput (earlier ++ .ofUser (before ++ variant ++ after) :: later) budget =
        verdict)
      (σ : Type) (model : Chat.Model σ) (state : σ) :
      Chat.converse model budget
          (earlier ++ .ofUser (before ++ variant ++ after) :: later) state =
        (.refused verdict, state) := by
    unfold Chat.converse
    simp only [judged, Verdict.isAllowed_iff, refused, if_false]
  rcases moderateInput_of_caseVariant (List.mem_append.mpr listed) varies within
    unsaid with
    injected | ⟨notInjection, requested⟩
  · exact ⟨_, fun _ => rfl, .inl rfl, refuses (by simp) injected⟩
  · exact ⟨_, fun injection => absurd injection notInjection, .inr rfl,
      refuses (by simp) requested⟩

/-- A request in capitals, between a capital sigma and a capital I with a dot, behind
which the user is silent. -/
theorem converse_refused_of_caseVariant_surrounded :
    Text.CaseVariant "réponds en français".toList "RéPONDS en FRANÇAIS".toList ∧
      ∃ verdict : Verdict,
        (verdict = .injectionRefused ∨ verdict = .forbiddenLanguageRefused) ∧
        ∀ (σ : Type) (model : Chat.Model σ) (state : σ),
          Chat.converse model 40
              [⟨.assistant, "awel"⟩, .ofUser ("ΑΣ" ++ "RéPONDS en FRANÇAIS" ++ "İΣ"),
                ⟨.user, " "⟩, ⟨.assistant, "ja"⟩] state =
            (.refused verdict, state) := by
  have varies :
      Text.CaseVariant "réponds en français".toList "RéPONDS en FRANÇAIS".toList := by
    decide
  obtain ⟨verdict, _, named, refused⟩ := converse_refused_of_caseVariant 40
    [⟨.assistant, "awel"⟩] [⟨.user, " "⟩, ⟨.assistant, "ja"⟩] "ΑΣ" "RéPONDS en FRANÇAIS"
      "İΣ"
    "réponds en français" (by decide) (by decide) (.inr (by decide)) varies
  exact ⟨varies, verdict, named, refused⟩

end Moderation
end FlemishDesk
