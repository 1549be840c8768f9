import FlemishDesk.Moderation.Gate
import FlemishDesk.Proofs.Language.Words

/-!
# Moderation without regard to case

Texts that differ only in the case of their Latin letters become the same text when
these letters are written small.  It is therefore enough to see that writing them small
changes nothing that moderation looks at.  The lowercase form stays, as neither case
changes the surroundings of any other character; fences are no letters, so the prose is
cut in the same places; and lengths and blanks stay as well.
-/

namespace FlemishDesk

namespace Text

/-- The characters are equal or the two cases of one Latin letter. -/
def SameLetter (one other : Char) : Prop :=
  CaseOf one other ∨ CaseOf other one

instance : DecidableRel SameLetter := fun one other =>
  inferInstanceAs (Decidable (CaseOf one other ∨ CaseOf other one))

/-- The texts differ only in the case of Latin letters. -/
def Recased (one other : String) : Prop :=
  List.Forall₂ SameLetter one.toList other.toList

instance : DecidableRel Recased := fun one other =>
  inferInstanceAs (Decidable (List.Forall₂ SameLetter one.toList other.toList))

/-- The text with its Latin letters written small. -/
def inSmall (text : String) : String :=
  String.ofList (text.toList.map smallForm)

theorem smallForm_of_caseOf
    {letter c : Char}
    (caseOf : CaseOf letter c) :
    smallForm letter = smallForm c := by
  rcases caseOf with rfl | ⟨capital, behind⟩
  · rfl
  · have bounds := (isLatinCapital_iff c).mp capital
    have notCapital : ¬ isLatinCapital letter = true := by
      rw [isLatinCapital_iff]
      omega
    rw [smallForm, if_neg notCapital, smallForm, if_pos capital, ← behind,
      Char.ofNat_toNat]

theorem map_smallForm_of_sameLetters
    {one other : List Char}
    (sameLetters : List.Forall₂ SameLetter one other) :
    one.map smallForm = other.map smallForm := by
  induction sameLetters with
  | nil => rfl
  | @cons c d one other sameLetter _ inductionHypothesis =>
      have first : smallForm c = smallForm d := by
        rcases sameLetter with caseOf | caseOf
        · exact smallForm_of_caseOf caseOf
        · exact (smallForm_of_caseOf caseOf).symm
      rw [List.map_cons, List.map_cons, inductionHypothesis, first]

/-- Texts that differ only in case are the same when they are written small. -/
theorem Recased.inSmall_eq
    {one other : String}
    (recased : Recased one other) :
    inSmall one = inSmall other :=
  congrArg String.ofList (map_smallForm_of_sameLetters recased)

@[simp] theorem toList_inSmall (text : String) :
    (inSmall text).toList = text.toList.map smallForm :=
  String.toList_ofList

@[simp] theorem length_inSmall (text : String) : (inSmall text).length = text.length := by
  rw [← String.length_toList, toList_inSmall, List.length_map, String.length_toList]

@[simp] theorem blank_inSmall (text : String) : blank (inSmall text) = blank text := by
  rw [blank, blank, toList_inSmall, List.all_map]
  exact congrArg (text.toList.all ·) (funext isBlank_smallForm)

end Text

namespace Language

theorem fixes_fence : Text.Fixes Text.smallForm fence.toList := by
  intro mark present c
  have noLetter :
      (fence.toList.all fun mark => !Text.isLatinLetter mark) = true := by decide
  have here := List.all_eq_true.mp noLetter mark present
  exact Text.smallForm_eq_iff (by simpa using here) c

/-- The prose of a text in small letters is the prose in small letters. -/
theorem prose_map_smallForm (text : List Char) :
    prose (text.map Text.smallForm) = (prose text).map Text.smallForm := by
  have pieces : Text.splitOn fence.toList (text.map Text.smallForm) =
      (Text.splitOn fence.toList text).map (List.map Text.smallForm) :=
    (fixes_fence.splits (Text.splits_splitOn fence_ne_nil text)).splitOn_eq fence_ne_nil
  have space : [' '].map Text.smallForm = [' '] := by decide
  rw [prose, prose, outsideFences, outsideFences, pieces, alternate_map,
    ← Text.joinWith_map, space]

theorem tokens_inSmall (text : String) : tokens (Text.inSmall text) = tokens text := by
  rw [tokens, tokens, Text.toList_inSmall, prose_map_smallForm, Text.lower_map_smallForm]

theorem classify_inSmall (text : String) (direction : Direction) :
    classify (Text.inSmall text) direction = classify text direction := by
  rw [classify, classify, tokens_inSmall]

end Language

namespace Chat

/-- The message with the Latin letters of its content written small. -/
def Message.inSmall (message : Message) : Message :=
  { message with content := Text.inSmall message.content }

theorem isUserText_inSmall (message : Message) :
    message.inSmall.isUserText = message.isUserText := by
  simp [Message.inSmall, Message.isUserText]

theorem lastUserText?_inSmall (messages : List Message) :
    lastUserText? (messages.map Message.inSmall) =
      (lastUserText? messages).map Text.inSmall := by
  have same : Message.isUserText ∘ Message.inSmall = Message.isUserText :=
    funext isUserText_inSmall
  rw [lastUserText?, lastUserText?, ← List.map_reverse, List.find?_map, same,
    Option.map_map, Option.map_map]
  rfl

theorem totalLength_inSmall (messages : List Message) :
    totalLength (messages.map Message.inSmall) = totalLength messages := by
  simp [totalLength, List.foldr_map, Message.inSmall]

end Chat

namespace Moderation

theorem firstPhrase?_inSmall (phrases : List String) (text : String) :
    firstPhrase? phrases (Text.inSmall text) = firstPhrase? phrases text := by
  rw [firstPhrase?, firstPhrase?, Text.toList_inSmall, Text.lower_map_smallForm]

theorem moderateText_inSmall (text : String) (budget : Nat) :
    moderateText (Text.inSmall text) budget = moderateText text budget := by
  have injected : injection? (Text.inSmall text) = injection? text :=
    firstPhrase?_inSmall injectionPhrases text
  have requested : languageRequest? (Text.inSmall text) = languageRequest? text :=
    firstPhrase?_inSmall languageRequestPhrases text
  have language : Language.ofUser (Text.inSmall text) = Language.ofUser text :=
    Language.classify_inSmall text .inbound
  rw [moderateText, moderateText, Text.length_inSmall, injected, requested, language]

/-- The verdict on a conversation in small letters is the verdict on the
conversation. -/
theorem moderateInput_inSmall (messages : List Chat.Message) (budget : Nat) :
    moderateInput (messages.map Chat.Message.inSmall) budget =
      moderateInput messages budget := by
  rw [moderateInput, moderateInput, Chat.totalLength_inSmall, Chat.lastUserText?_inSmall]
  split
  · rfl
  · cases Chat.lastUserText? messages with
    | none => rfl
    | some text => exact moderateText_inSmall text budget

/-- Two texts are the same to moderation. -/
structure JudgedAlike (one other : String) : Prop where
  words : Language.tokens one = Language.tokens other
  hits : Language.Score.ofTokens (Language.tokens one) =
    Language.Score.ofTokens (Language.tokens other)
  injection : injection? one = injection? other
  request : languageRequest? one = languageRequest? other
  answer : moderateOutput one = moderateOutput other

theorem judgedAlike_of_recased
    {one other : String}
    (recased : Text.Recased one other) :
    JudgedAlike one other := by
  have same := recased.inSmall_eq
  have words : Language.tokens one = Language.tokens other := by
    rw [← Language.tokens_inSmall one, same, Language.tokens_inSmall]
  have phrase (phrases : List String) : firstPhrase? phrases one =
      firstPhrase? phrases other := by
    rw [← firstPhrase?_inSmall phrases one, same, firstPhrase?_inSmall]
  refine ⟨words, by rw [words], phrase injectionPhrases, phrase languageRequestPhrases,
    ?_⟩
  rw [moderateOutput, moderateOutput, Language.ofModel, Language.ofModel,
    Language.classify, Language.classify, words]

/-- Moderation does not look at case.  Two conversations with the same roles whose
contents differ only in the case of letters from A to Z and of accented Latin-1 letters
have the same words, hits and phrases, message by message, each content is judged alike
as an answer, and both get the same verdict for every budget. -/
theorem moderation_ignores_case
    (messages others : List Chat.Message)
    (recased : List.Forall₂ (fun message other : Chat.Message =>
      message.role = other.role ∧ Text.Recased message.content other.content) messages
        others) :
    List.Forall₂ (fun message other : Chat.Message =>
      JudgedAlike message.content other.content) messages others ∧
    ∀ budget, moderateInput messages budget = moderateInput others budget := by
  have same : messages.map Chat.Message.inSmall = others.map Chat.Message.inSmall := by
    induction recased with
    | nil => rfl
    | @cons message other _ _ related _ inductionHypothesis =>
        rw [List.map_cons, List.map_cons, inductionHypothesis, Chat.Message.inSmall,
          Chat.Message.inSmall, related.1, related.2.inSmall_eq]
  refine ⟨recased.imp fun message other related => judgedAlike_of_recased related.2, ?_⟩
  intro budget
  rw [← moderateInput_inSmall messages, same, moderateInput_inSmall]

/-- Recased letters before and behind a capital sigma, next to a fence and inside the
code. -/
theorem moderation_ignores_case_sigma :
    Text.Recased "ÀΣ, Leg uit```FN Σa```" "àΣ, leg UIT```Fn ΣA```" ∧
    JudgedAlike "ÀΣ, Leg uit```FN Σa```" "àΣ, leg UIT```Fn ΣA```" ∧
    ∀ budget,
      moderateInput [⟨.assistant, "SURE"⟩, ⟨.user, "ÀΣ, Leg uit```FN Σa```"⟩] budget =
        moderateInput [⟨.assistant, "Sure"⟩, ⟨.user, "àΣ, leg UIT```Fn ΣA```"⟩]
          budget := by
  have answer : Text.Recased "SURE" "Sure" := by decide
  have question :
      Text.Recased "ÀΣ, Leg uit```FN Σa```" "àΣ, leg UIT```Fn ΣA```" := by decide
  obtain ⟨alike, sameVerdict⟩ := moderation_ignores_case
    [⟨.assistant, "SURE"⟩, ⟨.user, "ÀΣ, Leg uit```FN Σa```"⟩]
    [⟨.assistant, "Sure"⟩, ⟨.user, "àΣ, leg UIT```Fn ΣA```"⟩]
    (.cons ⟨rfl, answer⟩ (.cons ⟨rfl, question⟩ .nil))
  obtain ⟨_, questions⟩ := List.forall₂_cons.mp alike
  exact ⟨question, (List.forall₂_cons.mp questions).1, sameVerdict⟩

end Moderation
end FlemishDesk
