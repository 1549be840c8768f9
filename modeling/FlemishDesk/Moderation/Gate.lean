import FlemishDesk.Chat.Message
import FlemishDesk.Language.Score
import FlemishDesk.Moderation.Phrase
import FlemishDesk.Moderation.Verdict

/-!
# The moderation gate

The checks on a conversation run in a fixed order and the first one that fails
decides: the total size, the presence of a text of the user, the size of that
text, phrases that override the instructions, requests for another language, and
last the language of the text.  Only the last text of the user is inspected.
-/

namespace FlemishDesk
namespace Moderation

/-- The verdict on the last text of the user. -/
def moderateText (text : String) (budget : Nat) : Verdict :=
  if text.length > budget then .tooLong
  else if (injection? text).isSome then .injectionRefused
  else if (languageRequest? text).isSome then .forbiddenLanguageRefused
  else if Language.ofUser text ≠ .target then .nonTargetLanguageRefused
  else .allowed

/-- The verdict on a conversation with a budget of characters. -/
def moderateInput (messages : List Chat.Message) (budget : Nat) : Verdict :=
  if Chat.totalLength messages > budget then
    .tooLong
  else
    match Chat.lastUserText? messages with
    | none => .nonTargetLanguageRefused
    | some text => moderateText text budget

/-- The verdict on an answer of the model. -/
def moderateOutput (answer : String) : Verdict :=
  match Language.ofModel answer with
  | .target => .allowed
  | .other => .nonTargetLanguageRefused

end Moderation
end FlemishDesk
