import FlemishDesk.Text.Cut
import FlemishDesk.Text.Lowercase

/-!
# Phrases that give a request away

Two lists of phrases: attempts to override the instructions of the model, and
requests to answer in another language.  A phrase is found anywhere in the
lowercase form of a text, and the first phrase of the list that is found counts.
-/

namespace FlemishDesk
namespace Moderation

/-- Phrases that try to override the instructions of the model. -/
def injectionPhrases : List String :=
  ["ignore previous instruction",
   "ignore previous instructions",
   "ignore all previous",
   "system prompt",
   "developer message",
   "jailbreak",
   "do anything now",
   "dan mode",
   "prompt injection",
   "override the rules",
   "bypass"]

/-- Requests to answer in another language. -/
def languageRequestPhrases : List String :=
  ["answer in english",
   "respond in english",
   "reply in english",
   "in english",
   "antwoord in engels",
   "antwoord in het engels",
   "antwoord in frans",
   "antwoord in het frans",
   "antwoord in duits",
   "antwoord in het duits",
   "réponds en anglais",
   "répondre en anglais",
   "réponds en français",
   "répondre en français",
   "antworte auf englisch",
   "auf englisch antworten",
   "antworte auf französisch"]

/-- The first phrase of a list that occurs in the lowercase form of a text. -/
def firstPhrase? (phrases : List String) (text : String) : Option String :=
  let lowered := Text.lower text.toList
  phrases.find? fun phrase => Text.occursIn phrase.toList lowered

/-- The phrase with which a text tries to override the instructions. -/
def injection? (text : String) : Option String :=
  firstPhrase? injectionPhrases text

/-- The phrase with which a text asks for another language. -/
def languageRequest? (text : String) : Option String :=
  firstPhrase? languageRequestPhrases text

end Moderation
end FlemishDesk
