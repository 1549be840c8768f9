/-!
# Word lists

Short function words and pronouns that are frequent in everyday chat, one list
per language.  A word may stand in several lists and then counts for each of
these languages.
-/

namespace FlemishDesk
namespace Language
namespace Lexicon

/-- Hint words of the dialect and of Dutch. -/
def target : List String :=
  ["de", "het", "een", "en", "maar", "niet", "nie", "wa", "wat", "hoe", "waar", "waarom",
    "ik",
   "me", "mij", "mijn", "jij", "je", "jouw", "u", "uw", "gij", "ge", "gulle", "wij",
   "ons", "kun", "kunt", "kan", "zal", "leg", "uit", "awel", "allee", "ziede", "da",
   "dat", "watte", "ne", "nen", "nene", "keer", "efkes"]

/-- Hint words of English. -/
def english : List String :=
  ["a", "an", "the", "and", "or", "but", "you", "your", "yours", "can", "could", "would",
   "please", "help", "hello", "hi", "thanks", "thank", "what", "how", "why", "where",
   "here", "sure", "it", "its", "this", "that", "explain", "tell", "me", "about",
   "programming", "language"]

/-- Hint words of French. -/
def french : List String :=
  ["le", "la", "les", "des", "et", "ou", "mais", "vous", "tu", "je", "nous", "mon", "ma",
    "mes",
   "ton", "ta", "tes", "est", "suis", "peux", "pouvez", "bonjour", "merci", "aide",
   "expliquer"]

/-- Hint words of German. -/
def german : List String :=
  ["der", "die", "das", "und", "oder", "aber", "ich", "du", "sie", "wir", "mein", "meine",
   "bitte", "danke", "kann", "können", "erkläre", "erklären", "hallo"]

end Lexicon
end Language
end FlemishDesk
