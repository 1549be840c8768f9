import FlemishDesk.Text.Word

/-!
# Words of the dialect

A handful of standard words are swapped for their forms in the dialect.  Each rule
replaces one word wherever it stands as a whole word, in capitals or not, and a
capital at its start is kept.  The rules are applied one after another.
-/

namespace FlemishDesk
namespace Announcement

/-- A standard word and its form in the dialect. -/
structure DialectRule where
  /-- The standard word. -/
  standard : String
  /-- Its form in the dialect. -/
  dialect : String
deriving DecidableEq, Repr

/-- The rules, in the order in which they are applied. -/
def dialectRules : List DialectRule :=
  [⟨"jij", "gij"⟩, ⟨"niet", "nie"⟩, ⟨"wat", "wa"⟩, ⟨"heel", "kei"⟩, ⟨"goed", "goe"⟩,
    ⟨"hoe", "oe"⟩]

/-- A word with a capital at its start. -/
def capitalized : List Char -> List Char
  | [] => []
  | c :: rest => c.toUpper :: rest

/-- The form of a word that was found with a given first character. -/
def DialectRule.form (rule : DialectRule) (first : Char) : List Char :=
  if first.isUpper then capitalized rule.dialect.toList else rule.dialect.toList

/-- Apply a rule to a text. -/
def DialectRule.apply (rule : DialectRule) (text : List Char) : List Char :=
  Text.replaceWord rule.standard.toList rule.form text

/-- A text with words of the dialect. -/
def inDialect (text : String) : String :=
  String.ofList (dialectRules.foldl (fun text rule => rule.apply text) text.toList)

end Announcement
end FlemishDesk
