import FlemishDesk.Text.Cut
import FlemishDesk.Text.Lowercase
import FlemishDesk.Text.Run

/-!
# Words of the prose

Code between fences says nothing about the language of a text, so it is removed
first: the text is cut at every fence and every second piece is kept.  A fence
that is never closed hides the rest of the text.  The words of what remains are
the maximal runs of Latin letters in its lowercase form.
-/

namespace FlemishDesk
namespace Language

/-- The mark that opens and closes a block of code. -/
def fence : String := "```"

/-- The pieces at the even positions of a list. -/
def alternate {α : Type} : List α -> List α
  | [] => []
  | [piece] => [piece]
  | piece :: _ :: others => piece :: alternate others

/-- The pieces of a text that stand outside the fences. -/
def outsideFences (text : List Char) : List (List Char) :=
  alternate (Text.splitOn fence.toList text)

/-- The text outside the fences, with a space for every block of code. -/
def prose (text : List Char) : List Char :=
  Text.joinWith [' '] (outsideFences text)

/-- The text outside the fences, with a space for every block of code. -/
def withoutCode (text : String) : String :=
  String.ofList (prose text.toList)

/-- The letters of which words consist: a to z, and the accented letters from à to
ö and from ø to ÿ. -/
def isTokenLetter (c : Char) : Bool :=
  ('a' ≤ c && c ≤ 'z') || ('à' ≤ c && c ≤ 'ö') || ('ø' ≤ c && c ≤ 'ÿ')

/-- The words of the prose of a text, in order. -/
def tokens (text : String) : List String :=
  (Text.runs isTokenLetter (Text.lower (prose text.toList))).map String.ofList

end Language
end FlemishDesk
