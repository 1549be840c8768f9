import FlemishDesk.Text.Blank
import FlemishDesk.Text.Cut
import FlemishDesk.Text.Word

/-!
# From a snippet to a program

A snippet becomes a program in three steps: line ends are made uniform, a frame of
`plan doe` and `gedaan` is put around it unless it has both words already, and a
line that declares the language is put in front unless one is there.
-/

namespace FlemishDesk
namespace Snippet

/-- The line that declares the language of a program. -/
def codingLine : String := "# coding: vlaamsplats"

/-- How a line that declares a language starts. -/
def codingMark : String := "# coding:"

/-- End lines with a line feed only. -/
def normalizeNewlines (text : List Char) : List Char :=
  Text.replaceAll ['\r', '\n'] ['\n'] text

/-- The text declares a language, blank characters in front not counted. -/
def declaresCoding (text : List Char) : Bool :=
  codingMark.toList.isPrefixOf (Text.trimStart text)

/-- Declare the language, unless a declaration is there. -/
def ensureCoding (text : List Char) : List Char :=
  if declaresCoding text then text else codingLine.toList ++ '\n' :: text

/-- The text starts with `plan`, a gap and the word `doe`. -/
def startsPlan (text : List Char) : Bool :=
  "plan".toList.isPrefixOf text &&
    let rest := text.drop 4
    let beyond := rest.dropWhile Text.isGap
    beyond.length < rest.length && "doe".toList.isPrefixOf beyond &&
      Text.startsOutsideWord (beyond.drop 3)

/-- The words that open a program occur in the text. -/
def opensPlan (text : List Char) : Bool :=
  Text.anyWordStart startsPlan false text

/-- The word that closes a program occurs in the text. -/
def closesPlan (text : List Char) : Bool :=
  Text.hasWholeWord "gedaan".toList text

/-- The text has both the opening and the closing words. -/
def isFramed (text : List Char) : Bool :=
  opensPlan text && closesPlan text

/-- Indent a line by two spaces; a blank line becomes empty. -/
def indentLine (line : List Char) : List Char :=
  if line.all Text.isBlank then [] else ' ' :: ' ' :: line

/-- Put the opening and the closing words around a text. -/
def frame (text : List Char) : List Char :=
  "plan doe\n".toList ++ Text.joinWith ['\n'] ((Text.lines text).map indentLine) ++
    "\n\ngedaan\n".toList

/-- Put the opening and the closing words around a text, unless it has both. -/
def ensureFrame (text : List Char) : List Char :=
  if isFramed text then text else frame text

/-- The program of a snippet. -/
def prepare (text : List Char) : List Char :=
  ensureCoding (ensureFrame (normalizeNewlines text))

/-- The program of a snippet. -/
def program (snippet : String) : String :=
  String.ofList (prepare snippet.toList)

end Snippet
end FlemishDesk
