import FlemishDesk.Announcement.Links
import FlemishDesk.Announcement.Mention
import FlemishDesk.Release.Basic
import FlemishDesk.Text.Blank
import FlemishDesk.Text.Shorten

/-!
# Composing announcements

An announcement has a header, a body and the links of the project as its footer.
A channel takes at most two thousand characters; only the body is ever cut, so
that header and footer stay whole.
-/

namespace FlemishDesk
namespace Announcement

/-- The greatest number of characters in a message. -/
def maxMessageChars : Nat := 2000

/-- The greatest number of characters in a title. -/
def maxTitleChars : Nat := 256

/-- What ends a body that was cut. -/
def truncationSuffix : String := "… (ingekort)"

/-- What ends a title that was cut. -/
def titleSuffix : String := "…"

/-- The body of a release without notes. -/
def emptyBody : String := "Geen changelog opgegeven."

/-- The title of a release without a name and a tag. -/
def defaultTitle : String := "Nieuwe release"

/-- How many characters remain for the body. -/
def bodyBudget (header footer : String) : Nat :=
  maxMessageChars - (header.length + 2 + footer.length)

/-- Put header, body and footer together, and cut the body to what remains for
it. -/
def assemble (header body : String) : String :=
  header ++ Text.shortened (bodyBudget header linksLine) truncationSuffix body ++
    "\n\n" ++
    linksLine

/-- A text, unless it is empty. -/
def filled? (text : Option String) : Option String :=
  text.filter fun text => !text.isEmpty

/-- A text, or another one when it is empty. -/
def orElse (text fallback : String) : String :=
  if text.isEmpty then fallback else text

/-- The title of a release: its name, else its tag, else a fixed one. -/
def title (release : Release) : String :=
  let raw := ((filled? release.name).or (filled? release.tagName)).getD defaultTitle
  Text.shortened maxTitleChars titleSuffix (neutralized raw)

/-- The line with the page of a release. -/
def urlLines (release : Release) : List String :=
  let url := Text.trimmed (release.htmlUrl.getD "")
  if url.isEmpty then [] else [bracketed url]

/-- The line with the moment of publication, which the channel shows in the time of
the reader.  The very start of 1970 is not shown. -/
def timestampLines (release : Release) : List String :=
  match release.published? with
  | none => []
  | some moment =>
      if moment.seconds == 0 then []
      else ["<t:" ++ Number.intText moment.seconds ++ ":F>"]

/-- The lines of the header of a release. -/
def headerLines (release : Release) (mentionEveryone : Bool) : List String :=
  (if mentionEveryone then [everyone] else []) ++ ["**" ++ title release ++ "**"] ++
    urlLines release ++ timestampLines release

/-- The header of a release, with the blank line behind it. -/
def header (release : Release) (mentionEveryone : Bool) : String :=
  Text.join "\n" (headerLines release mentionEveryone) ++ "\n\n"

/-- The body of a release. -/
def releaseBody (release : Release) : String :=
  orElse (Text.trimmed (neutralized (release.body.getD ""))) emptyBody

/-- The announcement of a release. -/
def ofRelease (release : Release) (mentionEveryone : Bool) : String :=
  assemble (header release mentionEveryone) (releaseBody release)

/-- The header of an announcement by hand. -/
def manualHeader (mentionEveryone : Bool) : String :=
  if mentionEveryone then everyone ++ "\n\n" else ""

/-- The body of an announcement by hand. -/
def manualBody (text : String) : String :=
  orElse (Text.trimmed (neutralized text)) " "

/-- An announcement by hand. -/
def manual (text : String) (mentionEveryone : Bool) : String :=
  assemble (manualHeader mentionEveryone) (manualBody text)

end Announcement
end FlemishDesk
