import FlemishDesk.Text.Cut

/-!
# Mentions

Two words call every reader of a channel.  A text from elsewhere must not do so,
and an invisible space behind the at sign keeps it from doing so.
-/

namespace FlemishDesk
namespace Announcement

/-- The mention that calls every member. -/
def everyone : String := "@everyone"

/-- The mention that calls every member who is online. -/
def here : String := "@here"

/-- The space that takes no room. -/
def invisibleSpace : Char := '\u200b'

/-- A word behind an at sign and an invisible space. -/
def harmless (word : String) : List Char :=
  '@' :: invisibleSpace :: word.toList

/-- Make the mentions of a text harmless. -/
def neutralize (text : List Char) : List Char :=
  Text.replaceAll here.toList (harmless "here")
    (Text.replaceAll everyone.toList (harmless "everyone") text)

/-- The text with its mentions made harmless. -/
def neutralized (text : String) : String :=
  String.ofList (neutralize text.toList)

end Announcement
end FlemishDesk
