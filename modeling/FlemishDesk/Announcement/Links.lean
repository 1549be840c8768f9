import FlemishDesk.Text.Cut

/-!
# The links of the project

Every link is written in angle brackets, so that no preview is shown for it.
-/

namespace FlemishDesk
namespace Announcement

/-- The page of the extension in the first store. -/
def marketplaceLink : String :=
  "https://marketplace.visualstudio.com/items?itemName=PlatsVlaamseCodex.vlaamscodex-platskript"

/-- The page of the extension in the open store. -/
def openStoreLink : String :=
  "https://open-vsx.org/extension/PlatsVlaamseCodex/vlaamscodex-platskript"

/-- The page of the sources. -/
def sourceLink : String := "https://github.com/brentishere41848/Vlaams-Codex"

/-- The page of the script package. -/
def scriptPackageLink : String := "https://www.npmjs.com/package/vlaamscodex"

/-- The page of the interpreter package. -/
def interpreterPackageLink : String :=
  "https://pypi.org/manage/project/vlaamscodex/releases/"

/-- The page of the documentation. -/
def documentationLink : String := "https://vlaamscodex.site"

/-- The page of the short messages. -/
def shortMessagesLink : String := "https://x.com/vlaamscodex"

/-- The links under every announcement, in order. -/
def fixedLinks : List String :=
  [marketplaceLink, openStoreLink, sourceLink, scriptPackageLink, interpreterPackageLink,
   documentationLink]

/-- A link in angle brackets. -/
def bracketed (link : String) : String :=
  "<" ++ link ++ ">"

/-- The links on one line. -/
def linksLine : String :=
  Text.join " | " (fixedLinks.map bracketed)

/-- The links, each on a line of its own. -/
def linksList : String :=
  Text.join "\n" (fixedLinks.map bracketed)

/-- The links with a word to each. -/
def linksMessage : String :=
  Text.join "\n"
    ["Awel se, pak u nen koffie en zet u efkes: hier zenne de VlaamsCodex-links " ++
       "waar ge mee kunt stoefen.",
     "",
     "- VS Code Marketplace: " ++ bracketed marketplaceLink,
     "- Open VSX: " ++ bracketed openStoreLink,
     "- GitHub: " ++ bracketed sourceLink,
     "- NPM: " ++ bracketed scriptPackageLink,
     "- PyPI (ja, da’s nen rare /manage/ link, mo ’t moet zo): " ++
       bracketed interpreterPackageLink,
     "- Docs: " ++ bracketed documentationLink,
     "- X (Twitter, hoe ge ’t ook noemt): " ++ bracketed shortMessagesLink,
     "",
     "En nu: goa gij wa plansen of wa? ’t Es tijd da ge iets schoons in mekaar steekt."]

end Announcement
end FlemishDesk
