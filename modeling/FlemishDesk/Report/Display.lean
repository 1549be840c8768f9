import FlemishDesk.Announcement.Compose
import FlemishDesk.Chat.Outcome
import FlemishDesk.Moderation.Gate
import FlemishDesk.Report.Style
import FlemishDesk.Settings.Basic
import FlemishDesk.Watch.Memory

/-!
# Reports for the terminal

A report is the text that is printed: how moderation sees a text, how a chat ended,
the announcement of a release as it would be posted, and the settings of the
announcer.
-/

namespace FlemishDesk
namespace Report

/-- Lines of a report, each with its end. -/
def sheet (lines : List String) : String :=
  String.join (lines.map fun line => line ++ "\n")

/-- A kind of language. -/
def kind (colours : Bool) : Language.Kind -> String
  | .target => paint colours .green "target"
  | .other => paint colours .boldRed "other"

/-- A phrase that was found, or none. -/
def finding (colours : Bool) : Option String -> String
  | some phrase => paint colours .red ("\"" ++ phrase ++ "\"")
  | none => paint colours .green "none"

/-- The verdict on a text. -/
def verdict (colours : Bool) (verdict : Moderation.Verdict) : String :=
  paint colours (if verdict.isAllowed then .boldGreen else .boldRed) verdict.name

/-- The kind of language of words in one direction; no words are never foreign. -/
def kindOf (words : List String) (direction : Language.Direction) : Language.Kind :=
  if words.isEmpty then .target else (Language.Score.ofTokens words).verdict direction

/-- How moderation sees a text. -/
def classification (colours : Bool) (text : String) (maxInputChars : Nat) : String :=
  let words := Language.tokens text
  let score := Language.Score.ofTokens words
  let count := Number.natText
  sheet
    ["",
     paint colours .bold "=== Moderation Report ===",
     "",
     "  Tokens (" ++ count words.length ++ "): " ++
       paint colours .dimmed (Text.join " " words),
     "  Hits: target " ++ count score.target ++ "  |  en " ++ count score.english ++
       "  |  fr " ++ count score.french ++ "  |  de " ++ count score.german,
     "  Inbound:  " ++ kind colours (kindOf words .inbound),
     "  Outbound: " ++ kind colours (kindOf words .outbound),
     "  Injection: " ++ finding colours (Moderation.injection? text),
     "  Language request: " ++ finding colours (Moderation.languageRequest? text),
     "",
     "  Verdict: " ++ verdict colours
       (Moderation.moderateInput [⟨.user, text⟩] maxInputChars)]

/-- How a chat ended. -/
def chatOutcome (colours : Bool) : Chat.Outcome -> String
  | .reply text => sheet [text]
  | .refused verdict =>
      sheet [paint colours .yellow ("[" ++ verdict.name ++ "]") ++ " " ++ verdict.refusal]
  | .offline => sheet [paint colours .red "[Offline]" ++ " " ++ Moderation.Reply.offline]

/-- The rule above and below an announcement. -/
def rule (colours : Bool) : String :=
  "  " ++ paint colours .dimmed (String.ofList (List.replicate 60 '-'))

/-- The announcement of a release as it would be posted. -/
def release (colours : Bool) (release : Release) (content : String) : String :=
  let title := (release.name <|> release.tagName).getD "?"
  let published := match release.publishedAt with
    | some moment => ["  Published: " ++ paint colours .dimmed moment]
    | none => []
  sheet
    (["", paint colours .bold ("=== Latest release: " ++ title ++ " ===")] ++ published ++
      ["  Length: " ++ Number.natText content.length ++ " / " ++
        Number.natText Announcement.maxMessageChars ++ " chars",
       rule colours, content, rule colours])

/-- A flag in words. -/
def flag : Bool -> String
  | true => "true"
  | false => "false"

/-- The settings of the announcer and what it remembers. -/
def announcer (colours : Bool) (settings : Settings.Bot) (memory : Watch.Memory) :
    String :=
  let last := match memory.lastReleaseId with
    | some id => id.shown
    | none => paint colours .dimmed "none"
  sheet
    ["channelId: " ++ memory.channelId,
     "mentionEveryone: " ++ flag memory.mentionEveryone,
     "pollInterval: " ++ Number.natText settings.pollMilliseconds,
     "repo: " ++ settings.owner ++ "/" ++ settings.repository,
     "includePrereleases: " ++ flag settings.includePrereleases,
     "lastReleaseId: " ++ last,
     "stateFile: " ++ settings.statePath.shown]

end Report
end FlemishDesk
