import FlemishDesk.Number.Decimal
import FlemishDesk.Number.Duration
import FlemishDesk.Server.Limits
import FlemishDesk.Storage.Path
import FlemishDesk.Text.Blank
import FlemishDesk.Text.Lowercase

/-!
# Settings

Settings come from named variables.  A variable that is not set, or that does not
say what it should, leaves the default in place; only the port has to be valid
when it is set.
-/

namespace FlemishDesk
namespace Settings

/-- The values of the variables that are set. -/
abbrev Lookup := String -> Option String

/-- Settings of the chat server. -/
structure Server where
  /-- The address to listen on. -/
  host : String
  /-- The port to listen on. -/
  port : Nat
  /-- The limits on requests. -/
  limits : FlemishDesk.Server.Limits
  /-- The directory of the files that are served beside the endpoint. -/
  webRoot : Option String
deriving DecidableEq, Repr

/-- Settings of the model. -/
structure Model where
  /-- Where the model is reached, without a slash at the end. -/
  baseUrl : String
  /-- The name of the model. -/
  name : String
  /-- How long an answer may take. -/
  timeout : Number.Duration
  /-- The server runs in a hosted deployment. -/
  hosted : Bool
deriving DecidableEq, Repr

/-- Settings of the release announcer. -/
structure Bot where
  /-- The owner of the sources. -/
  owner : String
  /-- The name of the sources. -/
  repository : String
  /-- The key for the listing of releases, or an empty text. -/
  listingToken : String
  /-- The time between two checks in milliseconds. -/
  pollMilliseconds : Nat
  /-- Previews are announced too. -/
  includePrereleases : Bool
  /-- The first release that is seen is announced too. -/
  announceOnStart : Bool
  /-- Announcements mention everyone, unless the state says otherwise. -/
  mentionEveryone : Bool
  /-- The key for the channel, or an empty text. -/
  channelToken : String
  /-- The channel of the announcements. -/
  channelId : String
  /-- The file that keeps the state. -/
  statePath : Storage.Path
deriving DecidableEq, Repr

end Settings

/-- All settings. -/
structure Settings where
  /-- Settings of the chat server. -/
  server : Settings.Server
  /-- Settings of the model. -/
  model : Settings.Model
  /-- Settings of the release announcer. -/
  bot : Settings.Bot
  /-- The interpreter of snippets. -/
  interpreter : String
deriving DecidableEq, Repr

namespace Settings

/-- Why there are no settings. -/
inductive Error where
  /-- The port is set and is no port. -/
  | invalidPort (value : String)
  /-- The time for an answer is a number of seconds that no duration can hold. -/
  | timeoutTooLong
deriving DecidableEq, Repr

/-- What is said about missing settings. -/
def Error.message : Error -> String
  | .invalidPort value => "VLAAMSCODEX_AI_PORT is not a valid port: " ++ value
  | .timeoutTooLong =>
      "cannot convert float seconds to Duration: value is either too big or NaN"

/-- The channel of the announcements, unless another one is set. -/
def defaultChannelId : String := "1454574317873397771"

/-- A variable without the blank characters at its ends, or a default when nothing
is left. -/
def textOr (lookup : Lookup) (name fallback : String) : String :=
  match (lookup name).map Text.trimmed with
  | some value => if value.isEmpty then fallback else value
  | none => fallback

/-- A variable as it is set, unless it is blank. -/
def filled? (lookup : Lookup) (name : String) : Option String :=
  (lookup name).filter fun value => !Text.blank value

/-- The value of the first of several variables that is set to an integer, else a
default. -/
def integerOr (lookup : Lookup) (names : List String) (fallback : Int) : Int :=
  (names.findSome? fun name =>
    (lookup name).bind fun value => Number.signed? (Text.trim value.toList)).getD fallback

/-- The words for yes. -/
def yesWords : List String := ["1", "true", "yes", "y", "on"]

/-- The words for no. -/
def noWords : List String := ["0", "false", "no", "n", "off"]

/-- Read a word for yes or no, in capitals or not; anything else is the default. -/
def flagOr (value : Option String) (fallback : Bool) : Bool :=
  match value with
  | none => fallback
  | some raw =>
      let word := Text.lowercase (Text.trimmed raw)
      if yesWords.contains word then true
      else if noWords.contains word then false
      else fallback

/-- The port: the default when it is not set. -/
def port (lookup : Lookup) : Except Error Nat :=
  match lookup "VLAAMSCODEX_AI_PORT" with
  | none => .ok 5174
  | some raw =>
      match Number.unsigned? 65536 (Text.trim raw.toList) with
      | some port => .ok port
      | none => .error (.invalidPort raw)

/-- The time for an answer when none is set. -/
def defaultTimeout : Number.Duration := ⟨20, 0⟩

/-- The least time for an answer. -/
def leastTimeout : Number.Duration := ⟨1, 0⟩

/-- The time for an answer: the default when it is not set to a finite number, and
never less than a second. -/
def timeout (lookup : Lookup) : Except Error Number.Duration :=
  let set := (lookup "OLLAMA_TIMEOUT_S").bind fun value =>
    (Number.Decimal.parse? (Text.trim value.toList)).filter Number.Decimal.isFinite
  match set with
  | none => .ok defaultTimeout
  | some number =>
      match number.atLeastOne? with
      | none => .ok leastTimeout
      | some seconds =>
          match Number.Duration.ofSeconds? seconds with
          | some duration => .ok duration
          | none => .error .timeoutTooLong

/-- The least time between two checks in milliseconds. -/
def leastPollMilliseconds : Int := 10000

/-- The limits on requests. -/
def limitsOf (lookup : Lookup) : FlemishDesk.Server.Limits where
  maxInputChars := (integerOr lookup ["MAX_INPUT_CHARS", "AI_MAX_INPUT_CHARS"] 8000).toNat
  requestsPerMinute :=
    integerOr lookup ["RATE_LIMIT_PER_MINUTE", "AI_RATE_LIMIT_PER_MINUTE"] 30

/-- The settings of the chat server, once the port is known. -/
def serverOf (lookup : Lookup) (port : Nat) : Server where
  host := textOr lookup "VLAAMSCODEX_AI_HOST" "127.0.0.1"
  port := port
  limits := limitsOf lookup
  webRoot := filled? lookup "VLAAMSCODEX_WEB_ROOT"

/-- The settings of the model, once the time for an answer is known. -/
def modelOf (lookup : Lookup) (timeout : Number.Duration) : Model where
  baseUrl :=
    Text.dropTrailing '/' (textOr lookup "OLLAMA_BASE_URL" "http://localhost:11434")
  name := textOr lookup "OLLAMA_MODEL" "llama3.1"
  timeout := timeout
  hosted := (lookup "VERCEL").any fun value => !value.isEmpty

/-- The settings of the release announcer. -/
def botOf (lookup : Lookup) (defaultStatePath : Storage.Path) : Bot where
  owner := textOr lookup "GITHUB_OWNER" "brentishere41848"
  repository := textOr lookup "GITHUB_REPO" "Vlaams-Codex"
  listingToken := textOr lookup "GITHUB_TOKEN" ""
  pollMilliseconds :=
    (max (integerOr lookup ["POLL_INTERVAL_MS"] 300000) leastPollMilliseconds).toNat
  includePrereleases := flagOr (lookup "INCLUDE_PRERELEASES") true
  announceOnStart := flagOr (lookup "ANNOUNCE_ON_START") false
  mentionEveryone := flagOr (lookup "MENTION_EVERYONE") true
  channelToken := textOr lookup "DISCORD_TOKEN" ""
  channelId := textOr lookup "CHANGELOG_CHANNEL_ID" defaultChannelId
  statePath := (filled? lookup "VLAAMSCODEX_STATE_PATH").elim defaultStatePath .ofText

/-- The file that keeps the state below the data directory of the user. -/
def defaultStatePath (dataDirectory : Storage.Path) : Storage.Path :=
  dataDirectory.below (.ofText "vlaamscodex/state.json")

/-- The settings that the variables make. -/
def load (lookup : Lookup) (dataDirectory : Storage.Path) : Except Error Settings := do
  let port <- port lookup
  let timeout <- timeout lookup
  return {
    server := serverOf lookup port
    model := modelOf lookup timeout
    bot := botOf lookup (defaultStatePath dataDirectory)
    interpreter := textOr lookup "PLATS_PATH" "plats" }

/-- What is said when the key for the channel is missing. -/
def missingChannelToken : String :=
  "DISCORD_TOKEN not set. Add it to your .env file.\n" ++
    "It is only needed for commands that post to Discord."

/-- The complaint about a missing key for the channel, if it is missing. -/
def channelComplaint? (settings : Settings) : Option String :=
  if settings.bot.channelToken.isEmpty then some missingChannelToken else none

end Settings
end FlemishDesk
