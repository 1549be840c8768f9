import FlemishDesk.Http.Exchange
import FlemishDesk.Http.Status
import FlemishDesk.Text.Blank

/-!
# Posting to a channel

A post is a text together with the permission to call everyone.  A mention in the
text only calls readers when the permission is sent along.
-/

namespace FlemishDesk
namespace Announcement

/-- A text for a channel. -/
structure Post where
  /-- The text. -/
  content : String
  /-- A mention of everyone calls everyone. -/
  allowEveryone : Bool
deriving DecidableEq, Repr

/-- The mentions that a post may call readers with. -/
def Post.allowedMentions (post : Post) : List String :=
  if post.allowEveryone then ["everyone"] else []

/-- The JSON form of a post. -/
def Post.payload (post : Post) : Json :=
  .object
    [("content", .string post.content),
     ("allowed_mentions", .object [("parse", .array (post.allowedMentions.map .string))])]

/-- A channel and the key for it. -/
structure Channel where
  /-- The address of the service, without slashes at the end. -/
  baseUrl : String
  /-- The key. -/
  token : String
  /-- The channel. -/
  id : String
deriving DecidableEq, Repr

namespace Channel

/-- The service of the public channels. -/
def publicUrl : String := "https://discord.com/api/v10"

/-- A channel of a service. -/
def make (baseUrl token id : String) : Channel :=
  ⟨Text.dropTrailing '/' baseUrl, token, id⟩

/-- The address that takes posts. -/
def messagesUrl (channel : Channel) : String :=
  channel.baseUrl ++ "/channels/" ++ channel.id ++ "/messages"

/-- Why a post was not taken. -/
inductive Error where
  /-- The call failed. -/
  | request (url : String) (failure : Http.Failure)
  /-- The service answered with a status that is no success. -/
  | rejected (code : Nat) (body : String)
  /-- The service never answered. -/
  | silent
deriving DecidableEq, Repr

/-- What is said about a post that was not taken. -/
def Error.message : Error -> String
  | .request _ _ => "Discord API request failed"
  | .rejected code body => "Discord API returned " ++ Http.statusText code ++ ": " ++ body
  | .silent => "Discord API request failed"

/-- The reasons behind the message, the outermost first. -/
def Error.causes : Error -> List String
  | .request url failure => failure.causes url
  | _ => []

/-- The call that delivers a post. -/
def call (channel : Channel) (post : Post) : Http.Call :=
  .post channel.messagesUrl "DiscordBot (https://vlaamscodex.site, 0.1)"
    (some ("Bot " ++ channel.token)) post.payload

/-- Deliver a post. -/
def post {σ : Type} (network : Http.Network σ) (channel : Channel) (post : Post)
    (state : σ) :
    Except Error Unit × σ :=
  let (result, state) := Http.send network none (channel.call post) state
  match result with
  | .failed failure => (.error (.request channel.messagesUrl failure), state)
  | .silent => (.error .silent, state)
  | .answer status body =>
      if Http.isSuccess status then (.ok (), state)
      else (.error (.rejected status (Http.bodyText body)), state)

end Channel
end Announcement
end FlemishDesk
