import FlemishDesk.Http.Exchange
import FlemishDesk.Http.Status
import FlemishDesk.Release.Basic
import FlemishDesk.Text.Blank

/-!
# Listings of releases

A feed gives the latest releases of a repository.  A key that the feed rejects is
not fatal: the listing is asked for once more without it.  Entries of the listing
that are no releases are left out, and a listing that is no list has none.
-/

namespace FlemishDesk
namespace Release

/-- Where listings come from. -/
structure Feed where
  /-- The address, without slashes at the end. -/
  baseUrl : String
  /-- The key, if there is one. -/
  token : Option String
deriving DecidableEq, Repr

namespace Feed

/-- The public feed. -/
def publicUrl : String := "https://api.github.com"

/-- A feed at an address; a blank key counts as none. -/
def make (baseUrl token : String) : Feed where
  baseUrl := Text.dropTrailing '/' baseUrl
  token := (some (Text.trimmed token)).filter fun token => !token.isEmpty

/-- The address of the listing of a repository. -/
def listingUrl (feed : Feed) (owner repository : String) : String :=
  feed.baseUrl ++ "/repos/" ++ Text.Percent.encode owner ++ "/" ++
    Text.Percent.encode repository ++ "/releases?per_page=10&page=1"

/-- Why there is no listing. -/
inductive Error where
  /-- A call failed. -/
  | request (url : String) (failure : Http.Failure)
  /-- The feed answered with a status that is no success. -/
  | rejected (code : Nat) (body : String)
  /-- The answer is not JSON. -/
  | notJson
  /-- The feed never answered. -/
  | silent
deriving DecidableEq, Repr

/-- What is said about a missing listing. -/
def Error.message : Error -> String
  | .request _ _ => "GitHub API request failed"
  | .rejected code body => "GitHub API returned " ++ Http.statusText code ++ ": " ++ body
  | .notJson => "Failed to parse GitHub releases response"
  | .silent => "GitHub API request failed"

/-- The reasons behind the message, the outermost first. -/
def Error.causes : Error -> List String
  | .request url failure => failure.causes url
  | .notJson => ["error decoding response body"]
  | _ => []

/-- The call for a listing. -/
def call (url : String) (token : Option String) : Http.Call :=
  .get url "application/vnd.github+json" "VLAAMSCODEX-DiscordBot"
    (token.map ("Bearer " ++ ·))

/-- The releases of a listing. -/
def entries : Json -> List Release
  | .array items => items.filterMap ofJson?
  | _ => []

/-- The listing that an answer holds. -/
def read (url : String) : Http.Result -> Except Error (List Release)
  | .failed failure => .error (.request url failure)
  | .silent => .error .silent
  | .answer status body =>
      if Http.isSuccess status then
        match body.bind Json.readBytes? with
        | some value => .ok (entries value)
        | none => .error .notJson
      else
        .error (.rejected status (Http.bodyText body))

/-- The key was rejected. -/
def isRejection : Http.Result -> Bool
  | .answer status _ => status == 401
  | _ => false

/-- Ask for the listing of a repository. -/
def fetch {σ : Type} (network : Http.Network σ) (feed : Feed) (owner repository : String)
    (state : σ) : Except Error (List Release) × σ :=
  let url := feed.listingUrl owner repository
  let (result, state) := Http.send network none (call url feed.token) state
  if isRejection result && feed.token.isSome then
    let (result, state) := Http.send network none (call url none) state
    (read url result, state)
  else
    (read url result, state)

end Feed
end Release
end FlemishDesk
