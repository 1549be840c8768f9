import FlemishDesk.Json.Writer
import FlemishDesk.Release.Id

/-!
# What the watcher remembers

The watcher remembers the last release that it announced or took note of, the
channel, and whether announcements mention everyone.  Without a release that is
not blank it runs for the first time.
-/

namespace FlemishDesk
namespace Watch

/-- What the watcher remembers. -/
structure Memory where
  /-- The last release that was announced or noted. -/
  lastReleaseId : Option Release.Id
  /-- The channel of the announcements. -/
  channelId : String
  /-- Announcements mention everyone. -/
  mentionEveryone : Bool
deriving DecidableEq, Repr

namespace Memory

/-- No release is remembered, or a blank one. -/
def isFirstRun (memory : Memory) : Bool :=
  memory.lastReleaseId.all Release.Id.isBlank

/-- The JSON form of an optional identifier. -/
def idJson : Option Release.Id -> Json
  | none => .null
  | some id => id.toJson

/-- The JSON form of a memory. -/
def toJson (memory : Memory) : Json :=
  .object
    [("lastReleaseId", idJson memory.lastReleaseId),
     ("channelId", .string memory.channelId),
     ("mentionEveryone", .bool memory.mentionEveryone)]

/-- Read a memory as a record. -/
def ofDocument? (document : Json.Document) : Option Memory :=
  match Json.record? ["lastReleaseId", "channelId", "mentionEveryone"] 3 document with
  | some [lastReleaseId, channelId, mentionEveryone] => do
      let lastReleaseId <- Json.optional? Release.Id.ofDocument? lastReleaseId
      let channelId <- Json.required? Json.Document.text? channelId
      let mentionEveryone <- Json.required? Json.Document.bool? mentionEveryone
      return ⟨lastReleaseId, channelId, mentionEveryone⟩
  | _ => none

/-- The text of the file that keeps a memory. -/
def fileText (memory : Memory) : String :=
  memory.toJson.pretty ++ "\n"

end Memory
end Watch
end FlemishDesk
