import FlemishDesk.Json.Record
import FlemishDesk.Text.Blank

/-!
# Messages of a conversation

A message has an author and a content.  A conversation arrives as a list of JSON
values of which only the well-formed messages are kept: objects with a known role
and a content that is a string.
-/

namespace FlemishDesk
namespace Chat

/-- The author of a message. -/
inductive Role where
  | user
  | assistant
  | system
deriving DecidableEq, Repr

namespace Role

/-- The name of a role on the wire. -/
def name : Role -> String
  | .user => "user"
  | .assistant => "assistant"
  | .system => "system"

/-- The role with a name. -/
def ofName? (name : String) : Option Role :=
  if name == "user" then some .user
  else if name == "assistant" then some .assistant
  else if name == "system" then some .system
  else none

/-- Read a role: its name, or an object with its name and null. -/
def ofDocument? : Json.Document -> Option Role
  | .string (some name) => ofName? name
  | .object [(some name, .null)] => ofName? name
  | _ => none

@[simp]
theorem ofName?_name (role : Role) : ofName? role.name = some role := by
  cases role <;> decide

end Role

/-- A message of a conversation. -/
structure Message where
  /-- Who wrote the message. -/
  role : Role
  /-- What the message says. -/
  content : String
deriving DecidableEq, Repr

namespace Message

/-- A message of the user. -/
def ofUser (content : String) : Message :=
  ⟨.user, content⟩

/-- The JSON form of a message. -/
def toJson (message : Message) : Json :=
  .object [("role", .string message.role.name), ("content", .string message.content)]

/-- The message that a value stands for, if it is well formed. -/
def ofJson? (value : Json) : Option Message := do
  let role <- (<- value.field? "role").string?
  let role <- Role.ofName? role
  let content <- (<- value.field? "content").string?
  return ⟨role, content⟩

/-- Read a message as a record. -/
def ofDocument? (document : Json.Document) : Option Message :=
  match Json.record? ["role", "content"] 2 document with
  | some [role, content] => do
      let role <- Json.required? Role.ofDocument? role
      let content <- Json.required? Json.Document.text? content
      return ⟨role, content⟩
  | _ => none

/-- The message is of the user and says something. -/
def isUserText (message : Message) : Bool :=
  message.role == .user && !Text.blank message.content

end Message

/-- Keep the well-formed messages of a conversation. -/
def normalize (values : List Json) : List Message :=
  values.filterMap Message.ofJson?

/-- The content of the last message in which the user says something. -/
def lastUserText? (messages : List Message) : Option String :=
  (messages.reverse.find? Message.isUserText).map (·.content)

/-- The number of characters of all messages together. -/
def totalLength (messages : List Message) : Nat :=
  messages.foldr (fun message total => message.content.length + total) 0

end Chat
end FlemishDesk
