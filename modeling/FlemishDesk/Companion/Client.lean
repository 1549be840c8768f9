import FlemishDesk.Chat.Outcome
import FlemishDesk.Companion.Instructions
import FlemishDesk.Http.Exchange
import FlemishDesk.Http.Status
import FlemishDesk.Settings.Basic

/-!
# The model behind the chat

The model is another server that gets a conversation and returns one message.
It is asked once and has a limited time to answer.  A hosted server cannot reach
a model on its own machine, so that combination is refused without a call.
-/

namespace FlemishDesk
namespace Companion

/-- The address of the model, without slashes at the end. -/
def baseUrl (model : Settings.Model) : String :=
  Text.dropTrailing '/' model.baseUrl

/-- The address that takes conversations. -/
def chatUrl (model : Settings.Model) : String :=
  baseUrl model ++ "/api/chat"

/-- An address on the machine itself. -/
def isLoopback (url : String) : Bool :=
  Text.contains url "localhost" || Text.contains url "127.0.0.1"

/-- A hosted server is told to use a model on its own machine. -/
def isLoopbackInHosted (model : Settings.Model) : Bool :=
  model.hosted && isLoopback (baseUrl model)

/-- Why the model gave no answer. -/
inductive Error where
  /-- A hosted server cannot reach the address. -/
  | loopbackInHosted (baseUrl : String)
  /-- The call failed. -/
  | request (url : String) (failure : Http.Failure)
  /-- The model answered with a status that is no success. -/
  | rejected (code : Nat) (body : String)
  /-- The answer is not of the agreed form. -/
  | notJson
  /-- The answer has no text. -/
  | emptyReply
  /-- The answer did not come in time. -/
  | timedOut (timeout : Number.Duration)
deriving DecidableEq, Repr

/-- What is said about a missing answer. -/
def Error.message : Error -> String
  | .loopbackInHosted baseUrl =>
      "OLLAMA_BASE_URL points at " ++ baseUrl ++ " in a hosted deployment"
  | .request _ _ => "Ollama endpoint unreachable"
  | .rejected code body => "Ollama returned " ++ Http.statusText code ++ ": " ++ body
  | .notJson => "Ollama returned invalid JSON"
  | .emptyReply => "Ollama returned an empty reply"
  | .timedOut timeout => "Ollama call timed out after " ++ timeout.text

/-- The conversation with the instructions in front. -/
def withInstructions (messages : List Chat.Message) : List Chat.Message :=
  ⟨.system, instructions⟩ :: messages

/-- The JSON form of a conversation for a model. -/
def payload (model : Settings.Model) (messages : List Chat.Message) : Json :=
  .object
    [("model", .string model.name),
     ("stream", .bool false),
     ("messages", .array ((withInstructions messages).map Chat.Message.toJson))]

/-- The call that delivers a conversation. -/
def call (model : Settings.Model) (messages : List Chat.Message) : Http.Call :=
  .post (chatUrl model) "vlaamscodex/0.1 (platvlaams-ai)" none (payload model messages)

/-- Read the content of a message of the model. -/
def content? (document : Json.Document) : Option (Option String) :=
  match Json.record? ["content"] 1 document with
  | some [content] => Json.optional? Json.Document.text? content
  | _ => none

/-- Read an answer of the model. -/
def answer? (document : Json.Document) : Option (Option String) :=
  match Json.record? ["message"] 1 document with
  | some [message] => (Json.optional? content? message).map Option.join
  | _ => none

/-- The text of the model that an answer holds. -/
def read (model : Settings.Model) : Http.Result -> Except Error String
  | .failed failure => .error (.request (chatUrl model) failure)
  | .silent => .error (.timedOut model.timeout)
  | .answer status body =>
      if Http.isSuccess status then
        match (body.bind Json.parseBytes?).bind answer? with
        | none => .error .notJson
        | some none => .error .emptyReply
        | some (some content) =>
            if Text.blank content then .error .emptyReply else .ok content
      else
        .error (.rejected status (Http.bodyText body))

/-- Ask the model for an answer, and wait for it as long as the settings say. -/
def complete {σ : Type} (network : Http.Network σ) (model : Settings.Model)
    (messages : List Chat.Message) (state : σ) : Except Error String × σ :=
  if isLoopbackInHosted model then
    (.error (.loopbackInHosted (baseUrl model)), state)
  else
    let (result, state) :=
      Http.send network (some model.timeout) (call model messages) state
    (read model result, state)

/-- The model as the chat sees it: an answer or none. -/
def asModel {σ : Type} (network : Http.Network σ) (model : Settings.Model) :
    Chat.Model σ :=
  fun messages state =>
    let (answer, state) := complete network model messages state
    (answer.toOption, state)

end Companion
end FlemishDesk
