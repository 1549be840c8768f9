import FlemishDesk.Admission.Client
import FlemishDesk.Admission.Limiter
import FlemishDesk.Chat.Outcome
import FlemishDesk.Http.Message
import FlemishDesk.Server.Limits

/-!
# The chat endpoint

A request to the endpoint passes its checks in a fixed order, and the first one
that fails answers: the limiter, the size of the body, its JSON, its shape, and
then the moderation gate.  A refusal of the gate is a reply like any other; a
model that gives no answer is an error.
-/

namespace FlemishDesk
namespace Server

/-- Why a request to the endpoint is not given to the gate. -/
inductive Rejection where
  /-- The client has used up its requests. -/
  | rateLimited
  /-- The body is larger than allowed, or says that it is. -/
  | tooLarge
  /-- The body is not JSON. -/
  | notJson
  /-- The body is not an object. -/
  | notObject
  /-- The body has no list of messages. -/
  | noMessages
deriving DecidableEq, Repr

/-- The response to a request that is not given to the gate. -/
def Rejection.response : Rejection -> Http.Response
  | .rateLimited => .error 429 "RATE_LIMITED" Moderation.Reply.rateLimited
  | .tooLarge => .error 413 "TOO_LARGE" Moderation.Reply.tooLarge
  | .notJson => .error 400 "BAD_JSON" "Da is gene proper JSON, jong."
  | .notObject => .error 400 "BAD_REQUEST" "Da requestke klopt ni."
  | .noMessages => .error 400 "BAD_REQUEST" "Ge mist `messages[]`."

/-- The length of the body that a request declares, if it is a number. -/
def declaredLength? (headers : Http.Headers) : Option Nat :=
  (headers.readable? "content-length").bind fun value =>
    Number.unsigned? Number.wordBound value.toList

/-- The value of a body; an empty body counts as an empty object. -/
def bodyValue? (body : List UInt8) : Option Json :=
  if body.isEmpty then some (.object []) else Json.readBytes? body

/-- The messages that a request carries, once the limiter has let it pass. -/
def messages (limits : Limits) (request : Http.Request) : Except Rejection (List Json) :=
  if (declaredLength? request.headers).any (· > limits.maxBodyBytes) then
    .error .tooLarge
  else if request.body.length > limits.maxBodyBytes then
    .error .tooLarge
  else
    match bodyValue? request.body with
    | none => .error .notJson
    | some (.object fields) =>
        match Json.lastField? "messages" fields with
        | some (.array items) => .ok items
        | _ => .error .noMessages
    | some _ => .error .notObject

/-- A response in the name of the assistant. -/
def assistantReply (content : String) (refused : Bool) : Http.Response :=
  .json 200 (.object
    [("message", .object [("content", .string content), ("role", .string "assistant")]),
     ("refused", .bool refused)])

/-- The response to the outcome of a conversation. -/
def outcomeResponse : Chat.Outcome -> Http.Response
  | .reply text => assistantReply text false
  | .refused verdict => assistantReply verdict.refusal true
  | .offline => .error 503 "AI_OFFLINE" Moderation.Reply.offline

/-- The response to a request that the limiter has let pass. -/
def answerAdmitted {σ : Type} (limits : Limits) (model : Chat.Model σ)
    (request : Http.Request) (state : σ) : Http.Response × σ :=
  match messages limits request with
  | .error rejection => (rejection.response, state)
  | .ok values =>
      let (outcome, state) :=
        Chat.converse model limits.maxInputChars (Chat.normalize values) state
      (outcomeResponse outcome, state)

/-- The response to a request to the endpoint at a time. -/
def answerChat {σ : Type} (limits : Limits) (model : Chat.Model σ) (now : Nat)
    (request : Http.Request) (limiter : Admission.Limiter) (state : σ) :
    Http.Response × Admission.Limiter × σ :=
  let client := Admission.clientKey request.headers request.peer
  let (admitted, limiter) := limiter.allow client now
  if admitted then
    let (response, state) := answerAdmitted limits model request state
    (response, limiter, state)
  else
    (Rejection.rateLimited.response, limiter, state)

end Server
end FlemishDesk
